import BreakageAdvisor.Number.Binary64
import BreakageAdvisor.Text.Basic

/-!
# JSON values

Integers and floating-point numbers are apart. An object is the list of its fields in order; a key
given again keeps its place and takes the later value.
-/

namespace BreakageAdvisor

/-- A JSON value. -/
inductive Json where
  | null
  | bool (b : Bool)
  | int (n : Int)
  | float (x : Binary64)
  | text (t : Text)
  | list (items : List Json)
  | object (fields : List (Text × Json))

/-- The fields of an object, in order. -/
abbrev Fields := List (Text × Json)

namespace Fields

/-- The value of a key. -/
def get? : Fields → Text → Option Json
  | [], _ => none
  | (k, v) :: rest, key => if k = key then some v else get? rest key

/-- Sets the value of a key: in its place, or at the end when the key is new. -/
def set : Fields → Text → Json → Fields
  | [], key, value => [(key, value)]
  | (k, v) :: rest, key, value =>
    if k = key then (k, value) :: rest else (k, v) :: set rest key value

/-- The value of a key, where an absent key and null are the same. -/
def getD (fields : Fields) (key : Text) : Json := (fields.get? key).getD .null

/-- The object with the given members, of which later ones win. -/
def ofList (members : List (Text × Json)) : Fields :=
  members.foldl (fun fields member => fields.set member.1 member.2) []

end Fields

namespace Json

/-- The kinds of JSON values, as messages name them. -/
inductive Kind where
  | null | bool | int | float | text | list | object
  deriving DecidableEq, Repr

/-- The kind of a value. -/
def kind : Json → Kind
  | null => .null
  | bool _ => .bool
  | int _ => .int
  | float _ => .float
  | text _ => .text
  | list _ => .list
  | object _ => .object

/-- The name of a kind in messages. -/
def Kind.name : Kind → Text
  | null => "NoneType"
  | bool => "bool"
  | int => "int"
  | float => "float"
  | text => "str"
  | list => "list"
  | object => "dict"

/-- Whether a value counts as true: null, false, zeros and empty texts, lists and objects do
not. -/
def truthy : Json → Bool
  | null => false
  | bool b => b
  | int n => n != 0
  | float x => !x.isZero
  | text t => !t.isEmpty
  | list items => !items.isEmpty
  | object fields => !fields.isEmpty

/-- The integer that a value is; true is one and false is zero. -/
def asInt? : Json → Option Int
  | int n => some n
  | bool b => some (if b then 1 else 0)
  | _ => none

/-- The text that a value is. -/
def asText? : Json → Option Text
  | text t => some t
  | _ => none

/-- The items of a list; any other value has none. -/
def items : Json → List Json
  | list xs => xs
  | _ => []

/-- The fields of an object; any other value has none. -/
def fields : Json → Fields
  | object fs => fs
  | _ => []

/-- Equality of scalar values: numbers by value, whatever their kind; texts; null. Lists and
objects equal nothing here. -/
def sameScalar : Json → Json → Bool
  | null, null => true
  | text s, text t => s == t
  | float x, float y => x.same y
  | float x, y => match y.asInt? with
    | some n => x.equalsInt n
    | none => false
  | x, float y => match x.asInt? with
    | some n => y.equalsInt n
    | none => false
  | x, y => match x.asInt?, y.asInt? with
    | some m, some n => m == n
    | _, _ => false

end Json

end BreakageAdvisor
