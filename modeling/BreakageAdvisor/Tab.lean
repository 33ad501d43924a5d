import BreakageAdvisor.Failure

/-!
# Tabs

Tabs of the browser, and the reports on their activity. The browser numbers its tabs; a truth
value counts as the number one or zero, and is shown as it was given.
-/

namespace BreakageAdvisor

/-- The number of a tab. -/
inductive TabId where
  | number (n : Int)
  | flag (b : Bool)
  deriving Repr

namespace TabId

/-- The number that a tab id is. -/
def value : TabId → Int
  | number n => n
  | flag b => if b then 1 else 0

/-- Whether two ids denote one tab. -/
def same (a b : TabId) : Bool := a.value == b.value

instance : BEq TabId := ⟨same⟩

/-- The id that a value is. -/
def ofJson? : Json → Option TabId
  | .int n => some (number n)
  | .bool b => some (flag b)
  | _ => none

/-- An id as the browser gave it. -/
def toJson : TabId → Json
  | number n => .int n
  | flag b => .bool b

/-- An id in messages. -/
def display (id : TabId) : Text := id.toJson.display

end TabId

/-- A snapshot of a tab. -/
structure Tab where
  id : TabId
  url : Text
  active : Bool
  deriving Repr

/-- A tab changed its URL or its load status. -/
structure TabUpdate where
  tab : Tab
  urlChanged : Bool
  status : Option Text
  deriving Repr

/-- A page issued a request. -/
structure RequestEvent where
  tab : TabId
  url : Text
  type : Option Text
  deriving Repr

namespace Tab

/-- The text of a value, where all that counts as false is the empty text. -/
def textOr (value : Json) : Text := if value.truthy then value.display else []

/-- Reads a tab as the browser describes it. -/
def ofJson : Json → Except Failure Tab
  | .object fields =>
    match TabId.ofJson? (Fields.getD fields "id") with
    | some id =>
      .ok ⟨id, textOr (Fields.getD fields "url"), (Fields.getD fields "active").truthy⟩
    | none => .error (.malformedTab (.object fields))
  | value => .error (.malformedTab value)

end Tab

end BreakageAdvisor
