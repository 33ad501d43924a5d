import BreakageAdvisor.Failure
import BreakageAdvisor.Number.Reading

/-!
# Sections of settings

Settings are read from the sections of a document. A field that is absent has a default; a null is
a value like any other.
-/

namespace BreakageAdvisor

/-- The fields of a section, a value of which fields are asked for. -/
def Json.section (value : Json) : Except Failure Fields :=
  match value with
  | .object fields => .ok fields
  | other => .error (.noField other.kind "get")

namespace Fields

/-- A field, or a default where it is absent. -/
def getOr (fields : Fields) (key : Text) (default : Json) : Json :=
  (fields.get? key).getD default

/-- A section within a section; an absent one is empty. -/
def subsection (fields : Fields) (key : Text) : Except Failure Fields :=
  (getOr fields key (.object [])).section

end Fields

namespace Json

/-- The elements of a value as a set: items of a list, keys of an object, code points of a text. -/
def elements : Json → Except Failure (List Json)
  | .list items => .ok items
  | .object fields => .ok (fields.map fun field => .text field.1)
  | .text t => .ok (t.map fun c => .text [c])
  | value => .error (.notIterable value.kind)

/-- The elements among which each occurs once; one that cannot be in a set is an error. -/
def distinct : List Json → List Json → Except Failure (List Json)
  | [], seen => .ok seen.reverse
  | .list _ :: _, _ => .error (.unhashable .list)
  | .object _ :: _, _ => .error (.unhashable .object)
  | x :: rest, seen => distinct rest (if seen.any (·.sameScalar x) then seen else x :: seen)

/-- The set that a value gives. -/
def toSet (value : Json) : Except Failure (List Json) := do distinct (← value.elements) []

/-- The integer that a value gives. -/
def integer (value : Json) : Except Failure Int :=
  match value.toInteger with
  | .ok n => .ok n
  | .error error => .error (.number error)

/-- The floating-point number that a value gives. -/
def number (value : Json) : Except Failure Binary64 :=
  match value.toNumber with
  | .ok x => .ok x
  | .error error => .error (.number error)

/-- The path that a value gives, beneath a root unless it is absolute. -/
def path (root : Text) : Json → Except Failure Text
  | .text [] => .ok (root ++ "/")
  | .text (c :: rest) =>
    if c = '/' then .ok (c :: rest) else .ok (root ++ "/" ++ (c :: rest))
  | value => .error (.notPath value.kind)

end Json

end BreakageAdvisor
