import BreakageAdvisor.Pattern.Search

/-!
# Conditions

A condition decides whether a matched rule applies. Conditions are read from the descriptions in
catalogs; a description is refused at its first fault, left to right and outside in.
-/

namespace BreakageAdvisor

/-- What compiles the patterns of conditions and looks for them in URLs. -/
class PatternEngine where
  /-- What a pattern is compiled to. -/
  Compiled : Type
  compile : Text → Except PatternError Compiled
  /-- Whether a pattern occurs in a text. -/
  occurs : Compiled → Text → Bool

/-- The patterns that are compiled and searched for here. -/
instance Pattern.engine : PatternEngine := ⟨Pattern.Compiled, Pattern.compile, Pattern.occurs⟩

/-- A condition. The fields of a cookie condition are absent where the description gives no text. -/
inductive Condition [PatternEngine] where
  | constant (result : Bool)
  | every (children : List Condition)
  | any (children : List Condition)
  | negation (child : Option Condition)
  | cookie (domain name value part : Option Text)
  | url (pattern : Text) (compiled : PatternEngine.Compiled)

/-- Why a description is no condition. -/
inductive ConditionError where
  | notObject (kind : Json.Kind)
  | unknownType (type : Json)
  | childrenNotList (type : Json)
  | patternNotText
  | badPattern (pattern : Text) (error : PatternError)
  /-- A pattern that is refused for another reason than being malformed. -/
  | refusedPattern (pattern : Text) (error : PatternError)

namespace ConditionError

/-- The wording of an error. -/
def message : ConditionError → Text
  | notObject kind => "Condition must be an object, got " ++ kind.name
  | unknownType type => "Unknown condition type: " ++ type.inspect
  | childrenNotList type => type.display ++ " condition expects a list of conditions"
  | patternNotText => "url condition requires a string pattern"
  | badPattern pattern error =>
    "Invalid url pattern " ++ pattern.quoted ++ ": " ++ error.message pattern
  | refusedPattern pattern error => error.message pattern

/-- Whether the description is at fault. A pattern that is refused for another reason than being
malformed is not reported as a faulty description. -/
def blamesDescription : ConditionError → Bool
  | refusedPattern _ _ => false
  | _ => true

end ConditionError

/-- The types of conditions, by name. -/
inductive ConditionType where
  | constant | every | any | negation | cookie | url
  deriving DecidableEq, Repr

/-- The type of a name. -/
def ConditionType.ofName? : Json → Option ConditionType
  | .text t =>
    if t = "test" then some .constant
    else if t = "and" then some .every
    else if t = "or" then some .any
    else if t = "not" then some .negation
    else if t = "cookie" then some .cookie
    else if t = "url" then some .url
    else none
  | _ => none

namespace Condition

variable [PatternEngine]

/-- The condition of a pattern. -/
def ofPattern : Json → Except ConditionError Condition
  | .text pattern =>
    match PatternEngine.compile pattern with
    | .ok compiled => .ok (.url pattern compiled)
    | .error (.malformed fault place) => .error (.badPattern pattern (.malformed fault place))
    | .error error => .error (.refusedPattern pattern error)
  | _ => .error .patternNotText

mutual

/-- The condition of a description. -/
def ofJson : Json → Except ConditionError Condition
  | .object fields =>
    match ConditionType.ofName? (Fields.getD fields "type") with
    | some .constant =>
      let result := (Fields.get? fields "ret").getD (Fields.getD fields "result")
      .ok (.constant result.truthy)
    | some .every => (ofChildren (Fields.getD fields "type") fields).map .every
    | some .any => (ofChildren (Fields.getD fields "type") fields).map .any
    | some .negation => (ofChild fields).map .negation
    | some .cookie =>
      let field (key : Text) : Option Text := (Fields.getD fields key).asText?
      .ok (.cookie (field "domain") (field "name") (field "value") (field "value_contain"))
    | some .url => ofPattern (Fields.getD fields "pattern")
    | none => .error (.unknownType (Fields.getD fields "type"))
  | value => .error (.notObject value.kind)

/-- The children that the fields of a description give. -/
def ofChildren (type : Json) : List (Text × Json) → Except ConditionError (List Condition)
  | [] => .ok []
  | (key, .list items) :: rest =>
    if key = "conditions" then ofItems items else ofChildren type rest
  | (key, value) :: rest =>
    if key = "conditions" then
      if value.truthy then .error (.childrenNotList type) else .ok []
    else ofChildren type rest

/-- The conditions of a list of descriptions. -/
def ofItems : List Json → Except ConditionError (List Condition)
  | [] => .ok []
  | item :: rest => do
    let first ← ofJson item
    let others ← ofItems rest
    return first :: others

/-- The child that the fields of a negation give. -/
def ofChild : List (Text × Json) → Except ConditionError (Option Condition)
  | [] => .ok none
  | (key, .null) :: rest => if key = "condition" then .ok none else ofChild rest
  | (key, value) :: rest =>
    if key = "condition" then (ofJson value).map some else ofChild rest

end

end Condition

end BreakageAdvisor
