import BreakageAdvisor.Proofs.Condition.Meaning
import Mathlib.Data.List.Forall2

/-!
# Which descriptions are conditions

A description is a tree: the descriptions within it are the children that it lists, or the one that
it negates. It is accepted if nothing is wrong with any description of the tree by itself, and then
the condition has the same tree. Otherwise it is refused for what is wrong with the first such
description, where each comes before those within it, from left to right; and then nothing is asked
for.
-/

namespace BreakageAdvisor

namespace Condition

/-- The type of the condition that the fields of a description give. -/
def typeOf? (fields : Fields) : Option ConditionType :=
  ConditionType.ofName? (Fields.getD fields "type")

/-- A description has the type of a condition with a list of children. -/
def Lists (fields : Fields) : Prop := typeOf? fields = some .every ∨ typeOf? fields = some .any

section Grammar

/-- A condition has the tree of a description, and at every place what the description says
there. -/
inductive Mirrors [PatternEngine] : Json → Condition → Prop where
  | constant {fields : Fields} (ht : typeOf? fields = some .constant) :
    Mirrors (.object fields)
      (.constant ((Fields.get? fields "ret").getD (Fields.getD fields "result")).truthy)
  | every {fields : Fields} {children : List Condition} (ht : typeOf? fields = some .every)
      (h : List.Forall₂ Mirrors (Fields.getD fields "conditions").items children) :
    Mirrors (.object fields) (.every children)
  | any {fields : Fields} {children : List Condition} (ht : typeOf? fields = some .any)
      (h : List.Forall₂ Mirrors (Fields.getD fields "conditions").items children) :
    Mirrors (.object fields) (.any children)
  | childless {fields : Fields} (ht : typeOf? fields = some .negation)
      (hv : Fields.getD fields "condition" = .null) : Mirrors (.object fields) (.negation none)
  | negation {fields : Fields} {child : Condition} (ht : typeOf? fields = some .negation)
      (hv : Fields.getD fields "condition" ≠ .null)
      (h : Mirrors (Fields.getD fields "condition") child) :
    Mirrors (.object fields) (.negation (some child))
  | cookie {fields : Fields} (ht : typeOf? fields = some .cookie) :
    Mirrors (.object fields)
      (.cookie (Fields.getD fields "domain").asText? (Fields.getD fields "name").asText?
        (Fields.getD fields "value").asText? (Fields.getD fields "value_contain").asText?)
  | url {fields : Fields} {pattern : Text} {compiled : PatternEngine.Compiled}
      (ht : typeOf? fields = some .url) (hv : Fields.getD fields "pattern" = .text pattern)
      (hc : PatternEngine.compile pattern = .ok compiled) :
    Mirrors (.object fields) (.url pattern compiled)

/-- What is wrong with a value in the place of a list of children. -/
def listFault? (type : Json) : Json → Option ConditionError
  | .list _ => none
  | value => if value.truthy then some (.childrenNotList type) else none

/-- What is wrong with a value in the place of a pattern. -/
def patternFault? [PatternEngine] : Json → Option ConditionError
  | .text pattern =>
    match PatternEngine.compile pattern with
    | .ok _ => none
    | .error (.malformed fault place) => some (.badPattern pattern (.malformed fault place))
    | .error error => some (.refusedPattern pattern error)
  | _ => some .patternNotText

/-- What is wrong with a description by itself, whatever is within it. -/
def fault? [PatternEngine] : Json → Option ConditionError
  | .object fields =>
    match typeOf? fields with
    | some .every => listFault? (Fields.getD fields "type") (Fields.getD fields "conditions")
    | some .any => listFault? (Fields.getD fields "type") (Fields.getD fields "conditions")
    | some .url => patternFault? (Fields.getD fields "pattern")
    | some _ => none
    | none => some (.unknownType (Fields.getD fields "type"))
  | value => some (.notObject value.kind)

/-- The descriptions directly within a description. -/
def parts : Json → List Json
  | .object fields =>
    match typeOf? fields with
    | some .every => (Fields.getD fields "conditions").items
    | some .any => (Fields.getD fields "conditions").items
    | some .negation =>
      match Fields.getD fields "condition" with
      | .null => []
      | inner => [inner]
    | _ => []
  | _ => []

private theorem sizeOf_lt_of_mem_parts {description part : Json} (h : part ∈ parts description) :
    sizeOf part < sizeOf description := by
  unfold parts at h
  split at h
  · next fields =>
    split at h
    · exact Nat.lt_trans (Json.sizeOf_lt_of_mem_items h) (Fields.sizeOf_getD_lt _ _)
    · exact Nat.lt_trans (Json.sizeOf_lt_of_mem_items h) (Fields.sizeOf_getD_lt _ _)
    · split at h
      · cases h
      · rw [List.mem_singleton.mp h]
        exact Fields.sizeOf_getD_lt _ _
    · cases h
  · cases h

/-- All descriptions of a tree, each before those within it, from left to right. -/
def nodes (description : Json) : List Json :=
  description :: (parts description).attach.flatMap fun part => nodes part.1
termination_by sizeOf description
decreasing_by exact sizeOf_lt_of_mem_parts part.2

/-- The tree of a description is the description and the trees within it. -/
theorem nodes_eq (description : Json) :
    nodes description = description :: (parts description).flatMap nodes := by
  rw [nodes, List.flatMap_subtype fun part _ => rfl, List.unattach_attach]

/-- A description with a list of children has its items within it. -/
theorem parts_of_lists {fields : Fields} (h : Lists fields) :
    parts (.object fields) = (Fields.getD fields "conditions").items := by
  rcases h with ht | ht <;> simp only [parts, ht]

end Grammar

section Reading

variable [PatternEngine]

end Reading

section Trees

variable [PatternEngine]

end Trees

end Condition

end BreakageAdvisor
