import BreakageAdvisor.Message
import Mathlib.Data.List.Basic

/-!
# Normal forms of messages

Catalogs may give a message in many ways. Reading a message and writing it back gives one of few
forms: a text, or a list of parts, each with a text and at most the modifier that stands for
emphasis. A message is read back from its form as it was, so the form stays as it is.
-/

namespace BreakageAdvisor

namespace Message

/-- The forms in which parts are written. -/
inductive IsNormalPart : Json → Prop where
  | plain (text : Text) : IsNormalPart (.object [("text", .text text)])
  | strong (text : Text) :
    IsNormalPart (.object [("text", .text text), ("modifier", .list [.text "strong"])])

/-- The forms in which messages are written. -/
inductive IsNormal : Json → Prop where
  | text (t : Text) : IsNormal (.text t)
  | list {items : List Json} (h : ∀ item ∈ items, IsNormalPart item) : IsNormal (.list items)

private theorem partOfJson?_partToJson (part : MessagePart) :
    partOfJson? (partToJson part) = some part := by
  obtain ⟨text, emphasis⟩ := part
  cases emphasis with
  | false => rfl
  | true => rfl

private theorem isNormalPart_partToJson (part : MessagePart) : IsNormalPart (partToJson part) := by
  unfold partToJson
  split
  · exact .strong _
  · exact .plain _

private theorem partToJson_of_isNormalPart {raw : Json} (h : IsNormalPart raw) :
    (partOfJson? raw).map partToJson = some raw := by
  cases h with
  | plain text => rfl
  | strong text => rfl

private theorem ofJson_toJson (m : Message) : ofJson m.toJson = m := by
  cases m with
  | plain text => rfl
  | rich parts =>
    rw [toJson, ofJson, List.filterMap_map]
    refine congrArg rich ?_
    calc parts.filterMap (partOfJson? ∘ partToJson)
      _ = parts.filterMap some := List.filterMap_congr fun part _ => partOfJson?_partToJson part
      _ = parts := List.filterMap_some

private theorem isNormal_toJson (m : Message) : IsNormal m.toJson := by
  cases m with
  | plain text => exact .text text
  | rich parts =>
    refine .list fun item hi => ?_
    obtain ⟨part, -, rfl⟩ := List.mem_map.mp hi
    exact isNormalPart_partToJson part

private theorem toJson_ofJson_of_isNormal {raw : Json} (h : IsNormal raw) :
    (ofJson raw).toJson = raw := by
  cases h with
  | text t => rfl
  | @list items h =>
    rw [ofJson, toJson, List.map_filterMap]
    refine congrArg Json.list ?_
    calc items.filterMap (fun item => (partOfJson? item).map partToJson)
      _ = items.filterMap some :=
        List.filterMap_congr fun item hi => partToJson_of_isNormalPart (h item hi)
      _ = items := List.filterMap_some

/-- Every message is read back as it was written. Whatever value stands for a message, reading and
writing it gives a normal form, which is the value itself only if that is one; the normal form is
read and written as it is, and the message in it has the same text and the same markup. -/
theorem normal_form_stays :
    (∀ m : Message, ofJson m.toJson = m) ∧
      ∀ raw : Json,
        IsNormal (ofJson raw).toJson ∧ ((ofJson raw).toJson = raw ↔ IsNormal raw) ∧
          (ofJson (ofJson raw).toJson).toJson = (ofJson raw).toJson ∧
          ∀ f : Format, (ofJson (ofJson raw).toJson).format f = (ofJson raw).format f := by
  refine ⟨ofJson_toJson, fun raw => ⟨isNormal_toJson _, ⟨fun h => ?_, toJson_ofJson_of_isNormal⟩,
    ?_, fun f => ?_⟩⟩
  · rw [← h]
    exact isNormal_toJson _
  · rw [ofJson_toJson]
  · rw [ofJson_toJson]

-- What is no object is no part, and either way to give emphasis is written as the modifier.
example :
    (ofJson (.list [.int 3, .object [("emphasis", .int 1), ("text", .bool true)]])).toJson =
      .list [.object [("text", .text "True"), ("modifier", .list [.text "strong"])]] := rfl

end Message

end BreakageAdvisor
