import BreakageAdvisor.Proofs.Json.RoundTrip
import BreakageAdvisor.Proofs.Text.Utf8

/-!
# Which documents can be encoded

A document in the form of frames writes what its texts hold as it is, apart from escapes. So it can
be encoded exactly if no text in the value holds a surrogate, however deep and in whatever place,
keys included, and no integer in it has too many digits to be written. All else that it writes is
ASCII.
-/

namespace BreakageAdvisor

namespace Text

private theorem isScalar_join {separator : Text} (hs : separator.isScalar = true)
    {texts : List Text} :
    (join separator texts).isScalar = true ↔ ∀ t ∈ texts, t.isScalar = true := by
  induction texts with
  | nil => simp [join]
  | cons t texts ih =>
    cases texts with
    | nil => simp [join]
    | cons next texts =>
      rw [Json.join_cons_cons, isScalar_append, isScalar_append, ih, and_iff_left hs]
      simp only [List.mem_cons, forall_eq_or_imp]

end Text

private theorem Decimal.isScalar_layout (d : Decimal) : d.layout.isScalar = true := by
  have hdigits := Text.isScalar_ofNat d.digits
  have htake (n : Nat) := Text.isScalar_of_sublist ((Text.ofNat d.digits).take_sublist n) hdigits
  have hdrop (n : Nat) := Text.isScalar_of_sublist ((Text.ofNat d.digits).drop_sublist n) hdigits
  have htail := Text.isScalar_of_sublist (Text.ofNat d.digits).tail_sublist hdigits
  dsimp only [layout]
  split
  · split
    · simp
    · split <;> simp [htake, hdrop]
  · split <;> split <;> simp [htake, htail]

private theorem Binary64.isScalar_write (x : Binary64) :
    (x.write Json.documentWords).isScalar = true := by
  cases x with
  | nan => exact Text.isScalar_ofString "NaN"
  | infinite negative => cases negative <;> simp [write, Json.documentWords]
  | finite negative mantissa exponent =>
    have hsize : Text.isScalar (if mantissa = 0 then Text.ofString "0.0"
        else (Decimal.shortest mantissa exponent).layout) = true := by
      split
      · exact Text.isScalar_ofString "0.0"
      · exact Decimal.isScalar_layout _
    cases negative <;> simpa [write] using hsize

namespace Json

/-- The texts of a value itself, its keys included, hold no surrogate. -/
def Scalar : Json → Prop
  | text t => t.isScalar = true
  | object fields => ∀ field ∈ fields, field.1.isScalar = true
  | _ => True

private theorem parts_induction {P : Json → Prop}
    (h : ∀ value, (∀ part ∈ value.parts, P part) → P value)
    (value : Json) : P value := by
  refine h value fun part hpart => ?_
  have hlt : sizeOf part < sizeOf value := by
    cases value with
    | list items =>
      have hmem : part ∈ items := hpart
      have := List.sizeOf_lt_of_mem hmem
      simp only [list.sizeOf_spec]
      omega
    | object fields =>
      obtain ⟨⟨key, value⟩, hfield, rfl⟩ := List.mem_map.mp hpart
      have := List.sizeOf_lt_of_mem hfield
      simp only [object.sizeOf_spec, Prod.mk.sizeOf_spec] at this ⊢
      omega
    | _ => cases hpart
  exact parts_induction h part
termination_by value

private theorem everywhere_iff {P : Json → Prop} {value : Json} :
    value.Everywhere P ↔ P value ∧ ∀ part ∈ value.parts, part.Everywhere P := by
  constructor
  · rintro ⟨here, within⟩
    exact ⟨here, within⟩
  · rintro ⟨here, within⟩
    exact .intro here within

section Everywhere

variable {P : Json → Prop}

@[simp]
theorem everywhere_null : null.Everywhere P ↔ P null :=
  everywhere_iff.trans (and_iff_left (List.forall_mem_nil _))

@[simp]
theorem everywhere_bool {b : Bool} : (bool b).Everywhere P ↔ P (bool b) :=
  everywhere_iff.trans (and_iff_left (List.forall_mem_nil _))

@[simp]
theorem everywhere_int {n : Int} : (int n).Everywhere P ↔ P (int n) :=
  everywhere_iff.trans (and_iff_left (List.forall_mem_nil _))

@[simp]
theorem everywhere_float {x : Binary64} : (float x).Everywhere P ↔ P (float x) :=
  everywhere_iff.trans (and_iff_left (List.forall_mem_nil _))

@[simp]
theorem everywhere_text {t : Text} : (text t).Everywhere P ↔ P (text t) :=
  everywhere_iff.trans (and_iff_left (List.forall_mem_nil _))

@[simp]
theorem everywhere_list {items : List Json} :
    (list items).Everywhere P ↔ P (list items) ∧ ∀ item ∈ items, item.Everywhere P :=
  everywhere_iff

@[simp]
theorem everywhere_object {fields : Fields} :
    (object fields).Everywhere P ↔ P (object fields) ∧ ∀ field ∈ fields, field.2.Everywhere P := by
  rw [everywhere_iff, parts, List.forall_mem_map]

end Everywhere

/-- What holds of a value everywhere implies what it implies, everywhere. -/
theorem Everywhere.imp {P Q : Json → Prop} (hpq : ∀ value, P value → Q value) {value : Json}
    (h : value.Everywhere P) : value.Everywhere Q := by
  induction h with
  | intro here _ ih => exact .intro (hpq _ here) ih

/-- What two properties hold of everywhere, both hold of everywhere. -/
theorem Everywhere.and {P Q : Json → Prop} {value : Json} (hp : value.Everywhere P)
    (hq : value.Everywhere Q) : value.Everywhere fun part => P part ∧ Q part := by
  induction hp with
  | intro here _ ih =>
    obtain ⟨hereQ, withinQ⟩ := everywhere_iff.mp hq
    exact .intro ⟨here, hereQ⟩ fun part hpart => ih part hpart (withinQ part hpart)

private theorem isScalar_numericEscape (c : CodePoint) : (numericEscape c).isScalar = true := by
  have hunit (n : Nat) : (unitEscape n).isScalar = true := by simp [unitEscape]
  rw [numericEscape]
  split <;> simp [hunit]

private theorem isScalar_writePoint_iff {c : CodePoint} :
    (writePoint false c).isScalar = true ↔ c.isScalar = true := by
  have hsmall (h : c.val < 0x80) : c.isScalar = true := CodePoint.isScalar_iff.mpr (.inl (by omega))
  have hescape (s : String) (h : c.val < 0x80) :
      (Text.ofString s).isScalar = true ↔ c.isScalar = true :=
    iff_of_true (Text.isScalar_ofString s) (hsmall h)
  rw [writePoint]
  split
  case h_8 =>
    split
    · next h =>
      have hcontrol : c.val < 32 := by simpa using h
      exact iff_of_true (isScalar_numericEscape c) (hsmall (by omega))
    · simp
  all_goals
    next h => exact hescape _ (by omega)

private theorem isScalar_writeText_iff {t : Text} :
    (writeText false t).isScalar = true ↔ t.isScalar = true := by
  have hpoints : Text.isScalar (t.flatMap (writePoint false)) = true ↔ t.isScalar = true := by
    induction t with
    | nil => rfl
    | cons c t ih =>
      rw [List.flatMap_cons, Text.isScalar_append, isScalar_writePoint_iff, ih, Text.isScalar_cons]
  rw [writeText, List.cons_append, Text.isScalar_cons, Text.isScalar_append, hpoints]
  simp

/-- A value is written without surrogates exactly if no text in it holds one. -/
theorem isScalar_write_iff {value : Json} :
    (value.write .compact).isScalar = true ↔ value.Everywhere Scalar := by
  induction value using parts_induction with
  | h value ih =>
    cases value with
    | null => simp [write, Scalar]
    | bool b => cases b <;> simp [write, Scalar]
    | int n =>
      have hint : (Text.ofInt n).isScalar = true := by
        rw [Text.ofInt]
        split <;> simp
      simp [write, hint, Scalar]
    | float x => simp [write, x.isScalar_write, Scalar]
    | text t => simp [write, isScalar_writeText_iff, Form.compact, Scalar]
    | list items =>
      have hseparator : Form.compact.itemSeparator.isScalar = true := Text.isScalar_ofString ","
      rw [write_list, Text.isScalar_cons, Text.isScalar_append, Text.isScalar_join hseparator,
        List.forall_mem_map]
      have hitems : (∀ item ∈ items, (write .compact item).isScalar = true) ↔
          ∀ item ∈ items, item.Everywhere Scalar := forall₂_congr ih
      simpa [Scalar] using hitems
    | object fields =>
      have hseparator : Form.compact.itemSeparator.isScalar = true := Text.isScalar_ofString ","
      have hfield (field : Text × Json) (hfield : field ∈ fields) :
          (writeField .compact field).isScalar = true ↔
            field.1.isScalar = true ∧ field.2.Everywhere Scalar := by
        have hvalue := ih field.2 (List.mem_map_of_mem hfield)
        have hcolon : Form.compact.keySeparator.isScalar = true := Text.isScalar_ofString ":"
        have hkey : (writeText Form.compact.asciiOnly field.1).isScalar = true ↔
            field.1.isScalar = true := isScalar_writeText_iff
        rw [writeField, Text.isScalar_append, Text.isScalar_append, hkey, hvalue,
          and_iff_left hcolon]
      rw [write_object, Text.isScalar_cons, Text.isScalar_append, Text.isScalar_join hseparator,
        List.forall_mem_map, forall₂_congr hfield]
      simp only [everywhere_object, forall_and, Scalar, CodePoint.isScalar_ofChar,
        Text.isScalar_cons, Text.isScalar_nil, and_self, and_true, true_and]

/-- An integer has no more digits than may be written. -/
def Short : Json → Prop
  | int n => (Text.ofNat n.natAbs).length ≤ maxIntegerDigits
  | _ => True

private theorem haveHugeInteger_eq_any (items : List Json) :
    haveHugeInteger items = items.any hasHugeInteger := by
  induction items with
  | nil => rfl
  | cons item items ih => rw [haveHugeInteger, ih, List.any_cons]

private theorem fieldsHaveHugeInteger_eq_any (fields : Fields) :
    fieldsHaveHugeInteger fields = fields.any fun field => field.2.hasHugeInteger := by
  induction fields with
  | nil => rfl
  | cons field fields ih => rw [fieldsHaveHugeInteger, ih, List.any_cons]

/-- Integers are looked at everywhere. -/
theorem hasHugeInteger_eq_false_iff {value : Json} :
    value.hasHugeInteger = false ↔ value.Everywhere Short := by
  induction value using parts_induction with
  | h value ih =>
    cases value with
    | int n => simp [hasHugeInteger, Short]
    | list items =>
      have hitems : (∀ item ∈ items, item.hasHugeInteger = false) ↔
          ∀ item ∈ items, item.Everywhere Short := forall₂_congr ih
      simpa [hasHugeInteger, haveHugeInteger_eq_any, Short] using hitems
    | object fields =>
      have hfields : (∀ field ∈ fields, field.2.hasHugeInteger = false) ↔
          ∀ field ∈ fields, field.2.Everywhere Short :=
        forall₂_congr fun field hfield => ih field.2 (List.mem_map_of_mem hfield)
      simpa [hasHugeInteger, fieldsHaveHugeInteger_eq_any, Short, -Prod.forall] using hfields
    | _ => simp [hasHugeInteger, Short]

/-- What a value has to be itself to be encoded. -/
def Encodable (value : Json) : Prop := value.Scalar ∧ value.Short

theorem everywhere_encodable {value : Json} :
    value.Everywhere Encodable ↔ value.Everywhere Scalar ∧ value.Everywhere Short := by
  constructor
  · intro h
    exact ⟨h.imp fun part hpart => hpart.1, h.imp fun part hpart => hpart.2⟩
  · rintro ⟨hscalar, hshort⟩
    exact hscalar.and hshort

end Json

end BreakageAdvisor
