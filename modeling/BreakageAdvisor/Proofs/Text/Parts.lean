import BreakageAdvisor.Text.Basic
import Mathlib.Data.List.DropRight

/-!
# Parts of texts

Splitting and joining texts are splitting and joining lists. What looks for a code point finds
nothing in a text that does not hold it.
-/

namespace BreakageAdvisor

namespace Text

variable {c : CodePoint} {t : Text}

/-- Splitting a text is splitting a list. -/
theorem splitWhere_eq_splitOnP (p : CodePoint → Bool) (t : Text) :
    splitWhere p t = t.splitOnP p := by
  induction t with
  | nil => rfl
  | cons c t ih =>
    rw [List.splitOnP_cons_eq_if_modifyHead, splitWhere, ih]
    rcases hs : t.splitOnP p with _ | ⟨first, rest⟩
    · exact absurd hs (List.splitOnP_ne_nil p t)
    · rfl

/-- Where a text is split depends on its own code points only. -/
theorem splitWhere_congr {p q : CodePoint → Bool} (h : ∀ c ∈ t, p c = q c) :
    splitWhere p t = splitWhere q t := by
  induction t with
  | nil => rfl
  | cons c t ih =>
    obtain ⟨hc, ht⟩ := List.forall_mem_cons.mp h
    rw [splitWhere, splitWhere, ih ht, hc]

theorem dropWhile_congr {p q : CodePoint → Bool} (h : ∀ c ∈ t, p c = q c) :
    t.dropWhile p = t.dropWhile q := by
  induction t with
  | nil => rfl
  | cons c t ih =>
    obtain ⟨hc, ht⟩ := List.forall_mem_cons.mp h
    rw [List.dropWhile_cons, List.dropWhile_cons, ih ht, hc]

/-- No part holds the code point that a text is split at. -/
theorem not_mem_of_mem_splitOn {part : Text} (h : part ∈ t.splitOn c) : c ∉ part := by
  induction t generalizing part with
  | nil =>
    obtain rfl := List.mem_singleton.mp h
    exact List.not_mem_nil
  | cons d t ih =>
    rw [List.splitOn_cons_eq_if_modifyHead] at h
    rcases hs : t.splitOn c with _ | ⟨first, rest⟩
    · exact absurd hs (List.splitOn_ne_nil c t)
    · rw [hs] at h ih
      split at h
      · rcases List.mem_cons.mp h with rfl | h
        · exact List.not_mem_nil
        · exact ih h
      · next hd =>
        rcases List.mem_cons.mp h with rfl | h
        · rw [List.mem_cons, not_or]
          exact ⟨fun he => hd (beq_iff_eq.mpr he.symm), ih List.mem_cons_self⟩
        · exact ih (List.mem_cons_of_mem _ h)

/-- Joining texts is joining lists. -/
theorem join_eq_intercalate (separator : Text) (texts : List Text) :
    join separator texts = separator.intercalate texts := by
  induction texts with
  | nil => rfl
  | cons t rest ih =>
    cases rest with
    | nil => exact List.intercalate_singleton.symm
    | cons u rest => rw [join, ih, List.intercalate_cons_cons]; nofun

/-- The last texts of some, joined, end what all of them give. -/
theorem intercalate_suffix (separator : Text) {kept : List Text} (h : kept ≠ [])
    (before : List Text) :
    separator.intercalate kept <:+ separator.intercalate (before ++ kept) := by
  induction before with
  | nil => exact List.suffix_rfl
  | cons t before ih =>
    rw [List.cons_append, List.intercalate_cons_of_ne_nil (List.append_ne_nil_of_right_ne_nil _ h)]
    exact ih.trans (List.suffix_append _ _)

theorem splitFirst?_eq_none (h : c ∉ t) : splitFirst? c t = none := by
  induction t with
  | nil => rfl
  | cons d t ih =>
    rw [List.mem_cons, not_or] at h
    rw [splitFirst?, if_neg (Ne.symm h.1), ih h.2]

theorem splitFirst?_append (h : c ∉ t) (rest : Text) :
    splitFirst? c (t ++ c :: rest) = some (t, rest) := by
  induction t with
  | nil => simp [splitFirst?]
  | cons d t ih =>
    rw [List.mem_cons, not_or] at h
    rw [List.cons_append, splitFirst?, if_neg (Ne.symm h.1), ih h.2]

theorem afterLast_eq_self (h : c ∉ t) : afterLast c t = t :=
  List.rtakeWhile_eq_self_iff.mpr fun _ hd => bne_iff_ne.mpr fun he => h (he ▸ hd)

end Text

/-!
## Texts in texts

When a text begins with another, and when it holds another anywhere.
-/

namespace Text

/-- A beginning is cut off a text that begins so. -/
theorem dropPrefix?_eq_some_iff {p t rest : Text} :
    dropPrefix? p t = some rest ↔ t = p ++ rest := by
  induction p generalizing t with
  | nil => simp [dropPrefix?]
  | cons c p ih =>
    cases t with
    | nil => simp [dropPrefix?]
    | cons d t =>
      by_cases hc : c = d
      · simp [dropPrefix?, hc, ih]
      · simp [dropPrefix?, hc, Ne.symm hc]

/-- A text is the beginning of another if something can be put behind it that gives the other. -/
theorem isPrefixOf_iff {p t : Text} : isPrefixOf p t = true ↔ p <+: t := by
  rw [isPrefixOf, Option.isSome_iff_exists]
  exact ⟨fun ⟨rest, h⟩ => ⟨rest, (dropPrefix?_eq_some_iff.mp h).symm⟩,
    fun ⟨rest, h⟩ => ⟨rest, dropPrefix?_eq_some_iff.mpr h.symm⟩⟩

/-- A text occurs in another if it is one of its stretches. -/
theorem occursIn_iff {p t : Text} : occursIn p t ↔ p <:+: t := by
  induction t with
  | nil => simp [occursIn]
  | cons c t ih =>
    rw [occursIn, Bool.or_eq_true, isPrefixOf_iff, List.infix_cons_iff]
    exact or_congr_right ih

end Text

end BreakageAdvisor
