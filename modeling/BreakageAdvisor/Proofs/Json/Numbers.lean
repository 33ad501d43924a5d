import BreakageAdvisor.Proofs.Json.Texts

/-!
# Integers are read back

An integer is written in decimal, without leading zeros, and read as the number that it is. A reader
stops at the first code point that cannot belong to a number, so this holds in front of whatever
ends a value in a document. Integers of too many digits are written but not read.
-/

namespace BreakageAdvisor

namespace CodePoint

private theorem asciiDigitValue?_ofDigit {d : Nat} (h : d < 10) :
    (ofDigit d).asciiDigitValue? = some d := by
  have hall : ∀ d < 10, (ofDigit d).asciiDigitValue? = some d := by decide
  exact hall d h

private theorem isSome_asciiDigitValue? (c : CodePoint) :
    c.asciiDigitValue?.isSome = c.isAsciiDigit := by
  rw [asciiDigitValue?, isAsciiDigit]
  split <;> simp_all

/-- The value of a decimal digit. -/
theorem asciiDigitValue?_eq_some_iff {c : CodePoint} {d : Nat} :
    c.asciiDigitValue? = some d ↔ d < 10 ∧ c.val = 48 + d := by
  rw [asciiDigitValue?]
  split <;> simp_all <;> omega

end CodePoint

namespace Text

private theorem ofNat_eq (n : Nat) : ofNat n = (Nat.toDigits 10 n).map CodePoint.ofChar := by
  have hpos : 0 < (Nat.toDigits 10 n).length := Nat.length_toDigits_pos
  have hpad : 1 - ((Nat.toDigits 10 n).map CodePoint.ofChar).length = 0 := by
    rw [List.length_map]
    omega
  rw [ofNat, ofDigits, hpad]
  rfl

theorem ofNat_ne_nil (n : Nat) : ofNat n ≠ [] := by
  rw [ofNat_eq, ne_eq, List.map_eq_nil_iff]
  exact Nat.toDigits_ne_nil

theorem ofNat_of_lt {n : Nat} (h : n < 10) : ofNat n = [CodePoint.ofDigit n] := by
  rw [ofNat_eq, Nat.toDigits_of_lt_base h]
  rfl

theorem ofNat_of_le {n : Nat} (h : 10 ≤ n) :
    ofNat n = ofNat (n / 10) ++ [CodePoint.ofDigit (n % 10)] := by
  rw [ofNat_eq, ofNat_eq, Nat.toDigits_of_base_le (by decide) h, List.map_append]
  rfl

/-- What holds of the digits below ten, and of a number's digits if it holds of those of its tenth,
holds of all numbers. -/
private theorem ofNat_induction {P : Nat → Text → Prop}
    (digit : ∀ n < 10, P n [CodePoint.ofDigit n])
    (append : ∀ n, 10 ≤ n → P (n / 10) (ofNat (n / 10)) →
      P n (ofNat (n / 10) ++ [CodePoint.ofDigit (n % 10)])) (n : Nat) : P n (ofNat n) := by
  by_cases h : n < 10
  · rw [ofNat_of_lt h]
    exact digit n h
  · have hle := Nat.le_of_not_lt h
    have hlt : n / 10 < n := Nat.div_lt_self (by omega) (by decide)
    rw [ofNat_of_le hle]
    exact append n hle (ofNat_induction digit append (n / 10))
termination_by n

/-- The number of some digits and one more. -/
theorem digitsValue_concat (digits : List Nat) (d : Nat) :
    digitsValue (digits ++ [d]) = 10 * digitsValue digits + d := by
  rw [digitsValue, digitsValue, List.foldl_append]
  rfl

private theorem digitsValue_ofNat (n : Nat) :
    digitsValue ((ofNat n).filterMap CodePoint.asciiDigitValue?) = n := by
  refine ofNat_induction
    (P := fun n t => digitsValue (t.filterMap CodePoint.asciiDigitValue?) = n) ?_ ?_ n
  · intro n hn
    simp [CodePoint.asciiDigitValue?_ofDigit hn, digitsValue]
  · intro n _ ih
    have hmod : n % 10 < 10 := Nat.mod_lt n (by decide)
    simp only [List.filterMap_append, List.filterMap_cons, List.filterMap_nil,
      CodePoint.asciiDigitValue?_ofDigit hmod, digitsValue_concat, ih]
    omega

/-- A number is written in decimal digits. -/
theorem isAsciiDigit_ofNat (n : Nat) : ∀ c ∈ ofNat n, c.isAsciiDigit = true := by
  have hdigit {d : Nat} (hd : d < 10) : (CodePoint.ofDigit d).isAsciiDigit = true := by
    rw [← CodePoint.isSome_asciiDigitValue?, CodePoint.asciiDigitValue?_ofDigit hd]
    rfl
  refine ofNat_induction (P := fun _ t => ∀ c ∈ t, c.isAsciiDigit = true) ?_ ?_ n
  · intro n hn c hc
    rw [List.mem_singleton.mp hc]
    exact hdigit hn
  · intro n _ ih c hc
    obtain hc | hc := List.mem_append.mp hc
    · exact ih c hc
    · rw [List.mem_singleton.mp hc]
      exact hdigit (Nat.mod_lt n (by decide))

private theorem exists_ofNat_eq_cons {n : Nat} (h : 0 < n) :
    ∃ c t, ofNat n = c :: t ∧ c ≠ CodePoint.ofChar '0' := by
  have hdigit : ∀ d < 10, 0 < d → CodePoint.ofDigit d ≠ CodePoint.ofChar '0' := by decide
  refine ofNat_induction
    (P := fun n s => 0 < n → ∃ c t, s = c :: t ∧ c ≠ CodePoint.ofChar '0') ?_ ?_ n h
  · intro n hn hpos
    exact ⟨_, _, rfl, hdigit n hn hpos⟩
  · intro n hn ih _
    obtain ⟨c, t, ht, hc⟩ := ih (by omega)
    exact ⟨c, _, by rw [ht, List.cons_append], hc⟩

end Text

namespace Json

/-- What may follow a value in a document: its end, or a code point that separates or closes. -/
def Ends (rest : Text) : Prop :=
  ∀ c ∈ rest.head?,
    c = CodePoint.ofChar ',' ∨ c = CodePoint.ofChar ']' ∨ c = CodePoint.ofChar '\x7d'

theorem Ends.nil : Ends [] := nofun

private theorem splitWhole_ofNat (n : Nat) {rest : Text} (h : Ends rest) :
    splitWhole (Text.ofNat n ++ rest) = (Text.ofNat n, rest) := by
  have hend : rest.takeWhile CodePoint.isAsciiDigit = [] ∧
      rest.dropWhile CodePoint.isAsciiDigit = rest := by
    cases rest with
    | nil => exact ⟨rfl, rfl⟩
    | cons c rest =>
      have hc : c.isAsciiDigit = false := by
        obtain rfl | rfl | rfl := h c rfl <;> rfl
      simp [hc]
  by_cases hn : 0 < n
  · have htake : (Text.ofNat n ++ rest).takeWhile CodePoint.isAsciiDigit = Text.ofNat n := by
      rw [List.takeWhile_append_of_pos (Text.isAsciiDigit_ofNat n), hend.1, List.append_nil]
    have hdrop : (Text.ofNat n ++ rest).dropWhile CodePoint.isAsciiDigit = rest := by
      rw [List.dropWhile_append_of_pos (Text.isAsciiDigit_ofNat n), hend.2]
    obtain ⟨c, t, ht, hc⟩ := Text.exists_ofNat_eq_cons hn
    rw [ht, List.cons_append] at htake hdrop
    rw [ht, List.cons_append, splitWhole, if_neg hc, htake, hdrop]
  · obtain rfl : n = 0 := Nat.eq_zero_of_not_pos hn
    rfl

private theorem splitFraction_of_ends {rest : Text} (h : Ends rest) :
    splitFraction rest = ([], rest) := by
  cases rest with
  | nil => rfl
  | cons c rest =>
    have hc : c ≠ CodePoint.ofChar '.' := by
      obtain rfl | rfl | rfl := h c rfl <;> decide
    rw [splitFraction, if_neg fun hpoint => hc hpoint.1]

private theorem splitExponent_of_ends {rest : Text} (h : Ends rest) :
    splitExponent rest = (none, rest) := by
  cases rest with
  | nil => rfl
  | cons c rest =>
    have hc : ¬ (c = CodePoint.ofChar 'e' ∨ c = CodePoint.ofChar 'E') := by
      obtain rfl | rfl | rfl := h c rfl <;> decide
    exact if_neg fun hmark => hc hmark.1

/-- The digits of an integer that are not too many are read as the integer. -/
theorem scanNumber_ofNat (negative : Bool) {n : Nat}
    (hn : (Text.ofNat n).length ≤ maxIntegerDigits) {rest : Text} (h : Ends rest) :
    scanNumber negative (Text.ofNat n ++ rest) =
      .ok (some (.int (if negative then -(n : Int) else n), rest)) := by
  have hempty : (Text.ofNat n).isEmpty = false :=
    List.isEmpty_eq_false_iff.mpr (Text.ofNat_ne_nil n)
  simp only [scanNumber, splitWhole_ofNat n h, splitFraction_of_ends h, splitExponent_of_ends h,
    hempty, List.append_nil, Text.digitsValue_ofNat]
  exact if_neg (Nat.not_lt.mpr hn)

end Json

end BreakageAdvisor
