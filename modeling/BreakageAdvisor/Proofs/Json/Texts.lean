import BreakageAdvisor.Json.Reader
import BreakageAdvisor.Json.Writer
import Mathlib.Data.List.Chain

/-!
# Texts are read back

A text is written with escapes for what may not stand for itself, and in stored documents also for
all that is not printable ASCII. Reading the escapes gives the text again, unless it holds a high
surrogate directly in front of a low one: those are escaped one by one and read as one code point.
-/

namespace BreakageAdvisor

namespace CodePoint

/-- Whether a code point is the first half of a surrogate pair. -/
def isHigh (c : CodePoint) : Bool := 0xD800 ≤ c.val && c.val ≤ 0xDBFF

/-- Whether a code point is the second half of a surrogate pair. -/
def isLow (c : CodePoint) : Bool := 0xDC00 ≤ c.val && c.val ≤ 0xDFFF

/-- A digit in a base up to 16. -/
def ofDigit (d : Nat) : CodePoint := ofChar (Nat.digitChar d)

private theorem hexValue?_ofDigit {d : Nat} (h : d < 16) : (ofDigit d).hexValue? = some d := by
  have hall : ∀ d < 16, (ofDigit d).hexValue? = some d := by decide
  exact hall d h

end CodePoint

namespace Text

/-- No high surrogate stands directly in front of a low one. -/
def Unpaired (t : Text) : Prop := t.IsChain fun c d => c.isHigh = true → d.isLow = false

/-- A text without surrogates has no pair of them. -/
theorem unpaired_of_isScalar {t : Text} (h : t.isScalar = true) : t.Unpaired := by
  induction t with
  | nil => exact .nil
  | cons c t ih =>
    obtain ⟨hc, ht⟩ := Bool.and_eq_true_iff.mp h
    refine List.isChain_cons.mpr ⟨fun d _ hhigh => ?_, ih ht⟩
    simp only [CodePoint.isScalar, CodePoint.isHigh, Bool.and_eq_true, Bool.or_eq_true,
      decide_eq_true_eq] at hc hhigh
    omega

private theorem ofDigits_succ {base width : Nat} (hb : 1 < base) (hw : 0 < width) (n : Nat) :
    ofDigits base (width + 1) n =
      ofDigits base width (n / base) ++ [CodePoint.ofDigit (n % base)] := by
  by_cases hn : n < base
  · rw [ofDigits, ofDigits, Nat.toDigits_of_lt_base hn, Nat.div_eq_of_lt hn, Nat.mod_eq_of_lt hn,
      Nat.toDigits_of_lt_base (Nat.zero_lt_of_lt hb)]
    cases width with
    | zero => exact absurd hw (Nat.lt_irrefl 0)
    | succ width => simp [List.replicate_succ', CodePoint.ofDigit, Nat.digitChar]
  · rw [ofDigits, ofDigits, Nat.toDigits_of_base_le hb (Nat.le_of_not_lt hn)]
    simp [CodePoint.ofDigit]

private theorem ofDigits_unit {n : Nat} (h : n < 0x10000) :
    ofDigits 16 4 n = [CodePoint.ofDigit (n / 0x1000), CodePoint.ofDigit (n / 0x100 % 16),
      CodePoint.ofDigit (n / 0x10 % 16), CodePoint.ofDigit (n % 16)] := by
  have hsmall : n / 16 / 16 / 16 < 16 := by omega
  have hone : ofDigits 16 1 (n / 16 / 16 / 16) = [CodePoint.ofDigit (n / 16 / 16 / 16)] := by
    rw [ofDigits, Nat.toDigits_of_lt_base hsmall]
    rfl
  rw [ofDigits_succ (by decide) (by decide), ofDigits_succ (by decide) (by decide),
    ofDigits_succ (by decide) (by decide), hone]
  simp [Nat.div_div_eq_div_mul]

end Text

namespace Json

section Scanning

variable (start : Nat) (afterHigh : Bool) (read : Text)

private theorem scanText_plain (c : CodePoint) (rest : Text) :
    scanText start .plain afterHigh read (c :: rest) =
      if c = '"' then .ok (read.reverse, rest)
      else if c = '\\' then scanText start .escape afterHigh read rest
      else if c.val < 32 then .error (.malformed .controlCharacter (rest.length + 1))
      else scanText start .plain false (c :: read) rest := rfl

private theorem scanText_escape (c : CodePoint) (rest : Text) :
    scanText start .escape afterHigh read (c :: rest) =
      if c = 'u' then scanText start (.hex (rest.length + 1) 0 4) afterHigh read rest
      else match simpleEscape? c with
        | some d => scanText start .plain false (d :: read) rest
        | none => .error (.malformed .badEscape (rest.length + 2)) := rfl

private theorem scanText_backslash (rest : Text) :
    scanText start .plain afterHigh read (CodePoint.ofChar '\\' :: rest) =
      scanText start .escape afterHigh read rest := by
  rw [scanText_plain, if_neg (by decide), if_pos rfl]

private theorem scanText_simple {c d : CodePoint} (hc : simpleEscape? c = some d)
    (hu : c ≠ CodePoint.ofChar 'u') (rest : Text) :
    scanText start .plain afterHigh read (CodePoint.ofChar '\\' :: c :: rest) =
      scanText start .plain false (d :: read) rest := by
  rw [scanText_backslash, scanText_escape, if_neg hu, hc]

private theorem scanText_raw {c : CodePoint} (hq : c ≠ CodePoint.ofChar '"')
    (hb : c ≠ CodePoint.ofChar '\\') (hc : 32 ≤ c.val) (rest : Text) :
    scanText start .plain afterHigh read (c :: rest) =
      scanText start .plain false (c :: read) rest := by
  rw [scanText_plain, if_neg hq, if_neg hb, if_neg (Nat.not_lt.mpr hc)]

private theorem scanText_digit {d : Nat} (hd : d < 16) (place value left : Nat) (rest : Text) :
    scanText start (.hex place value (left + 2)) afterHigh read (CodePoint.ofDigit d :: rest) =
      scanText start (.hex place (16 * value + d) (left + 1)) afterHigh read rest := by
  rw [scanText, CodePoint.hexValue?_ofDigit hd]
  exact if_neg (by omega)

private theorem scanText_lastDigit {d : Nat} (hd : d < 16) (place value : Nat) {rest : Text}
    (hrest : rest ≠ []) :
    scanText start (.hex place value 1) afterHigh read (CodePoint.ofDigit d :: rest) =
      scanText start .plain (0xD800 ≤ 16 * value + d && 16 * value + d ≤ 0xDBFF)
        (addEscaped afterHigh read (16 * value + d)) rest := by
  have hempty : ¬ rest.isEmpty = true := by simpa using hrest
  rw [scanText, CodePoint.hexValue?_ofDigit hd]
  exact (if_pos rfl).trans (if_neg hempty)

private theorem scanText_unitEscape {n : Nat} (hn : n < 0x10000) {rest : Text} (hrest : rest ≠ []) :
    scanText start .plain afterHigh read (unitEscape n ++ rest) =
      scanText start .plain (0xD800 ≤ n && n ≤ 0xDBFF) (addEscaped afterHigh read n) rest := by
  have hmod (d : Nat) : d % 16 < 16 := Nat.mod_lt d (by decide)
  have hvalue : 16 * (16 * (16 * (16 * 0 + n / 0x1000) + n / 0x100 % 16) + n / 0x10 % 16) + n % 16
      = n := by omega
  rw [unitEscape, Text.ofDigits_unit hn]
  simp only [List.cons_append, List.nil_append]
  rw [scanText_backslash, scanText_escape, if_pos rfl, scanText_digit _ _ _ (by omega),
    scanText_digit _ _ _ (hmod _), scanText_digit _ _ _ (hmod _),
    scanText_lastDigit _ _ _ (hmod _) _ _ hrest, hvalue]

end Scanning

/-- A unit that does not complete a pair is a code point of its own. -/
theorem addEscaped_of_not_low {afterHigh : Bool} {n : Nat}
    (h : afterHigh = true → ¬ (0xDC00 ≤ n ∧ n ≤ 0xDFFF)) (read : Text) :
    addEscaped afterHigh read n = Fin.ofNat _ n :: read := by
  have hpair : (afterHigh && 0xDC00 ≤ n && n ≤ 0xDFFF) = false := by
    rw [Bool.eq_false_iff]
    intro hpair
    simp only [Bool.and_eq_true, decide_eq_true_eq] at hpair
    exact h hpair.1.1 ⟨hpair.1.2, hpair.2⟩
  simp only [addEscaped, hpair]

private theorem addEscaped_pair {c : CodePoint} (hc : 0x10000 ≤ c.val) (read : Text) :
    addEscaped true (Fin.ofNat _ (0xD800 + (c.val - 0x10000) / 0x400) :: read)
      (0xDC00 + c.val % 0x400) = c :: read := by
  have hlt := c.isLt
  have hlow : (true && 0xDC00 ≤ 0xDC00 + c.val % 0x400 && 0xDC00 + c.val % 0x400 ≤ 0xDFFF) =
      true := by
    simp only [Bool.true_and, Bool.and_eq_true, decide_eq_true_eq]
    omega
  simp only [addEscaped, hlow]
  refine congrArg (· :: read) (Fin.ext ?_)
  simp only [Fin.val_ofNat]
  omega

private theorem scanText_numericEscape {start : Nat} {afterHigh : Bool} {read rest : Text}
    {c : CodePoint}
    (hlow : afterHigh = true → c.isLow = false) (hrest : rest ≠ []) :
    ∃ high, (high = true → c.isHigh = true) ∧
      scanText start .plain afterHigh read (numericEscape c ++ rest) =
        scanText start .plain high (c :: read) rest := by
  have hlt := c.isLt
  have hnotlow : afterHigh = true → ¬ (0xDC00 ≤ c.val ∧ c.val ≤ 0xDFFF) := by
    intro hhigh
    simpa [CodePoint.isLow] using hlow hhigh
  rw [numericEscape]
  split
  · next hsmall =>
    refine ⟨c.isHigh, id, ?_⟩
    have hself : Fin.ofNat _ c.val = c := Fin.ext (Nat.mod_eq_of_lt hlt)
    rw [scanText_unitEscape _ _ _ hsmall hrest, addEscaped_of_not_low hnotlow, hself]
    rfl
  · next hlarge =>
    refine ⟨false, nofun, ?_⟩
    have hhigh : (0xD800 ≤ 0xD800 + (c.val - 0x10000) / 0x400 &&
        0xD800 + (c.val - 0x10000) / 0x400 ≤ 0xDBFF) = true := by
      simp only [Bool.and_eq_true, decide_eq_true_eq]
      omega
    have hnothigh : (0xD800 ≤ 0xDC00 + c.val % 0x400 && 0xDC00 + c.val % 0x400 ≤ 0xDBFF) =
        false := by
      simp only [Bool.and_eq_false_iff, decide_eq_false_iff_not]
      omega
    rw [List.append_assoc, scanText_unitEscape _ _ _ (by omega) (by simp [unitEscape]), hhigh,
      addEscaped_of_not_low (by omega), scanText_unitEscape _ _ _ (by omega) hrest, hnothigh,
      addEscaped_pair (Nat.not_lt.mp hlarge)]

private theorem scanText_writePoint {start : Nat} {afterHigh : Bool} {read rest : Text}
    {c : CodePoint}
    (hlow : afterHigh = true → c.isLow = false) (hrest : rest ≠ []) (asciiOnly : Bool) :
    ∃ high, (high = true → c.isHigh = true) ∧
      scanText start .plain afterHigh read (writePoint asciiOnly c ++ rest) =
        scanText start .plain high (c :: read) rest := by
  have hsimple {e : CodePoint} (he : simpleEscape? e = some c) (hu : e ≠ CodePoint.ofChar 'u') :
      ∃ high, (high = true → c.isHigh = true) ∧
        scanText start .plain afterHigh read ([CodePoint.ofChar '\\', e] ++ rest) =
          scanText start .plain high (c :: read) rest :=
    ⟨false, nofun, scanText_simple _ _ _ he hu rest⟩
  rw [writePoint]
  split
  · next h =>
    obtain rfl : c = 34 := Fin.ext h
    exact hsimple (e := CodePoint.ofChar '"') rfl (by decide)
  · next h =>
    obtain rfl : c = 92 := Fin.ext h
    exact hsimple (e := CodePoint.ofChar '\\') rfl (by decide)
  · next h =>
    obtain rfl : c = 10 := Fin.ext h
    exact hsimple (e := CodePoint.ofChar 'n') rfl (by decide)
  · next h =>
    obtain rfl : c = 13 := Fin.ext h
    exact hsimple (e := CodePoint.ofChar 'r') rfl (by decide)
  · next h =>
    obtain rfl : c = 9 := Fin.ext h
    exact hsimple (e := CodePoint.ofChar 't') rfl (by decide)
  · next h =>
    obtain rfl : c = 8 := Fin.ext h
    exact hsimple (e := CodePoint.ofChar 'b') rfl (by decide)
  · next h =>
    obtain rfl : c = 12 := Fin.ext h
    exact hsimple (e := CodePoint.ofChar 'f') rfl (by decide)
  · next hq hb _ _ _ _ _ =>
    split
    · exact scanText_numericEscape hlow hrest
    · next hplain =>
      have h32 : 32 ≤ c.val := by
        simp only [Bool.or_eq_true, decide_eq_true_eq, not_or] at hplain
        omega
      exact ⟨false, nofun, scanText_raw _ _ _ (fun h => hq (congrArg Fin.val h))
        (fun h => hb (congrArg Fin.val h)) h32 rest⟩

private theorem scanText_flatMap {t : Text} (asciiOnly : Bool) (start : Nat) {afterHigh : Bool}
    {read : Text} (ht : t.Unpaired) (hlow : afterHigh = true → ∀ c ∈ t.head?, c.isLow = false)
    (rest : Text) :
    scanText start .plain afterHigh read
      (t.flatMap (writePoint asciiOnly) ++ CodePoint.ofChar '"' :: rest) =
        .ok (read.reverse ++ t, rest) := by
  induction t generalizing afterHigh read with
  | nil => simp [scanText]
  | cons c t ih =>
    obtain ⟨hhead, htail⟩ := List.isChain_cons.mp ht
    have hrest : t.flatMap (writePoint asciiOnly) ++ CodePoint.ofChar '"' :: rest ≠ [] :=
      List.append_ne_nil_of_right_ne_nil _ (List.cons_ne_nil _ _)
    obtain ⟨high, hhigh, hscan⟩ :=
      @scanText_writePoint start afterHigh read _ c (hlow · c rfl) hrest asciiOnly
    rw [List.flatMap_cons, List.append_assoc, hscan, ih htail fun h d hd => hhead d hd (hhigh h),
      List.reverse_cons, List.append_assoc]
    rfl

/-- What is written for a text is read as the text. -/
theorem scanText_writeText {t : Text} (asciiOnly : Bool) (start : Nat) (ht : t.Unpaired)
    (rest : Text) :
    scanText start .plain false []
      (t.flatMap (writePoint asciiOnly) ++ CodePoint.ofChar '"' :: rest) = .ok (t, rest) :=
  scanText_flatMap asciiOnly start ht (fun h => absurd h Bool.false_ne_true) rest

end Json

end BreakageAdvisor
