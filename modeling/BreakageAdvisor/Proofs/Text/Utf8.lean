import BreakageAdvisor.Text.Utf8
import Mathlib.Data.List.TakeWhile

/-!
# UTF-8 is read back

A text without surrogates has an encoding, which is decoded to the text again. Nothing else can be
encoded, and what is decoded holds no surrogate.
-/

namespace BreakageAdvisor

theorem CodePoint.isScalar_iff {c : CodePoint} :
    c.isScalar = true ↔ c.val < 0xD800 ∨ 0xE000 ≤ c.val := by
  simp [isScalar]

/-- A character is no surrogate. -/
@[simp] theorem CodePoint.isScalar_ofChar (c : Char) : (ofChar c).isScalar = true := by
  have hvalid : c.toNat < 0xD800 ∨ 0xDFFF < c.toNat ∧ c.toNat < 0x110000 := c.valid
  have hlt : c.toNat < 0x110000 := by omega
  rw [isScalar_iff, ofChar, dif_pos hlt]
  exact hvalid.imp_right And.left

namespace Text

@[simp] theorem isScalar_nil : isScalar [] = true := rfl

@[simp] theorem isScalar_cons {c : CodePoint} {t : Text} :
    isScalar (c :: t) = true ↔ c.isScalar = true ∧ t.isScalar = true := by
  rw [isScalar, List.all_cons, Bool.and_eq_true, isScalar]

@[simp] theorem isScalar_append {s t : Text} :
    isScalar (s ++ t) = true ↔ s.isScalar = true ∧ t.isScalar = true := by
  simp only [isScalar, List.all_append, Bool.and_eq_true]

/-- Characters are no surrogates. -/
@[simp] theorem isScalar_map_ofChar (characters : List Char) :
    isScalar (characters.map CodePoint.ofChar) = true := by
  simp [isScalar]

@[simp] theorem isScalar_ofString (s : String) : (ofString s).isScalar = true :=
  isScalar_map_ofChar s.toList

@[simp] theorem isScalar_replicate (n : Nat) (c : Char) :
    isScalar (List.replicate n (CodePoint.ofChar c)) = true := by
  simp [isScalar]

/-- Digits are no surrogates. -/
@[simp] theorem isScalar_ofDigits (base width n : Nat) :
    (ofDigits base width n).isScalar = true := by
  rw [ofDigits]
  simp only [isScalar_append, isScalar_replicate, isScalar_map_ofChar, and_self]

@[simp] theorem isScalar_ofNat (n : Nat) : (ofNat n).isScalar = true := isScalar_ofDigits 10 1 n

/-- A part of a text without surrogates has none. -/
theorem isScalar_of_sublist {s t : Text} (h : s.Sublist t) (ht : t.isScalar = true) :
    s.isScalar = true := by
  rw [isScalar, List.all_eq_true] at ht ⊢
  exact fun c hc => ht c (h.subset hc)

private theorem continues_iff {b : UInt8} :
    continues b = true ↔ 0x80 ≤ b.toNat ∧ b.toNat < 0xC0 := by
  simp [continues]

private theorem continuesFirst_iff {a b : UInt8} :
    continuesFirst a b = true ↔ (0x80 ≤ b.toNat ∧ b.toNat < 0xC0) ∧
      (a.toNat = 0xE0 → 0xA0 ≤ b.toNat) ∧ (a.toNat = 0xED → b.toNat < 0xA0) ∧
      (a.toNat = 0xF0 → 0x90 ≤ b.toNat) ∧ (a.toNat = 0xF4 → b.toNat < 0x90) := by
  rw [continuesFirst, Bool.and_eq_true, continues_iff]
  split <;> simp_all

section Decoding

variable {a b c d : UInt8} (offset : Nat) (read : Text) (rest : Bytes)

private theorem decodeFrom_one (ha : a.toNat < 0x80) :
    decodeFrom offset read (a :: rest) =
      decodeFrom (offset + 1) (assemble a.toNat [] :: read) rest := by
  rw [decodeFrom.eq_def]
  exact if_pos ha

private theorem decodeFrom_long (ha : 0xC2 ≤ a.toNat ∧ a.toNat < 0xF5)
    (hb : continuesFirst a b = true) :
    decodeFrom offset read (a :: b :: rest) =
      if a.toNat < 0xE0 then decodeFrom (offset + 2) (assemble (a.toNat - 0xC0) [b] :: read) rest
      else
        match rest with
        | [] => .error (.truncated a offset 2)
        | c :: rest =>
          if !continues c then .error (.badContinuation a offset 2)
          else if a.toNat < 0xF0 then
            decodeFrom (offset + 3) (assemble (a.toNat - 0xE0) [b, c] :: read) rest
          else
            match rest with
            | [] => .error (.truncated a offset 3)
            | d :: rest =>
              if !continues d then .error (.badContinuation a offset 3)
              else decodeFrom (offset + 4) (assemble (a.toNat - 0xF0) [b, c, d] :: read) rest := by
  have hlong : ¬ a.toNat < 0x80 := by omega
  have hstart : ¬ (a.toNat < 0xC2 ∨ 0xF5 ≤ a.toNat) := by omega
  have hnext : ¬ (!continuesFirst a b) = true := by simp [hb]
  rw [decodeFrom.eq_def]
  exact (if_neg hlong).trans ((if_neg hstart).trans (if_neg hnext))

private theorem decodeFrom_two (ha : 0xC2 ≤ a.toNat ∧ a.toNat < 0xE0)
    (hb : continuesFirst a b = true) :
    decodeFrom offset read (a :: b :: rest) =
      decodeFrom (offset + 2) (assemble (a.toNat - 0xC0) [b] :: read) rest := by
  rw [decodeFrom_long _ _ _ (by omega) hb, if_pos ha.2]

private theorem decodeFrom_three (ha : 0xE0 ≤ a.toNat ∧ a.toNat < 0xF0)
    (hb : continuesFirst a b = true)
    (hc : continues c = true) :
    decodeFrom offset read (a :: b :: c :: rest) =
      decodeFrom (offset + 3) (assemble (a.toNat - 0xE0) [b, c] :: read) rest := by
  rw [decodeFrom_long _ _ _ (by omega) hb, if_neg (by omega)]
  simp only [hc, Bool.not_true, Bool.false_eq_true, if_false, if_pos ha.2]

private theorem decodeFrom_four (ha : 0xF0 ≤ a.toNat ∧ a.toNat < 0xF5)
    (hb : continuesFirst a b = true)
    (hc : continues c = true) (hd : continues d = true) :
    decodeFrom offset read (a :: b :: c :: d :: rest) =
      decodeFrom (offset + 4) (assemble (a.toNat - 0xF0) [b, c, d] :: read) rest := by
  rw [decodeFrom_long _ _ _ (by omega) hb, if_neg (by omega)]
  simp only [hc, hd, Bool.not_true, Bool.false_eq_true, if_false, if_neg (Nat.not_lt.mpr ha.1)]

end Decoding

private theorem encodePoint_eq (c : CodePoint) :
    encodePoint c =
      if c.val < 0x80 then [UInt8.ofNat c.val]
      else if c.val < 0x800 then
        [UInt8.ofNat (0xC0 + c.val / 0x40), UInt8.ofNat (0x80 + c.val % 0x40)]
      else if c.val < 0x10000 then
        [UInt8.ofNat (0xE0 + c.val / 0x1000), UInt8.ofNat (0x80 + c.val / 0x40 % 0x40),
          UInt8.ofNat (0x80 + c.val % 0x40)]
      else
        [UInt8.ofNat (0xF0 + c.val / 0x40000), UInt8.ofNat (0x80 + c.val / 0x1000 % 0x40),
          UInt8.ofNat (0x80 + c.val / 0x40 % 0x40), UInt8.ofNat (0x80 + c.val % 0x40)] := by
  simp [encodePoint]

private theorem assemble_eq {start : Nat} {bytes : Bytes} {c : CodePoint}
    (h : bytes.foldl (fun n b => n * 0x40 + (b.toNat - 0x80)) start = c.val) :
    assemble start bytes = c := by
  apply Fin.ext
  rw [assemble, h]
  exact Nat.mod_eq_of_lt c.isLt

private theorem decodeFrom_encodePoint {c : CodePoint} (hc : c.isScalar = true) (offset : Nat)
    (read : Text) (rest : Bytes) :
    decodeFrom offset read (encodePoint c ++ rest) =
      decodeFrom (offset + (encodePoint c).length) (c :: read) rest := by
  have hscalar := CodePoint.isScalar_iff.mp hc
  have hlt := c.isLt
  have hbyte {n : Nat} (h : n < 0x100) : (UInt8.ofNat n).toNat = n := UInt8.toNat_ofNat_of_lt h
  have hlow : 0x80 + c.val % 0x40 < 0xC0 := by omega
  have hmiddle : 0x80 + c.val / 0x40 % 0x40 < 0xC0 := by omega
  have hhigh : 0x80 + c.val / 0x1000 % 0x40 < 0xC0 := by omega
  rw [encodePoint_eq]
  split
  · next h1 =>
    have ha := hbyte (show c.val < 0x100 by omega)
    have hvalue : assemble (UInt8.ofNat c.val).toNat [] = c := assemble_eq ha
    exact (decodeFrom_one offset read rest (by omega)).trans (by rw [hvalue]; rfl)
  split
  · next h1 h2 =>
    have ha := hbyte (show 0xC0 + c.val / 0x40 < 0x100 by omega)
    have hb := hbyte (show 0x80 + c.val % 0x40 < 0x100 by omega)
    refine (decodeFrom_two offset read rest (by omega) (continuesFirst_iff.mpr (by omega))).trans ?_
    rw [assemble_eq (c := c) (by simp only [List.foldl_cons, List.foldl_nil]; omega)]
    rfl
  split
  · next h1 h2 h3 =>
    have ha := hbyte (show 0xE0 + c.val / 0x1000 < 0x100 by omega)
    have hb := hbyte (show 0x80 + c.val / 0x40 % 0x40 < 0x100 by omega)
    have hc := hbyte (show 0x80 + c.val % 0x40 < 0x100 by omega)
    refine (decodeFrom_three offset read rest (by omega) (continuesFirst_iff.mpr (by omega))
      (continues_iff.mpr (by omega))).trans ?_
    rw [assemble_eq (c := c) (by simp only [List.foldl_cons, List.foldl_nil]; omega)]
    rfl
  · next h1 h2 h3 =>
    have ha := hbyte (show 0xF0 + c.val / 0x40000 < 0x100 by omega)
    have hb := hbyte (show 0x80 + c.val / 0x1000 % 0x40 < 0x100 by omega)
    have hc := hbyte (show 0x80 + c.val / 0x40 % 0x40 < 0x100 by omega)
    have hd := hbyte (show 0x80 + c.val % 0x40 < 0x100 by omega)
    refine (decodeFrom_four offset read rest (by omega) (continuesFirst_iff.mpr (by omega))
      (continues_iff.mpr (by omega)) (continues_iff.mpr (by omega))).trans ?_
    rw [assemble_eq (c := c) (by simp only [List.foldl_cons, List.foldl_nil]; omega)]
    rfl

private theorem decodeFrom_flatMap {t : Text} (ht : t.isScalar = true) (offset : Nat)
    (read : Text) :
    decodeFrom offset read (t.flatMap encodePoint) = .ok (read.reverse ++ t) := by
  induction t generalizing offset read with
  | nil => simp [decodeFrom]
  | cons c t ih =>
    obtain ⟨hc, ht⟩ := Bool.and_eq_true_iff.mp ht
    rw [List.flatMap_cons, decodeFrom_encodePoint hc, ih ht, List.reverse_cons, List.append_assoc]
    rfl

/-- A text is encoded if it holds no surrogate. -/
theorem encode_of_isScalar {t : Text} (ht : t.isScalar = true) :
    t.encode = .ok (t.flatMap encodePoint) := by
  have hdrop : t.dropWhile (·.isScalar) = [] := by
    simpa [List.dropWhile_eq_nil_iff, isScalar] using ht
  rw [encode, hdrop]

/-- A text that holds a surrogate is not encoded. -/
theorem encode_of_not_isScalar {t : Text} (ht : ¬ t.isScalar = true) :
    ∃ error, t.encode = .error error := by
  rw [encode]
  split
  · next hdrop => 
    refine absurd ?_ ht
    simpa [List.dropWhile_eq_nil_iff, isScalar] using hdrop
  · exact ⟨_, rfl⟩

/-- What is encoded is decoded to the text that it was. -/
theorem decode_encode {t : Text} {bytes : Bytes} (h : t.encode = .ok bytes) :
    decode bytes = .ok t := by
  by_cases ht : t.isScalar = true
  · rw [encode_of_isScalar ht] at h
    rw [← Except.ok.inj h, decode, decodeFrom_flatMap ht]
    rfl
  · obtain ⟨error, herror⟩ := encode_of_not_isScalar ht
    exact nomatch herror.symm.trans h

private theorem isScalar_assemble {start : Nat} {bytes : Bytes}
    (hmax : bytes.foldl (fun n b => n * 0x40 + (b.toNat - 0x80)) start < 0x110000)
    (h : bytes.foldl (fun n b => n * 0x40 + (b.toNat - 0x80)) start < 0xD800 ∨
      0xE000 ≤ bytes.foldl (fun n b => n * 0x40 + (b.toNat - 0x80)) start) :
    (assemble start bytes).isScalar = true := by
  rw [CodePoint.isScalar_iff, assemble, Fin.val_ofNat, Nat.mod_eq_of_lt hmax]
  exact h

private theorem isScalar_of_decodeFrom {offset : Nat} {read t : Text} {bytes : Bytes}
    (hread : isScalar read = true) (h : decodeFrom offset read bytes = .ok t) :
    t.isScalar = true := by
  have hcons {c : CodePoint} {read : Text} (hc : c.isScalar = true) (hread : isScalar read = true) :
      isScalar (c :: read) = true := Bool.and_eq_true_iff.mpr ⟨hc, hread⟩
  fun_induction decodeFrom offset read bytes with
  | case1 offset read =>
    rw [← Except.ok.inj h]
    simpa [isScalar] using hread
  | case2 offset read a rest ha ih =>
    refine ih (hcons (isScalar_assemble ?_ ?_) hread) h <;> simp only [List.foldl_nil] <;> omega
  | case6 offset read a h1 h2 b rest hb h3 ih =>
    have hb := continuesFirst_iff.mp (by simpa using hb)
    refine ih (hcons (isScalar_assemble ?_ ?_) hread) h <;>
      simp only [List.foldl_cons, List.foldl_nil] <;> omega
  | case9 offset read a h1 h2 b hb h3 c rest hc h4 ih =>
    have hb := continuesFirst_iff.mp (by simpa using hb)
    have hc := continues_iff.mp (by simpa using hc)
    refine ih (hcons (isScalar_assemble ?_ ?_) hread) h <;>
      simp only [List.foldl_cons, List.foldl_nil] <;> omega
  | case12 offset read a h1 h2 b hb h3 c hc h4 d rest hd ih =>
    have hb := continuesFirst_iff.mp (by simpa using hb)
    have hc := continues_iff.mp (by simpa using hc)
    have hd := continues_iff.mp (by simpa using hd)
    refine ih (hcons (isScalar_assemble ?_ ?_) hread) h <;>
      simp only [List.foldl_cons, List.foldl_nil] <;> omega
  | _ => cases h

/-- What is decoded holds no surrogate. -/
theorem isScalar_of_decode {bytes : Bytes} {t : Text} (h : decode bytes = .ok t) :
    t.isScalar = true :=
  isScalar_of_decodeFrom rfl h

end Text

end BreakageAdvisor
