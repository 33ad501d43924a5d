import BreakageAdvisor.Frame
import BreakageAdvisor.Proofs.Json.Encodable
import Mathlib.Data.List.Induction
import Mathlib.Data.List.Nodup

/-!
# What documents are read as

A document that was decoded from UTF-8 holds no surrogate, but escapes in it may name surrogates. An
escaped pair is read as one code point, so no text that is read holds a high surrogate directly in
front of a low one. An integer that is read has no more digits than may be read, and an object has
each key once. Whatever is read is therefore fit to be written and read again, except for
floating-point numbers.
-/

namespace BreakageAdvisor

/-- A computation that succeeds has parts that succeed. -/
theorem ok_of_bind {ε α β : Type} {x : Except ε α} {f : α → Except ε β} {b : β}
    (h : x >>= f = .ok b) : ∃ a, x = .ok a ∧ f a = .ok b := by
  cases x with
  | error cause => cases h
  | ok a => exact ⟨a, rfl, h⟩

private theorem ok_of_found {ε α β : Type} {x : Except ε (Option α)} {f : Option α → Except ε β}
    {b : β}
    (hnone : ∀ b, f none ≠ .ok b) (h : x >>= f = .ok b) :
    ∃ a, x = .ok (some a) ∧ f (some a) = .ok b := by
  obtain ⟨found?, hx, hf⟩ := ok_of_bind h
  cases found? with
  | none => exact absurd hf (hnone b)
  | some a => exact ⟨a, hx, hf⟩

namespace Fields

private theorem mem_set {fields : Fields} {key : Text} {value : Json} {field : Text × Json}
    (h : field ∈ fields.set key value) : field ∈ fields ∨ field = (key, value) := by
  induction fields with
  | nil => exact .inr (List.mem_singleton.mp h)
  | cons first fields ih =>
    obtain ⟨k, v⟩ := first
    rw [set] at h
    split at h
    · next hk =>
      obtain rfl | h := List.mem_cons.mp h
      · exact .inr (by rw [hk])
      · exact .inl (List.mem_cons_of_mem _ h)
    · obtain rfl | h := List.mem_cons.mp h
      · exact .inl List.mem_cons_self
      · exact (ih h).imp_left (List.mem_cons_of_mem _)

private theorem keys_set (fields : Fields) (key : Text) (value : Json) :
    (fields.set key value).map (·.1) =
      if key ∈ fields.map (·.1) then fields.map (·.1) else fields.map (·.1) ++ [key] := by
  induction fields with
  | nil => rfl
  | cons field fields ih =>
    obtain ⟨k, v⟩ := field
    rw [set]
    split
    · next hk => simp [hk]
    · next hk =>
      rw [List.map_cons, ih]
      simp only [List.map_cons, List.mem_cons, Ne.symm hk, false_or]
      split <;> rfl

private theorem ofList_spec (members : List (Text × Json)) :
    ((ofList members).map (·.1)).Nodup ∧ ∀ field ∈ ofList members, field ∈ members := by
  have hfold (members : List (Text × Json)) (fields : Fields) (h : (fields.map (·.1)).Nodup) :
      ((members.foldl (fun fields member => fields.set member.1 member.2) fields).map
          (·.1)).Nodup ∧
        ∀ field ∈ members.foldl (fun fields member => fields.set member.1 member.2) fields,
          field ∈ fields ∨ field ∈ members := by
    induction members generalizing fields with
    | nil => exact ⟨h, fun field hm => .inl hm⟩
    | cons member members ih =>
      have hset : ((fields.set member.1 member.2).map (·.1)).Nodup := by
        rw [keys_set]
        split
        · exact h
        · next hk =>
          rw [← List.concat_eq_append]
          exact h.concat hk
      obtain ⟨hnodup, hmem⟩ := ih _ hset
      refine ⟨hnodup, fun field hm => ?_⟩
      obtain hm | hm := hmem field hm
      · refine (mem_set hm).imp_right fun he => ?_
        rw [he]
        exact List.mem_cons_self
      · exact .inr (List.mem_cons_of_mem _ hm)
  obtain ⟨hnodup, hmem⟩ := hfold members [] List.nodup_nil
  exact ⟨hnodup, fun field hm => (hmem field hm).resolve_left List.not_mem_nil⟩

/-- The value of a key is that of a field. -/
theorem mem_of_get? {fields : Fields} {key : Text} {value : Json}
    (h : fields.get? key = some value) : (key, value) ∈ fields := by
  induction fields with
  | nil => cases h
  | cons field fields ih =>
    obtain ⟨k, v⟩ := field
    rw [get?] at h
    split at h
    · next hk =>
      obtain rfl := Option.some.inj h
      exact hk ▸ List.mem_cons_self
    · exact List.mem_cons_of_mem _ (ih h)

end Fields

namespace Text

private theorem length_ofNat_digitsValue_le {digits : List Nat} (h : ∀ d ∈ digits, d < 10) :
    (ofNat (digitsValue digits)).length ≤ max 1 digits.length := by
  induction digits using List.reverseRecOn with
  | nil => decide
  | append_singleton digits d ih =>
    have hd := h d (List.mem_append_right _ (List.mem_singleton_self d))
    have hdigits := ih fun e he => h e (List.mem_append_left _ he)
    rw [digitsValue_concat, List.length_append, List.length_singleton]
    by_cases hvalue : 10 * digitsValue digits + d < 10
    · rw [ofNat_of_lt hvalue, List.length_singleton]
      omega
    · -- The digits in front of the last one are not all zero, so there are some.
      have hdiv : (10 * digitsValue digits + d) / 10 = digitsValue digits := by omega
      have hpos : digits.length ≠ 0 := by
        intro hzero
        apply hvalue
        rw [List.eq_nil_of_length_eq_zero hzero]
        show 0 + d < 10
        omega
      rw [ofNat_of_le (Nat.le_of_not_lt hvalue), hdiv, List.length_append, List.length_singleton]
      omega

private theorem digits_lt (t : Text) : ∀ d ∈ t.filterMap CodePoint.asciiDigitValue?, d < 10 := by
  intro d hd
  obtain ⟨c, -, hc⟩ := List.mem_filterMap.mp hd
  exact (CodePoint.asciiDigitValue?_eq_some_iff.mp hc).1

end Text

namespace Json

section Texts

/-- What was read of a text, the last first, and whether the last is an escaped high surrogate, of
which a low one makes one code point. -/
structure Held (afterHigh : Bool) (read : Text) : Prop where
  unpaired : read.IsChain fun d c => c.isHigh = true → d.isLow = false
  high : afterHigh = true ↔ ∃ c ∈ read.head?, c.isHigh = true

theorem Held.nil : Held false [] := ⟨.nil, by simp⟩

private theorem held_cons_scalar {read : Text} {c : CodePoint}
    (h : read.IsChain fun d c => c.isHigh = true → d.isLow = false) (hc : c.isScalar = true) :
    Held false (c :: read) := by
  rw [CodePoint.isScalar_iff] at hc
  have hnotlow : c.isLow = false := by
    simp only [CodePoint.isLow, Bool.and_eq_false_iff, decide_eq_false_iff_not]
    omega
  have hnothigh : c.isHigh = false := by
    simp only [CodePoint.isHigh, Bool.and_eq_false_iff, decide_eq_false_iff_not]
    omega
  exact ⟨List.isChain_cons.mpr ⟨fun d _ _ => hnotlow, h⟩, by simp [hnothigh]⟩

private theorem held_pair {read : Text} (h : Held true read) {n : Nat}
    (hn : 0xDC00 ≤ n ∧ n ≤ 0xDFFF) :
    Held false (addEscaped true read n) := by
  obtain ⟨high, hhead, hhigh⟩ := h.high.mp rfl
  obtain ⟨read, rfl⟩ := List.head?_eq_some_iff.mp hhead
  have hflag : (true && decide (0xDC00 ≤ n) && decide (n ≤ 0xDFFF)) = true := by simp [hn]
  simp only [CodePoint.isHigh, Bool.and_eq_true, decide_eq_true_eq] at hhigh
  simp only [addEscaped, hflag]
  refine held_cons_scalar (List.isChain_cons.mp h.unpaired).2 (CodePoint.isScalar_iff.mpr (.inr ?_))
  rw [Fin.val_ofNat, Nat.mod_eq_of_lt (by omega)]
  omega

/-- A unit that was escaped makes one code point with a high surrogate or stands for itself. -/
theorem Held.addEscaped {afterHigh : Bool} {read : Text} (h : Held afterHigh read) {n : Nat}
    (hn : n < 0x10000) : Held (0xD800 ≤ n && n ≤ 0xDBFF) (addEscaped afterHigh read n) := by
  by_cases hpair : afterHigh = true ∧ 0xDC00 ≤ n ∧ n ≤ 0xDFFF
  · obtain ⟨rfl, hlow⟩ := hpair
    have hflag : (decide (0xD800 ≤ n) && decide (n ≤ 0xDBFF)) = false := by
      simp only [Bool.and_eq_false_iff, decide_eq_false_iff_not]
      omega
    rw [hflag]
    exact held_pair h hlow
  · obtain ⟨c, hc⟩ : ∃ c : CodePoint, c = Fin.ofNat _ n := ⟨_, rfl⟩
    have hval : c.val = n := by
      rw [hc, Fin.val_ofNat]
      exact Nat.mod_eq_of_lt (by omega)
    rw [addEscaped_of_not_low (fun hhigh hlow => hpair ⟨hhigh, hlow⟩), ← hc]
    refine ⟨List.isChain_cons.mpr ⟨fun d hd hhigh => ?_, h.unpaired⟩, ?_⟩
    · have hnotlow : ¬ (0xDC00 ≤ n ∧ n ≤ 0xDFFF) := fun hlow =>
        hpair ⟨h.high.mpr ⟨d, hd, hhigh⟩, hlow⟩
      simp only [CodePoint.isLow, hval, Bool.and_eq_false_iff, decide_eq_false_iff_not]
      omega
    · simp [CodePoint.isHigh, hval]

private theorem isScalar_simpleEscape? {c d : CodePoint} (h : simpleEscape? c = some d) :
    d.isScalar = true := by
  rw [simpleEscape?] at h
  split at h
  all_goals
    cases h
    try rfl

private theorem hexValue?_lt {c : CodePoint} {d : Nat} (h : c.hexValue? = some d) : d < 16 := by
  simp only [CodePoint.hexValue?, Bool.and_eq_true, decide_eq_true_eq] at h
  split at h
  · have := Option.some.inj h
    omega
  split at h
  · have := Option.some.inj h
    omega
  split at h
  · have := Option.some.inj h
    omega
  · cases h

/-- What was read of a numeric escape has as many digits as are not left. -/
def TextMode.Fits : TextMode → Prop
  | plain => True
  | escape => True
  | hex _ value left => left = 4 ∧ value < 0x1 ∨ left = 3 ∧ value < 0x10 ∨
      left = 2 ∧ value < 0x100 ∨ left = 1 ∧ value < 0x1000

private theorem TextMode.fits_digit {place value left d : Nat} (h : (hex place value left).Fits)
    (hd : d < 16) (hleft : left ≠ 1) : (hex place (16 * value + d) (left - 1)).Fits := by
  simp only [Fits] at h ⊢
  omega

/-- A text that is read from a document without surrogates has no pair of them, and what follows it
holds none. -/
private theorem unpaired_of_scanText {start : Nat} {mode : TextMode} {afterHigh : Bool}
    {read t value rest : Text} (hread : Held afterHigh read) (hmode : mode.Fits)
    (ht : t.isScalar = true) (h : scanText start mode afterHigh read t = .ok (value, rest)) :
    value.Unpaired ∧ rest.isScalar = true := by
  fun_induction scanText start mode afterHigh read t with
  | case2 afterHigh read t =>
    cases h
    exact ⟨List.isChain_reverse.mpr hread.unpaired, (Text.isScalar_cons.mp ht).2⟩
  | case3 afterHigh read t _ ih => exact ih hread trivial (Text.isScalar_cons.mp ht).2 h
  | case5 afterHigh read c t _ _ _ ih =>
    obtain ⟨hc, ht⟩ := Text.isScalar_cons.mp ht
    exact ih (held_cons_scalar hread.unpaired hc) trivial ht h
  | case7 afterHigh read t ih =>
    exact ih hread (.inl ⟨rfl, by decide⟩) (Text.isScalar_cons.mp ht).2 h
  | case8 afterHigh read c t _ d hd ih =>
    exact ih (held_cons_scalar hread.unpaired (isScalar_simpleEscape? hd)) trivial
      (Text.isScalar_cons.mp ht).2 h
  | case13 place value afterHigh read c t d hd unit _ high ih =>
    have hunit : unit < 0x10000 := by
      have hlt := hexValue?_lt hd
      simp only [TextMode.Fits] at hmode
      show 16 * value + d < 0x10000
      omega
    exact ih (hread.addEscaped hunit) trivial (Text.isScalar_cons.mp ht).2 h
  | case14 place value left afterHigh read c t d hd unit hleft ih =>
    exact ih hread (TextMode.fits_digit hmode (hexValue?_lt hd) hleft)
      (Text.isScalar_cons.mp ht).2 h
  | _ => cases h

end Texts

/-- What every value that is read has to itself: texts have no pair of surrogates, an integer has no
more digits than may be read, and no key is given twice. -/
def Regular : Json → Prop
  | int n => (Text.ofNat n.natAbs).length ≤ maxIntegerDigits
  | text t => t.Unpaired
  | object fields => (fields.map (·.1)).Nodup ∧ ∀ field ∈ fields, field.1.Unpaired
  | _ => True

private theorem isScalar_dropWhile {p : CodePoint → Bool} {t : Text} (ht : t.isScalar = true) :
    Text.isScalar (t.dropWhile p) = true :=
  Text.isScalar_of_sublist (List.dropWhile_sublist p) ht

private theorem isScalar_splitWhole {t : Text} (ht : t.isScalar = true) :
    (splitWhole t).2.isScalar = true := by
  cases t with
  | nil => rfl
  | cons c t =>
    rw [splitWhole]
    split
    · exact (Text.isScalar_cons.mp ht).2
    · exact isScalar_dropWhile ht

private theorem isScalar_splitFraction {t : Text} (ht : t.isScalar = true) :
    (splitFraction t).2.isScalar = true := by
  cases t with
  | nil => rfl
  | cons c t =>
    rw [splitFraction]
    split
    · exact isScalar_dropWhile (Text.isScalar_cons.mp ht).2
    · exact ht

private theorem isScalar_splitExponent {t : Text} (ht : t.isScalar = true) :
    (splitExponent t).2.isScalar = true := by
  cases t with
  | nil => rfl
  | cons c t =>
    have hsign : (Text.splitSign t).2.isScalar = true := by
      have ht := (Text.isScalar_cons.mp ht).2
      cases t with
      | nil => rfl
      | cons d t =>
        rw [Text.splitSign]
        split
        · exact (Text.isScalar_cons.mp ht).2
        split
        · exact (Text.isScalar_cons.mp ht).2
        · exact ht
    simp only [splitExponent]
    split
    · exact isScalar_dropWhile hsign
    · exact ht

private theorem regular_of_scanNumber {negative : Bool} {t rest : Text} {value : Json}
    (ht : t.isScalar = true) (h : scanNumber negative t = .ok (some (value, rest))) :
    value.Everywhere Regular ∧ rest.isScalar = true := by
  have hrest := isScalar_splitExponent (isScalar_splitFraction (isScalar_splitWhole ht))
  simp only [scanNumber] at h
  split at h
  · cases h
  split at h
  · next hinteger =>
    split at h
    · cases h
    · next hdigits =>
      have hfraction : (splitFraction (splitWhole t).2).1 = [] := by
        simp only [Bool.and_eq_true, List.isEmpty_iff] at hinteger
        exact hinteger.1
      rw [hfraction, List.append_nil] at h
      cases h
      refine ⟨everywhere_int.mpr ?_, hrest⟩
      have hcount := List.length_filterMap_le CodePoint.asciiDigitValue? (splitWhole t).1
      have hlength := Nat.le_trans
        (Text.length_ofNat_digitsValue_le (Text.digits_lt (splitWhole t).1))
        (Nat.max_le.mpr ⟨by decide, Nat.le_trans hcount (Nat.not_lt.mp hdigits)⟩)
      cases negative <;> simpa [Regular] using hlength
  · cases h
    exact ⟨everywhere_float.mpr trivial, hrest⟩

private theorem regular_of_scanWord? {t rest : Text} {value : Json} (ht : t.isScalar = true)
    (h : scanWord? t = some (value, rest)) :
    value.Everywhere Regular ∧ rest.isScalar = true := by
  obtain ⟨word, hword, rfl⟩ := exists_word_of_scanWord? h
  refine ⟨?_, (Text.isScalar_append.mp ht).2⟩
  simp only [words, List.mem_cons, Prod.mk.injEq, List.not_mem_nil, or_false] at hword
  obtain ⟨-, rfl⟩ | ⟨-, rfl⟩ | ⟨-, rfl⟩ | ⟨-, rfl⟩ | ⟨-, rfl⟩ | ⟨-, rfl⟩ := hword <;>
    exact .intro trivial (List.forall_mem_nil _)

private theorem isScalar_skipBlanks {t : Text} (ht : t.isScalar = true) :
    (skipBlanks t).isScalar = true := isScalar_dropWhile ht

section Inversion

variable {fuel : Nat} {t rest : Text}

private theorem cases_scanItems {items : List Json}
    (h : scanItems (fuel + 1) t = .ok (items, rest)) :
    ∃ item after, scanValue fuel t = .ok (item, after) ∧
      (skipBlanks after = CodePoint.ofChar ']' :: rest ∧ items = [item] ∨
        ∃ more others, skipBlanks after = CodePoint.ofChar ',' :: more ∧
          scanItems fuel (skipBlanks more) = .ok (others, rest) ∧ items = item :: others) := by
  rw [scanItems] at h
  obtain ⟨⟨item, after⟩, hitem, h⟩ := ok_of_bind h
  refine ⟨item, after, hitem, ?_⟩
  dsimp only at h
  split at h
  · next c more hafter =>
    split at h
    · next hc =>
      cases h
      exact .inl ⟨hc ▸ hafter, rfl⟩
    split at h
    · next hc =>
      obtain ⟨⟨others, rest⟩, hothers, h⟩ := ok_of_bind h
      cases h
      exact .inr ⟨more, others, hc ▸ hafter, hothers, rfl⟩
    · cases h
  · cases h

private theorem cases_scanMembers {members : List (Text × Json)}
    (h : scanMembers (fuel + 1) t = .ok (members, rest)) :
    ∃ first key afterKey colon value after, t = CodePoint.ofChar '"' :: first ∧
      scanText (first.length + 1) .plain false [] first = .ok (key, afterKey) ∧
      skipBlanks afterKey = CodePoint.ofChar ':' :: colon ∧
      scanValue fuel (skipBlanks colon) = .ok (value, after) ∧
      (skipBlanks after = CodePoint.ofChar '\x7d' :: rest ∧ members = [(key, value)] ∨
        ∃ more others, skipBlanks after = CodePoint.ofChar ',' :: more ∧
          scanMembers fuel (skipBlanks more) = .ok (others, rest) ∧
          members = (key, value) :: others) := by
  cases t with
  | nil => cases h
  | cons c first =>
    rw [scanMembers] at h
    split at h
    · next hc =>
      obtain ⟨⟨key, afterKey⟩, hkey, h⟩ := ok_of_bind h
      dsimp only at h
      split at h
      · next d colon hcolon =>
        split at h
        · next hd =>
          obtain ⟨⟨value, after⟩, hvalue, h⟩ := ok_of_bind h
          refine ⟨first, key, afterKey, colon, value, after, hc ▸ rfl, hkey, hd ▸ hcolon,
            hvalue, ?_⟩
          dsimp only at h
          split at h
          · next e more hafter =>
            split at h
            · next he =>
              cases h
              exact .inl ⟨he ▸ hafter, rfl⟩
            split at h
            · next he =>
              obtain ⟨⟨others, rest⟩, hothers, h⟩ := ok_of_bind h
              cases h
              exact .inr ⟨more, others, he ▸ hafter, hothers, rfl⟩
            · cases h
          · cases h
        · cases h
      · cases h
    · cases h

/-- How a value is read, by what it begins with. -/
inductive Scanned (fuel : Nat) (c : CodePoint) (after rest : Text) : Json → Prop
  | text {s : Text} (h : scanText (after.length + 1) .plain false [] after = .ok (s, rest)) :
      Scanned fuel c after rest (.text s)
  | noItems (h : skipBlanks after = CodePoint.ofChar ']' :: rest) :
      Scanned fuel c after rest (.list [])
  | items {items : List Json} (h : scanItems fuel (skipBlanks after) = .ok (items, rest)) :
      Scanned fuel c after rest (.list items)
  | noMembers (h : skipBlanks after = CodePoint.ofChar '\x7d' :: rest) :
      Scanned fuel c after rest (.object [])
  | members {members : List (Text × Json)}
      (h : scanMembers fuel (skipBlanks after) = .ok (members, rest)) :
      Scanned fuel c after rest (.object (Fields.ofList members))
  | word {value : Json} (h : scanWord? (c :: after) = some (value, rest)) :
      Scanned fuel c after rest value
  | negative {value : Json} (h : scanNumber true after = .ok (some (value, rest))) :
      Scanned fuel c after rest value
  | number {value : Json} (h : scanNumber false (c :: after) = .ok (some (value, rest))) :
      Scanned fuel c after rest value

private theorem scanned_of_scanValue {value : Json}
    (h : scanValue (fuel + 1) t = .ok (value, rest)) :
    ∃ c after, t = c :: after ∧ Scanned fuel c after rest value := by
  cases t with
  | nil => cases h
  | cons c after =>
    refine ⟨c, after, rfl, ?_⟩
    rw [scanValue] at h
    split at h
    · obtain ⟨⟨s, rest⟩, hs, h⟩ := ok_of_bind h
      cases h
      exact .text hs
    split at h
    · dsimp only at h
      split at h
      · next d more hafter =>
        split at h
        · next hd =>
          cases h
          exact .noItems (hd ▸ hafter)
        · obtain ⟨⟨items, rest⟩, hitems, h⟩ := ok_of_bind h
          cases h
          exact .items hitems
      · cases h
    split at h
    · dsimp only at h
      split at h
      · next d more hafter =>
        split at h
        · next hd =>
          cases h
          exact .noMembers (hd ▸ hafter)
        · obtain ⟨⟨members, rest⟩, hmembers, h⟩ := ok_of_bind h
          cases h
          exact .members hmembers
      · cases h
    split at h
    · next found hword =>
      cases h
      exact .word hword
    · by_cases hsign : c = CodePoint.ofChar '-'
      · rw [if_pos hsign] at h
        obtain ⟨found, hfound, h⟩ := ok_of_found (by simp) h
        cases h
        exact .negative hfound
      · rw [if_neg hsign] at h
        obtain ⟨found, hfound, h⟩ := ok_of_found (by simp) h
        cases h
        exact .number hfound

end Inversion

/-- What is read from a text without surrogates is as `P` says, and what follows it holds none. -/
def Yields {α : Type} (scan : Text → Except Fault (α × Text)) (P : α → Prop) : Prop :=
  ∀ {t rest : Text} {a : α}, t.isScalar = true → scan t = .ok (a, rest) →
    P a ∧ rest.isScalar = true

/-- A member has a key without pairs of surrogates, and its value is regular. -/
def RegularMember (member : Text × Json) : Prop :=
  member.1.Unpaired ∧ member.2.Everywhere Regular

private theorem isScalar_of_skipBlanks {c : CodePoint} {t rest : Text} (ht : t.isScalar = true)
    (h : skipBlanks t = c :: rest) : rest.isScalar = true := by
  have hblanks := isScalar_skipBlanks ht
  rw [h] at hblanks
  exact (Text.isScalar_cons.mp hblanks).2

private theorem yields_text (start : Nat) :
    Yields (scanText start .plain false []) Text.Unpaired := by
  intro t rest value ht h
  have hplain : TextMode.plain.Fits := trivial
  exact unpaired_of_scanText .nil hplain ht h

section Yields

variable {fuel : Nat}

private theorem yields_value
    (hitems : Yields (scanItems fuel) fun items => ∀ item ∈ items, item.Everywhere Regular)
    (hmembers : Yields (scanMembers fuel) fun members => ∀ member ∈ members, RegularMember member) :
    Yields (scanValue (fuel + 1)) (Everywhere Regular) := by
  intro t rest value ht h
  obtain ⟨c, after, rfl, hscanned⟩ := scanned_of_scanValue h
  have hbehind := (Text.isScalar_cons.mp ht).2
  cases hscanned with
  | text hs =>
    obtain ⟨hunpaired, hrest⟩ := yields_text _ hbehind hs
    exact ⟨everywhere_text.mpr hunpaired, hrest⟩
  | noItems hclose =>
    refine ⟨everywhere_list.mpr ⟨trivial, List.forall_mem_nil _⟩, ?_⟩
    exact isScalar_of_skipBlanks hbehind hclose
  | items hread =>
    obtain ⟨hregular, hrest⟩ := hitems (isScalar_skipBlanks hbehind) hread
    exact ⟨everywhere_list.mpr ⟨trivial, hregular⟩, hrest⟩
  | noMembers hclose =>
    refine ⟨everywhere_object.mpr ⟨⟨List.nodup_nil, ?_⟩, ?_⟩, ?_⟩
    · exact List.forall_mem_nil _
    · exact List.forall_mem_nil _
    · exact isScalar_of_skipBlanks hbehind hclose
  | members hread =>
    obtain ⟨hregular, hrest⟩ := hmembers (isScalar_skipBlanks hbehind) hread
    obtain ⟨hnodup, hmem⟩ := Fields.ofList_spec _
    refine ⟨everywhere_object.mpr ⟨⟨hnodup, fun field hfield => ?_⟩, fun field hfield => ?_⟩,
      hrest⟩
    · exact (hregular field (hmem field hfield)).1
    · exact (hregular field (hmem field hfield)).2
  | word hword => exact regular_of_scanWord? ht hword
  | negative hnumber => exact regular_of_scanNumber hbehind hnumber
  | number hnumber => exact regular_of_scanNumber ht hnumber

private theorem yields_items (hvalue : Yields (scanValue fuel) (Everywhere Regular))
    (hitems : Yields (scanItems fuel) fun items => ∀ item ∈ items, item.Everywhere Regular) :
    Yields (scanItems (fuel + 1)) fun items => ∀ item ∈ items, item.Everywhere Regular := by
  intro t rest items ht h
  obtain ⟨item, after, hitem, hcases⟩ := cases_scanItems h
  obtain ⟨hregular, hbehind⟩ := hvalue ht hitem
  obtain ⟨hclose, rfl⟩ | ⟨more, others, hcomma, hothers, rfl⟩ := hcases
  · exact ⟨List.forall_mem_singleton.mpr hregular, isScalar_of_skipBlanks hbehind hclose⟩
  · have hmore := isScalar_skipBlanks (isScalar_of_skipBlanks hbehind hcomma)
    obtain ⟨hrest, hend⟩ := hitems hmore hothers
    exact ⟨List.forall_mem_cons.mpr ⟨hregular, hrest⟩, hend⟩

private theorem yields_members (hvalue : Yields (scanValue fuel) (Everywhere Regular))
    (hmembers : Yields (scanMembers fuel) fun members => ∀ member ∈ members, RegularMember member) :
    Yields (scanMembers (fuel + 1)) fun members => ∀ member ∈ members, RegularMember member := by
  intro t rest members ht h
  obtain ⟨first, key, afterKey, colon, value, after, rfl, hkey, hcolon, hread, hcases⟩ :=
    cases_scanMembers h
  obtain ⟨hunpaired, hbehindKey⟩ := yields_text _ (Text.isScalar_cons.mp ht).2 hkey
  have hbehindColon := isScalar_skipBlanks (isScalar_of_skipBlanks hbehindKey hcolon)
  obtain ⟨hregular, hbehind⟩ := hvalue hbehindColon hread
  obtain ⟨hclose, rfl⟩ | ⟨more, others, hcomma, hothers, rfl⟩ := hcases
  · exact ⟨List.forall_mem_singleton.mpr ⟨hunpaired, hregular⟩,
      isScalar_of_skipBlanks hbehind hclose⟩
  · have hmore := isScalar_skipBlanks (isScalar_of_skipBlanks hbehind hcomma)
    obtain ⟨hrest, hend⟩ := hmembers hmore hothers
    exact ⟨List.forall_mem_cons.mpr ⟨⟨hunpaired, hregular⟩, hrest⟩, hend⟩

end Yields

private theorem yields_regular (fuel : Nat) :
    Yields (scanValue fuel) (Everywhere Regular) ∧
      (Yields (scanItems fuel) fun items => ∀ item ∈ items, item.Everywhere Regular) ∧
      Yields (scanMembers fuel) fun members => ∀ member ∈ members, RegularMember member := by
  induction fuel with
  | zero => exact ⟨nofun, nofun, nofun⟩
  | succ fuel ih =>
    obtain ⟨hvalue, hitems, hmembers⟩ := ih
    exact ⟨yields_value hitems hmembers, yields_items hvalue hitems,
      yields_members hvalue hmembers⟩

private theorem regular_of_read {document : Text} {value : Json} (ht : document.isScalar = true)
    (h : read document = .ok value) : value.Everywhere Regular := by
  have hfrom (h : read.readFrom document = .ok value) : value.Everywhere Regular := by
    rw [read.readFrom] at h
    split at h
    · cases h
    · next found rest hscan =>
      split at h
      · cases h
        exact ((yields_regular _).1 (isScalar_skipBlanks ht) hscan).1
      · cases h
  cases document with
  | nil => exact hfrom h
  | cons c t =>
    rw [read] at h
    split at h
    · cases h
    · exact hfrom h

/-- Regular values without floating-point numbers are plain. -/
theorem plain_of_regular {value : Json} (h : value.Everywhere Regular)
    (hfloat : value.Everywhere fun part => ∀ x, part ≠ .float x) :
    value.Everywhere (Plain Text.Unpaired) := by
  refine (h.and hfloat).imp fun part ⟨hpart, hnofloat⟩ => ?_
  cases part with
  | float x => exact absurd rfl (hnofloat x)
  | _ => exact hpart

end Json

namespace Frame

/-- A message that a frame holds is regular. -/
theorem regular_of_decode {body : Bytes} {message : Fields} (h : decode body = .ok message) :
    (Json.object message).Everywhere Json.Regular := by
  unfold decode at h
  split at h
  · cases h
  · next document hdocument =>
    split at h
    · cases h
    · next fields hread =>
      cases h
      exact Json.regular_of_read (Text.isScalar_of_decode hdocument) hread
    · cases h

end Frame

end BreakageAdvisor
