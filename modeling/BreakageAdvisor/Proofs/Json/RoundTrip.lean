import BreakageAdvisor.Proofs.Json.Numbers
import BreakageAdvisor.Proofs.Text.Parts

/-!
# Documents are read back

A document that was written is read as the value that it was written for, in either form. That
holds of values of any nesting, so the proof is by induction on the value: a value is read up to its
last code point, in front of whatever may follow a value, and a list or an object is read item by
item. Floating-point numbers are left out.
-/

namespace BreakageAdvisor

namespace Fields

private theorem set_of_not_mem {fields : Fields} {key : Text} (h : key ∉ fields.map (·.1))
    (value : Json) :
    fields.set key value = fields ++ [(key, value)] := by
  induction fields with
  | nil => rfl
  | cons field fields ih =>
    obtain ⟨k, v⟩ := field
    rw [List.map_cons, List.mem_cons, not_or] at h
    rw [set, if_neg (Ne.symm h.1), ih h.2, List.cons_append]

private theorem ofList_of_nodup {members : Fields} (h : (members.map (·.1)).Nodup) :
    ofList members = members := by
  have hfold (members fields : Fields) (h : ((fields ++ members).map (·.1)).Nodup) :
      members.foldl (fun fields member => fields.set member.1 member.2) fields =
        fields ++ members := by
    induction members generalizing fields with
    | nil => exact (List.append_nil fields).symm
    | cons member members ih =>
      have hassoc : fields ++ [member] ++ members = fields ++ member :: members := by simp
      have hnew : member.1 ∉ fields.map (·.1) := by
        rw [List.map_append, List.nodup_append] at h
        exact fun hm => h.2.2 _ hm _ (List.mem_map_of_mem List.mem_cons_self) rfl
      rw [List.foldl_cons, set_of_not_mem hnew, ih (fields ++ [member]) (hassoc ▸ h), hassoc]
  exact hfold members [] h

end Fields

namespace Json

/-- The values that stand directly within a value. -/
def parts : Json → List Json
  | list items => items
  | object fields => fields.map (·.2)
  | _ => []

/-- A property of a value and of all values within it, however deep. -/
inductive Everywhere (P : Json → Prop) : Json → Prop
  | intro {value : Json} (here : P value) (within : ∀ part ∈ value.parts, Everywhere P part) :
      Everywhere P value

/-- What a value has to be itself to be read back, where its texts have to be as `P` says. An
integer has no more digits than may be read, and no key is given twice. -/
def Plain (P : Text → Prop) : Json → Prop
  | int n => (Text.ofNat n.natAbs).length ≤ maxIntegerDigits
  | float _ => False
  | text t => P t
  | object fields => (fields.map (·.1)).Nodup ∧ ∀ field ∈ fields, P field.1
  | _ => True

/-- A form of documents with the separators of JSON, with blanks behind them or none. -/
structure Form.Readable (form : Form) : Prop where
  item : ∃ blanks, form.itemSeparator = CodePoint.ofChar ',' :: blanks ∧ ∀ c ∈ blanks, isBlank c
  key : ∃ blanks, form.keySeparator = CodePoint.ofChar ':' :: blanks ∧ ∀ c ∈ blanks, isBlank c

theorem Form.readable_compact : Form.compact.Readable :=
  ⟨⟨[], rfl, nofun⟩, ⟨[], rfl, nofun⟩⟩

theorem Form.readable_spaced : Form.spaced.Readable :=
  by
  have hblank : ∀ c ∈ [CodePoint.ofChar ' '], isBlank c := by
    intro c hc
    rw [List.mem_singleton.mp hc]
    rfl
  exact ⟨⟨_, rfl, hblank⟩, ⟨_, rfl, hblank⟩⟩

private theorem writeItems_eq (form : Form) (items : List Json) :
    writeItems form items = items.map (write form) := by
  induction items with
  | nil => rfl
  | cons item items ih => rw [writeItems, ih, List.map_cons]

/-- The written form of a field. -/
def writeField (form : Form) (field : Text × Json) : Text :=
  writeText form.asciiOnly field.1 ++ form.keySeparator ++ write form field.2

private theorem writeFields_eq (form : Form) (fields : Fields) :
    writeFields form fields = fields.map (writeField form) := by
  induction fields with
  | nil => rfl
  | cons field fields ih => rw [writeFields, ih, List.map_cons, writeField]

/-- A code point that a value may begin with: no blank, no closing bracket, and no byte order
mark. -/
def Begins (c : CodePoint) : Prop :=
  isBlank c = false ∧ c ≠ CodePoint.ofChar ']' ∧ c.val ≠ 0xFEFF

instance (c : CodePoint) : Decidable (Begins c) := inferInstanceAs (Decidable (_ ∧ _))

private theorem exists_write_eq_cons (form : Form) {value : Json} {P : Text → Prop}
    (h : value.Plain P) : ∃ c t, value.write form = c :: t ∧ Begins c := by
  cases value with
  | null => exact ⟨_, _, rfl, by decide⟩
  | bool b => cases b <;> exact ⟨_, _, rfl, by decide⟩
  | int n =>
    rw [write, Text.ofInt]
    split
    · exact ⟨_, _, rfl, by decide⟩
    · have hdigit (c : CodePoint) (hc : c.isAsciiDigit = true) : Begins c := by
        have hc : 48 ≤ c.val ∧ c.val < 58 := by simpa [CodePoint.isAsciiDigit] using hc
        refine ⟨?_, fun h => ?_, by omega⟩
        · simp only [isBlank, Bool.or_eq_false_iff, decide_eq_false_iff_not]
          omega
        · have : c.val = 93 := congrArg Fin.val h
          omega
      cases ht : Text.ofNat n.natAbs with
      | nil => exact absurd ht (Text.ofNat_ne_nil n.natAbs)
      | cons c t =>
        exact ⟨c, t, rfl, hdigit c (Text.isAsciiDigit_ofNat _ c (ht ▸ List.mem_cons_self))⟩
  | float x => exact h.elim
  | text t => exact ⟨_, _, rfl, by decide⟩
  | list items => exact ⟨_, _, rfl, by decide⟩
  | object fields => exact ⟨_, _, rfl, by decide⟩

private theorem skipBlanks_append {blanks : Text} (hb : ∀ c ∈ blanks, isBlank c) {c : CodePoint}
    (hc : isBlank c = false) (t : Text) : skipBlanks (blanks ++ c :: t) = c :: t := by
  rw [skipBlanks, List.dropWhile_append_of_pos hb, List.dropWhile_cons_of_neg (by simp [hc])]

private theorem skipBlanks_cons {c : CodePoint} (hc : isBlank c = false) (t : Text) :
    skipBlanks (c :: t) = c :: t := @skipBlanks_append [] (by simp) c hc t

/-- A word that is read stands there. -/
theorem exists_word_of_scanWord? {t rest : Text} {value : Json}
    (h : scanWord? t = some (value, rest)) : ∃ word, (word, value) ∈ words ∧ t = word ++ rest := by
  obtain ⟨⟨word, value'⟩, hword, hdrop⟩ := List.exists_of_findSome?_eq_some h
  obtain ⟨rest', hrest, hpair⟩ := Option.map_eq_some_iff.mp hdrop
  obtain ⟨rfl, rfl⟩ := Prod.mk.inj hpair
  exact ⟨word, hword, Text.dropPrefix?_eq_some_iff.mp hrest⟩

private theorem scanWord?_ofInt (n : Int) (rest : Text) :
    scanWord? (Text.ofInt n ++ rest) = none := by
  have hwords : ∀ word ∈ words, ∃ c d t, word.1 = c :: d :: t ∧ c.isAsciiDigit = false ∧
      d.isAsciiDigit = false := by
    intro word hword
    simp only [words, List.mem_cons, List.not_mem_nil, or_false] at hword
    obtain rfl | rfl | rfl | rfl | rfl | rfl := hword <;> exact ⟨_, _, _, rfl, rfl, rfl⟩
  cases hscan : scanWord? (Text.ofInt n ++ rest) with
  | none => rfl
  | some found =>
    obtain ⟨word, hword, hbegins⟩ := exists_word_of_scanWord? hscan
    obtain ⟨c, d, t, rfl, hc, hd⟩ := hwords _ hword
    cases hdigits : Text.ofNat n.natAbs with
    | nil => exact absurd hdigits (Text.ofNat_ne_nil n.natAbs)
    | cons e s =>
      have he := Text.isAsciiDigit_ofNat n.natAbs e (hdigits ▸ List.mem_cons_self)
      rw [Text.ofInt, hdigits] at hbegins
      split at hbegins
      · obtain ⟨-, rfl, -⟩ := by simpa using hbegins
        exact absurd he (Bool.eq_false_iff.mp hd)
      · obtain ⟨rfl, -⟩ := by simpa using hbegins
        exact absurd he (Bool.eq_false_iff.mp hc)

/-- A value is read up to its end, in front of what may follow a value. -/
def Returns (form : Form) (value : Json) : Prop :=
  ∀ fuel rest, 2 * (value.write form).length ≤ fuel → Ends rest →
    scanValue fuel (value.write form ++ rest) = .ok (value, rest)

private theorem returns_of_word {form : Form} {value : Json} {c : CodePoint} {t : Text}
    (hwrite : value.write form = c :: t)
    (hc : c ≠ CodePoint.ofChar '"' ∧ c ≠ CodePoint.ofChar '[' ∧ c ≠ CodePoint.ofChar '\x7b')
    (hw : ∀ rest, scanWord? (c :: t ++ rest) = some (value, rest)) : Returns form value := by
  intro fuel rest hfuel _
  rw [hwrite] at hfuel ⊢
  cases fuel with
  | zero => simp at hfuel
  | succ fuel =>
    rw [List.cons_append, scanValue, if_neg hc.1, if_neg hc.2.1, if_neg hc.2.2,
      ← List.cons_append, hw]

private theorem scanValue_of_scanNumber {c : CodePoint} {t digits : Text} {negative : Bool}
    {found : Json × Text} {fuel : Nat}
    (hc : c ≠ CodePoint.ofChar '"' ∧ c ≠ CodePoint.ofChar '[' ∧ c ≠ CodePoint.ofChar '\x7b')
    (hword : scanWord? (c :: t) = none)
    (hsign : (if c = CodePoint.ofChar '-' then (true, t) else (false, c :: t)) = (negative, digits))
    (hn : scanNumber negative digits = .ok (some found)) :
    scanValue (fuel + 1) (c :: t) = .ok found := by
  rw [scanValue, if_neg hc.1, if_neg hc.2.1, if_neg hc.2.2, hword]
  simp only [hsign, hn]
  rfl

private theorem returns_int (form : Form) {n : Int}
    (hn : (Text.ofNat n.natAbs).length ≤ maxIntegerDigits) : Returns form (.int n) := by
  intro fuel rest hfuel hrest
  have hword := scanWord?_ofInt n rest
  rw [write] at hfuel ⊢
  cases fuel with
  | zero =>
    have hpos := List.length_pos_iff.mpr (Text.ofNat_ne_nil n.natAbs)
    have hle : (Text.ofNat n.natAbs).length ≤ (Text.ofInt n).length := by
      rw [Text.ofInt]
      split <;> simp
    omega
  | succ fuel =>
    rw [Text.ofInt] at hword ⊢
    split
    · next hneg =>
      rw [if_pos hneg] at hword
      have hvalue : (if true = true then -(n.natAbs : Int) else n.natAbs) = n := by
        rw [if_pos rfl]
        omega
      have hscan := scanNumber_ofNat true hn hrest
      rw [hvalue] at hscan
      exact scanValue_of_scanNumber (by decide) hword (if_pos rfl) hscan
    · next hneg =>
      rw [if_neg hneg] at hword
      have hvalue : (if false = true then -(n.natAbs : Int) else n.natAbs) = n := by
        rw [if_neg Bool.false_ne_true]
        omega
      have hscan := scanNumber_ofNat false hn hrest
      rw [hvalue] at hscan
      cases hdigits : Text.ofNat n.natAbs with
      | nil => exact absurd hdigits (Text.ofNat_ne_nil n.natAbs)
      | cons c t =>
        have hc := Text.isAsciiDigit_ofNat n.natAbs c (hdigits ▸ List.mem_cons_self)
        rw [hdigits] at hword hscan
        have hother (d : CodePoint) (hd : d.isAsciiDigit = false) : c ≠ d := by
          rintro rfl
          exact Bool.false_ne_true (hd.symm.trans hc)
        exact scanValue_of_scanNumber ⟨hother _ rfl, hother _ rfl, hother _ rfl⟩ hword
          (if_neg (hother _ rfl)) hscan

private theorem returns_text (form : Form) {t : Text} (ht : t.Unpaired) :
    Returns form (.text t) := by
  intro fuel rest hfuel _
  rw [write, writeText] at hfuel ⊢
  cases fuel with
  | zero => simp at hfuel
  | succ fuel =>
    rw [List.cons_append, List.cons_append, scanValue, if_pos rfl, List.append_assoc,
      List.singleton_append, scanText_writeText _ _ ht]
    rfl

theorem join_cons_cons (separator first second : Text) (texts : List Text) :
    Text.join separator (first :: second :: texts) =
      first ++ separator ++ Text.join separator (second :: texts) := rfl

private theorem exists_join_eq_cons {separator text t : Text} {c : CodePoint} (h : text = c :: t)
    (texts : List Text) : ∃ t', Text.join separator (text :: texts) = c :: t' := by
  cases texts with
  | nil => exact ⟨t, h⟩
  | cons next texts =>
    exact ⟨_, by rw [join_cons_cons, h, List.cons_append, List.cons_append]⟩

section Steps

variable {fuel : Nat} {t after rest last key : Text} {value : Json} {items : List Json}
  {members : List (Text × Json)}

private theorem scanItems_last (h : scanValue fuel t = .ok (value, CodePoint.ofChar ']' :: rest)) :
    scanItems (fuel + 1) t = .ok ([value], rest) := by
  rw [scanItems, h]
  rfl

private theorem scanItems_more (h : scanValue fuel t = .ok (value, CodePoint.ofChar ',' :: rest))
    (hs : scanItems fuel (skipBlanks rest) = .ok (items, last)) :
    scanItems (fuel + 1) t = .ok (value :: items, last) := by
  have hcomma : skipBlanks (CodePoint.ofChar ',' :: rest) = CodePoint.ofChar ',' :: rest := rfl
  rw [scanItems, h]
  simp only [bind, Except.bind, hcomma, hs]
  rfl

private theorem scanMembers_last
    (hk : scanText (t.length + 1) .plain false [] t = .ok (key, CodePoint.ofChar ':' :: after))
    (h : scanValue fuel (skipBlanks after) = .ok (value, CodePoint.ofChar '\x7d' :: rest)) :
    scanMembers (fuel + 1) (CodePoint.ofChar '"' :: t) = .ok ([(key, value)], rest) := by
  have hcolon : skipBlanks (CodePoint.ofChar ':' :: after) = CodePoint.ofChar ':' :: after := rfl
  rw [scanMembers, if_pos rfl, hk]
  simp only [bind, Except.bind, hcolon, h]
  rfl

private theorem scanMembers_more
    (hk : scanText (t.length + 1) .plain false [] t = .ok (key, CodePoint.ofChar ':' :: after))
    (h : scanValue fuel (skipBlanks after) = .ok (value, CodePoint.ofChar ',' :: rest))
    (hs : scanMembers fuel (skipBlanks rest) = .ok (members, last)) :
    scanMembers (fuel + 1) (CodePoint.ofChar '"' :: t) = .ok ((key, value) :: members, last) := by
  have hcolon : skipBlanks (CodePoint.ofChar ':' :: after) = CodePoint.ofChar ':' :: after := rfl
  have hcomma : skipBlanks (CodePoint.ofChar ',' :: rest) = CodePoint.ofChar ',' :: rest := rfl
  rw [scanMembers, if_pos rfl, hk]
  simp only [bind, Except.bind, hcolon, h, hcomma, hs]
  rfl

private theorem scanValue_list {c : CodePoint} (hb : isBlank c = false)
    (hc : c ≠ CodePoint.ofChar ']')
    (h : scanItems fuel (c :: t) = .ok (items, rest)) :
    scanValue (fuel + 1) (CodePoint.ofChar '[' :: c :: t) = .ok (.list items, rest) := by
  rw [scanValue, if_neg (by decide), if_pos rfl]
  simp only [skipBlanks_cons hb, if_neg hc, h]
  rfl

private theorem scanValue_object {c : CodePoint} (hb : isBlank c = false)
    (hc : c ≠ CodePoint.ofChar '\x7d') (h : scanMembers fuel (c :: t) = .ok (members, rest)) :
    scanValue (fuel + 1) (CodePoint.ofChar '\x7b' :: c :: t) =
      .ok (.object (Fields.ofList members), rest) := by
  rw [scanValue, if_neg (by decide), if_neg (by decide), if_pos rfl]
  simp only [skipBlanks_cons hb, if_neg hc, h]
  rfl

end Steps

private theorem scanItems_join {form : Form} (hf : form.Readable) {items : List Json}
    (hne : items ≠ [])
    (hbegins : ∀ item ∈ items, ∃ c t, item.write form = c :: t ∧ Begins c)
    (h : ∀ item ∈ items, Returns form item) {fuel : Nat} (rest : Text)
    (hfuel : 2 * (Text.join form.itemSeparator (items.map (write form))).length + 1 ≤ fuel) :
    scanItems fuel (Text.join form.itemSeparator (items.map (write form)) ++
      CodePoint.ofChar ']' :: rest) = .ok (items, rest) := by
  obtain ⟨blanks, hseparator, hblanks⟩ := hf.item
  induction items generalizing fuel with
  | nil => exact absurd rfl hne
  | cons item items ih =>
    obtain ⟨hitem, hothers⟩ := List.forall_mem_cons.mp h
    cases fuel with
    | zero => simp at hfuel
    | succ fuel =>
      cases items with
      | nil =>
        simp only [List.map_cons, List.map_nil, Text.join] at hfuel ⊢
        exact scanItems_last (hitem fuel _ (by omega) (by simp [Ends]))
      | cons next items =>
        obtain ⟨-, hbegins⟩ := List.forall_mem_cons.mp hbegins
        obtain ⟨c, t, hnext, hc⟩ := hbegins next List.mem_cons_self
        obtain ⟨t', hjoin⟩ :=
          @exists_join_eq_cons form.itemSeparator _ t c hnext (items.map (write form))
        simp only [List.map_cons, join_cons_cons, List.length_append, hseparator,
          List.length_cons] at hfuel hjoin ih ⊢
        have hrest := @ih (List.cons_ne_nil next items) hbegins hothers fuel (by omega)
        simp only [hjoin, List.append_assoc, List.cons_append] at hrest ⊢
        refine scanItems_more (hitem fuel _ (by omega) (by simp [Ends])) ?_
        rw [skipBlanks_append hblanks hc.1, hrest]

private theorem writeField_append (form : Form) (field : Text × Json) (rest : Text) :
    writeField form field ++ rest =
      CodePoint.ofChar '"' :: (field.1.flatMap (writePoint form.asciiOnly) ++
        CodePoint.ofChar '"' :: (form.keySeparator ++ (write form field.2 ++ rest))) := by
  simp [writeField, writeText]

private theorem scanMembers_join {form : Form} (hf : form.Readable) {fields : Fields}
    (hne : fields ≠ [])
    (hkeys : ∀ field ∈ fields, field.1.Unpaired)
    (hbegins : ∀ field ∈ fields, ∃ c t, field.2.write form = c :: t ∧ Begins c)
    (h : ∀ field ∈ fields, Returns form field.2) {fuel : Nat} (rest : Text)
    (hfuel : 2 * (Text.join form.itemSeparator (fields.map (writeField form))).length + 1 ≤ fuel) :
    scanMembers fuel (Text.join form.itemSeparator (fields.map (writeField form)) ++
      CodePoint.ofChar '\x7d' :: rest) = .ok (fields, rest) := by
  obtain ⟨blanks, hseparator, hblanks⟩ := hf.item
  obtain ⟨keyBlanks, hkeySeparator, hkeyBlanks⟩ := hf.key
  induction fields generalizing fuel with
  | nil => exact absurd rfl hne
  | cons field fields ih =>
    obtain ⟨hkey, hkeys⟩ := List.forall_mem_cons.mp hkeys
    obtain ⟨⟨c, t, hvalue, hc⟩, hbegins⟩ := List.forall_mem_cons.mp hbegins
    obtain ⟨hfield, hothers⟩ := List.forall_mem_cons.mp h
    cases fuel with
    | zero => simp at hfuel
    | succ fuel =>
      have hread (hle : 2 * (writeField form field).length ≤ fuel + 1) {rest : Text}
          (hrest : Ends rest) :
          scanValue fuel (skipBlanks (keyBlanks ++ (write form field.2 ++ rest))) =
            .ok (field.2, rest) := by
        have hshorter : (write form field.2).length + 2 ≤ (writeField form field).length := by
          simp only [writeField, writeText, List.length_append, List.length_cons]
          omega
        have hscan := hfield fuel rest (by omega) hrest
        rw [hvalue, List.cons_append] at hscan ⊢
        rw [skipBlanks_append hkeyBlanks hc.1, hscan]
      cases fields with
      | nil =>
        simp only [List.map_cons, List.map_nil, Text.join] at hfuel ⊢
        rw [writeField_append, hkeySeparator, List.cons_append]
        exact scanMembers_last (scanText_writeText _ _ hkey _) (hread (by omega) (by simp [Ends]))
      | cons next fields =>
        obtain ⟨t', hjoin⟩ := @exists_join_eq_cons form.itemSeparator _ _ _
          (writeField_append form next []) (fields.map (writeField form))
        simp only [List.append_nil, List.map_cons, join_cons_cons, List.length_append, hseparator,
          List.length_cons] at hfuel hjoin ih ⊢
        have hrest := @ih (List.cons_ne_nil next fields) hkeys hbegins hothers fuel (by omega)
        simp only [hjoin, List.append_assoc, List.cons_append] at hrest ⊢
        rw [writeField_append, hkeySeparator, List.cons_append]
        refine scanMembers_more (scanText_writeText _ _ hkey _)
          (hread (by omega) (by simp [Ends])) ?_
        rw [skipBlanks_append hblanks rfl, hrest]

theorem write_list (form : Form) (items : List Json) :
    write form (.list items) = CodePoint.ofChar '[' ::
      (Text.join form.itemSeparator (items.map (write form)) ++ [CodePoint.ofChar ']']) := by
  rw [write, writeItems_eq]
  rfl

theorem write_object (form : Form) (fields : Fields) :
    write form (.object fields) = CodePoint.ofChar '\x7b' ::
      (Text.join form.itemSeparator (fields.map (writeField form)) ++
        [CodePoint.ofChar '\x7d']) := by
  rw [write, writeFields_eq]
  rfl

private theorem returns_list {form : Form} (hf : form.Readable) {items : List Json}
    (hbegins : ∀ item ∈ items, ∃ c t, item.write form = c :: t ∧ Begins c)
    (h : ∀ item ∈ items, Returns form item) : Returns form (.list items) := by
  intro fuel rest hfuel _
  simp only [write_list, List.length_cons, List.length_append] at hfuel
  rw [write_list, List.cons_append, List.append_assoc, List.singleton_append]
  cases fuel with
  | zero => simp at hfuel
  | succ fuel =>
    cases items with
    | nil => rfl
    | cons item items =>
      obtain ⟨c, t, hitem, hc⟩ := hbegins item List.mem_cons_self
      obtain ⟨t', hjoin⟩ :=
        @exists_join_eq_cons form.itemSeparator _ t c hitem (items.map (write form))
      have hscan := @scanItems_join form hf _ (List.cons_ne_nil item items) hbegins h fuel rest
        (by omega)
      simp only [List.map_cons, hjoin, List.cons_append] at hscan ⊢
      exact scanValue_list hc.1 hc.2.1 hscan

private theorem returns_object {form : Form} (hf : form.Readable) {fields : Fields}
    (hkeys : ∀ field ∈ fields, field.1.Unpaired) (hnodup : (fields.map (·.1)).Nodup)
    (hbegins : ∀ field ∈ fields, ∃ c t, field.2.write form = c :: t ∧ Begins c)
    (h : ∀ field ∈ fields, Returns form field.2) : Returns form (.object fields) := by
  intro fuel rest hfuel _
  simp only [write_object, List.length_cons, List.length_append] at hfuel
  rw [write_object, List.cons_append, List.append_assoc, List.singleton_append]
  cases fuel with
  | zero => simp at hfuel
  | succ fuel =>
    cases fields with
    | nil => rfl
    | cons field fields =>
      obtain ⟨t', hjoin⟩ := @exists_join_eq_cons form.itemSeparator _ _ _
        (writeField_append form field []) (fields.map (writeField form))
      have hscan := @scanMembers_join form hf _ (List.cons_ne_nil field fields) hkeys hbegins h
        fuel rest (by omega)
      simp only [List.append_nil, List.map_cons] at hscan hjoin ⊢
      rw [hjoin, List.cons_append] at hscan ⊢
      rw [scanValue_object rfl (by decide) hscan, Fields.ofList_of_nodup hnodup]

/-- A value is read if it has no text with a pair of surrogates, no integer of too many digits, no
key given twice and no floating-point number, however deep. -/
private theorem returns_of_everywhere {form : Form} (hf : form.Readable) {P : Text → Prop}
    (hP : ∀ t, P t → t.Unpaired) {value : Json} (h : value.Everywhere (Plain P)) :
    Returns form value := by
  have hbegins {value : Json} (h : value.Everywhere (Plain P)) :
      ∃ c t, value.write form = c :: t ∧ Begins c := by
    obtain ⟨here, -⟩ := h
    exact exists_write_eq_cons form here
  induction h with
  | @intro value here within ih =>
    cases value with
    | null => exact returns_of_word rfl (by decide) fun rest => rfl
    | bool b => cases b <;> exact returns_of_word rfl (by decide) fun rest => rfl
    | int n => exact returns_int form here
    | float x => exact here.elim
    | text t => exact returns_text form (hP t here)
    | list items => exact returns_list hf (fun item hitem => hbegins (within item hitem)) ih
    | object fields =>
      have hvalue {field : Text × Json} (hfield : field ∈ fields) :
          field.2 ∈ (object fields).parts := List.mem_map_of_mem hfield
      exact returns_object hf (fun field hfield => hP _ (here.2 field hfield)) here.1
        (fun field hfield => hbegins (within _ (hvalue hfield)))
        fun field hfield => ih _ (hvalue hfield)

/-- A document that was written is read as the value that it was written for. -/
theorem read_write {form : Form} (hf : form.Readable) {P : Text → Prop}
    (hP : ∀ t, P t → t.Unpaired) {value : Json} (h : value.Everywhere (Plain P)) :
    read (value.write form) = .ok value := by
  have hscan := returns_of_everywhere hf hP h (2 * (value.write form).length + 2) []
    (Nat.le_add_right _ 2) .nil
  obtain ⟨here, -⟩ := h
  obtain ⟨c, t, hwrite, hc⟩ := exists_write_eq_cons form here
  rw [List.append_nil] at hscan
  rw [hwrite] at hscan ⊢
  rw [read, if_neg hc.2.2, read.readFrom, skipBlanks_cons hc.1, hscan]
  rfl

end Json

end BreakageAdvisor
