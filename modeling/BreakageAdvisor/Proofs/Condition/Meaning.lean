import BreakageAdvisor.Proofs.Condition.Gathering
import BreakageAdvisor.Proofs.Text.Parts

/-!
# What descriptions mean

The direct meaning of a description, said on the description itself and without any gathering: which
conditions hold of a URL, if it is known which cookies every domain has. Evaluating a description
that is accepted gives this meaning, whatever its depth and width.
-/

namespace BreakageAdvisor

/-- The value of a key is smaller than the object. -/
theorem Fields.sizeOf_getD_lt (fields : Fields) (key : Text) :
    sizeOf (Fields.getD fields key) < sizeOf (Json.object fields) := by
  suffices h : sizeOf ((Fields.get? fields key).getD .null) < 1 + sizeOf fields by
    simpa [Fields.getD] using h
  induction fields with
  | nil => simp [Fields.get?]
  | cons field rest ih =>
    obtain ⟨k, v⟩ := field
    rw [Fields.get?]
    split
    · simp only [Option.getD_some, List.cons.sizeOf_spec, Prod.mk.sizeOf_spec]
      omega
    · simp only [List.cons.sizeOf_spec]
      omega

/-- An item is smaller than its list. -/
theorem Json.sizeOf_lt_of_mem_items {value item : Json} (h : item ∈ value.items) :
    sizeOf item < sizeOf value := by
  cases value with
  | list xs =>
    have hx : sizeOf item < sizeOf xs := List.sizeOf_lt_of_mem h
    simp only [Json.list.sizeOf_spec]
    omega
  | _ => simp [Json.items] at h

namespace Condition

/-- A cookie is the first of a name in a jar. Gaps are passed over. -/
def IsFirst (jar : Jar) (name : Text) (c : Cookie) : Prop :=
  c.name = .text name ∧ ∃ before after, jar = before ++ some c :: after ∧
    ∀ other, some other ∈ before → other.name ≠ .text name

/-- A cookie condition holds if it names a domain and a cookie, and the first cookie of that name in
the jar of the domain has the value and contains the part that it gives. -/
def CookieHolds (jar : Text → Jar) (domain name value part : Option Text) : Prop :=
  ∃ d n c, domain = some d ∧ d ≠ [] ∧ name = some n ∧ n ≠ [] ∧ IsFirst (jar d) n c ∧
    (∀ wanted, value = some wanted → c.value = .text wanted) ∧
    (∀ wanted, part = some wanted → ∃ given, c.value = .text given ∧ wanted <:+: given)

/-- A pattern condition holds if there is a URL in which the pattern occurs. -/
def PatternHolds [PatternEngine] (url : Option Text) (pattern : Json) : Prop :=
  ∃ u t compiled, url = some u ∧ u ≠ [] ∧ pattern = .text t ∧
    PatternEngine.compile t = .ok compiled ∧ PatternEngine.occurs compiled u

/-- Whether a description holds of a URL, given the jar of every domain. -/
def Holds [PatternEngine] (url : Option Text) (jar : Text → Jar) : Json → Prop
  | .object fields =>
    match ConditionType.ofName? (Fields.getD fields "type") with
    | some .constant => ((Fields.get? fields "ret").getD (Fields.getD fields "result")).truthy
    | some .every => ∀ child ∈ (Fields.getD fields "conditions").items, Holds url jar child
    | some .any =>
      ∃ (child : Json) (_ : child ∈ (Fields.getD fields "conditions").items), Holds url jar child
    | some .negation =>
      Fields.getD fields "condition" = .null ∨ ¬ Holds url jar (Fields.getD fields "condition")
    | some .cookie =>
      CookieHolds jar (Fields.getD fields "domain").asText? (Fields.getD fields "name").asText?
        (Fields.getD fields "value").asText? (Fields.getD fields "value_contain").asText?
    | some .url => PatternHolds url (Fields.getD fields "pattern")
    | none => False
  | _ => False
termination_by description => sizeOf description
decreasing_by
  · exact Nat.lt_trans (Json.sizeOf_lt_of_mem_items ‹_›) (Fields.sizeOf_getD_lt _ _)
  · exact Nat.lt_trans (Json.sizeOf_lt_of_mem_items ‹_›) (Fields.sizeOf_getD_lt _ _)
  · exact Fields.sizeOf_getD_lt _ _

/-- An answer is there, and it tells whether a statement is true. -/
def Decides (answer : Except Failure Bool) (p : Prop) : Prop :=
  ∃ result, answer = .ok result ∧ (result = true ↔ p)

/-- A condition is had from another reading if the reading succeeds. -/
private theorem map_eq_ok {α β : Type} {f : α → β} {x : Except ConditionError α} {b : β}
    (h : x.map f = .ok b) : ∃ a, x = .ok a ∧ b = f a := by
  cases x with
  | error cause => cases h
  | ok a => exact ⟨a, rfl, (Except.ok.inj h).symm⟩

section Reading

variable [PatternEngine]

/-- The children of a description are those in its list; a value that counts as false gives none. -/
theorem ofChildren_eq (type : Json) (fields : Fields) :
    ofChildren type fields =
      match Fields.getD fields "conditions" with
      | .list items => ofItems items
      | value => if value.truthy then .error (.childrenNotList type) else .ok [] := by
  induction fields with
  | nil => rfl
  | cons field rest ih =>
    obtain ⟨k, v⟩ := field
    by_cases hk : k = Text.ofString "conditions"
    · cases v <;> simp [ofChildren, Fields.getD, Fields.get?, hk]
    · cases v <;> simp [ofChildren, Fields.getD, Fields.get?, hk, ih]

private theorem ofItems_of_ofChildren {type : Json} {fields : Fields} {children : List Condition}
    (h : ofChildren type fields = .ok children) :
    ofItems (Fields.getD fields "conditions").items = .ok children := by
  rw [ofChildren_eq] at h
  cases hv : Fields.getD fields "conditions" with
  | list items =>
    rw [hv] at h
    exact h
  | _ =>
    rw [hv] at h
    dsimp only at h
    split at h
    · cases h
    · exact h

/-- A negation has no child if its description has none. -/
theorem ofChild_of_null {fields : Fields} (h : Fields.getD fields "condition" = .null) :
    ofChild fields = .ok none := by
  induction fields with
  | nil => rfl
  | cons field rest ih =>
    obtain ⟨k, v⟩ := field
    simp only [Fields.getD, Fields.get?] at h ih
    by_cases hk : k = Text.ofString "condition"
    · rw [if_pos hk, Option.getD_some] at h
      simp [ofChild, h, hk]
    · rw [if_neg hk] at h
      cases v <;> simp [ofChild, hk, ih h]

/-- The child of a negation is that of its description. -/
theorem ofChild_of_ne_null {fields : Fields} (h : Fields.getD fields "condition" ≠ .null) :
    ofChild fields = (ofJson (Fields.getD fields "condition")).map some := by
  induction fields with
  | nil => exact absurd rfl h
  | cons field rest ih =>
    obtain ⟨k, v⟩ := field
    simp only [Fields.getD, Fields.get?] at h ih ⊢
    by_cases hk : k = Text.ofString "condition"
    · rw [if_pos hk, Option.getD_some] at h ⊢
      cases v with
      | null => exact absurd rfl h
      | _ => simp [ofChild, hk]
    · rw [if_neg hk] at h ⊢
      cases v <;> simp [ofChild, hk, ih h]

private theorem ofItems_cons {item : Json} {rest : List Json} {children : List Condition}
    (h : ofItems (item :: rest) = .ok children) :
    ∃ first others, ofJson item = .ok first ∧ ofItems rest = .ok others ∧
      children = first :: others := by
  rw [ofItems] at h
  cases hf : ofJson item with
  | error cause => simp [hf, bind, Except.bind] at h
  | ok first =>
    cases ho : ofItems rest with
    | error cause => simp [hf, ho, bind, Except.bind] at h
    | ok others =>
      simp only [hf, ho, bind, Except.bind, pure, Except.pure, Except.ok.injEq] at h
      exact ⟨first, others, rfl, rfl, h.symm⟩

end Reading

section Checking

variable [PatternEngine] (url : Option Text) (g : Gathering) (jar : Text → Jar)

private theorem decides_checkEvery {items : List Json} {children : List Condition}
    (h : ofItems items = .ok children)
    (hd : ∀ item ∈ items, ∀ c ∈ children, ofJson item = .ok c →
      Decides (check url g c) (Holds url jar item)) :
    Decides (checkEvery url g children) (∀ item ∈ items, Holds url jar item) := by
  induction items generalizing children with
  | nil =>
    cases h
    exact ⟨true, rfl, by simp⟩
  | cons item rest ih =>
    obtain ⟨first, others, hf, ho, rfl⟩ := ofItems_cons h
    obtain ⟨b, hb, hbh⟩ := hd item (by simp) first (by simp) hf
    obtain ⟨r, hr, hrh⟩ := ih ho fun i hi c hc => hd i (by simp [hi]) c (by simp [hc])
    cases b with
    | false => exact ⟨false, by simp [checkEvery, hb, bind, Except.bind, pure, Except.pure],
        by simp [← hbh]⟩
    | true => exact ⟨r, by simp [checkEvery, hb, hr, bind, Except.bind],
        by simp [← hbh, hrh]⟩

private theorem decides_checkAny {items : List Json} {children : List Condition}
    (h : ofItems items = .ok children)
    (hd : ∀ item ∈ items, ∀ c ∈ children, ofJson item = .ok c →
      Decides (check url g c) (Holds url jar item)) :
    Decides (checkAny url g children) (∃ (item : Json) (_ : item ∈ items), Holds url jar item) := by
  induction items generalizing children with
  | nil =>
    cases h
    exact ⟨false, rfl, by simp⟩
  | cons item rest ih =>
    obtain ⟨first, others, hf, ho, rfl⟩ := ofItems_cons h
    obtain ⟨b, hb, hbh⟩ := hd item (by simp) first (by simp) hf
    obtain ⟨r, hr, hrh⟩ := ih ho fun i hi c hc => hd i (by simp [hi]) c (by simp [hc])
    cases b with
    | false => exact ⟨r, by simp [checkAny, hb, hr, bind, Except.bind],
        by simpa [← hbh] using hrh⟩
    | true => exact ⟨true, by simp [checkAny, hb, bind, Except.bind, pure, Except.pure],
        by simp [← hbh]⟩

private theorem domains_subset_of_mem {c : Condition} {children : List Condition}
    (h : c ∈ children) :
    ∀ d ∈ c.domains, d ∈ domainsOfAll children := by
  induction children with
  | nil => cases h
  | cons first rest ih =>
    intro d hd
    rw [domainsOfAll, List.mem_append]
    rcases List.mem_cons.mp h with rfl | h
    · exact .inl hd
    · exact .inr (ih h d hd)

end Checking

section Leaves

variable {name : Text} {value part : Option Text}

/-- A value is a certain text if it equals it. -/
theorem isText_iff {t : Text} {v : Json} : isText t v = true ↔ v = .text t := by
  cases v with
  | text s => rw [isText, beq_iff_eq, Json.text.injEq]
  | _ => simp [isText]

/-- The cookie that is found is the first of its name. -/
theorem findCookie_eq_some {jar : Jar} {c : Cookie} :
    findCookie name jar = some c ↔ IsFirst jar name c := by
  unfold findCookie IsFirst
  rw [List.findSome?_eq_some_iff]
  constructor
  · rintro ⟨before, gap, after, rfl, hc, hb⟩
    cases gap with
    | none => cases hc
    | some c' =>
      dsimp only at hc
      split at hc
      · next hn =>
        cases hc
        refine ⟨isText_iff.mp hn, before, after, rfl, ?_⟩
        intro other ho he
        have := hb (some other) ho
        simp [isText_iff.mpr he] at this
      · cases hc
  · rintro ⟨hn, before, after, rfl, hb⟩
    refine ⟨before, some c, after, rfl, by simp [isText_iff.mpr hn], ?_⟩
    intro gap hg
    cases gap with
    | none => rfl
    | some other =>
      have : isText name other.name ≠ true := fun h => hb other hg (isText_iff.mp h)
      simp [this]

private theorem cookieHolds_iff {c : Cookie} :
    cookieHolds value part c = true ↔
      (∀ wanted, value = some wanted → c.value = .text wanted) ∧
      (∀ wanted, part = some wanted → ∃ given, c.value = .text given ∧ wanted <:+: given) := by
  unfold cookieHolds
  rw [Bool.and_eq_true]
  refine and_congr ?_ ?_
  · cases value with
    | none => simp
    | some wanted => simp [isText_iff]
  · cases part with
    | none => simp
    | some wanted =>
      cases hv : c.value <;> simp [Text.occursIn_iff]

/-- A cookie condition is decided by the first cookie of its name, if the jar of its domain was
gathered. -/
private theorem decides_checkCookie {g : Gathering} {domain : Text} {jar : Jar}
    (hg : g.get? (Gathering.jarKey domain) = some (.jar jar)) :
    Decides (checkCookie g domain name value part)
      (∃ c, IsFirst jar name c ∧ (∀ wanted, value = some wanted → c.value = .text wanted) ∧
        (∀ wanted, part = some wanted → ∃ given, c.value = .text given ∧ wanted <:+: given)) := by
  simp only [checkCookie, hg]
  cases hf : findCookie name jar with
  | none =>
    refine ⟨false, rfl, ?_⟩
    simp only [Bool.false_eq_true, false_iff, not_exists, not_and]
    intro c hc
    rw [← findCookie_eq_some, hf] at hc
    cases hc
  | some c =>
    refine ⟨cookieHolds value part c, rfl, ?_⟩
    rw [cookieHolds_iff]
    constructor
    · exact fun h => ⟨c, findCookie_eq_some.mp hf, h⟩
    · rintro ⟨c', hc', h⟩
      rw [← findCookie_eq_some, hf] at hc'
      cases hc'
      exact h

private theorem decides_cookie [PatternEngine] {g : Gathering} {jar : Text → Jar}
    (url : Option Text)
    (domain name value part : Option Text)
    (hg : ∀ d ∈ (cookie domain name value part).domains,
      g.get? (Gathering.jarKey d) = some (.jar (jar d))) :
    Decides (check url g (cookie domain name value part))
      (CookieHolds jar domain name value part) := by
  unfold CookieHolds
  cases domain with
  | none => exact ⟨false, by simp [check], by simp⟩
  | some d =>
    cases name with
    | none => exact ⟨false, by simp [check], by simp⟩
    | some n =>
      by_cases hempty : d = [] ∨ n = []
      · refine ⟨false, by simp [check, hempty], ?_⟩
        simp only [Bool.false_eq_true, false_iff, Option.some.injEq]
        rintro ⟨_, _, _, rfl, hd, rfl, hn, _⟩
        exact hempty.elim hd hn
      · obtain ⟨hd, hn⟩ := not_or.mp hempty
        obtain ⟨b, hb, hbh⟩ : Decides (checkCookie g d n value part) _ :=
          decides_checkCookie (hg d (by simp [domains, hd]))
        refine ⟨b, by simpa [check, hd, hn] using hb, hbh.trans ?_⟩
        constructor
        · rintro ⟨c, h⟩
          exact ⟨d, n, c, rfl, hd, rfl, hn, h⟩
        · rintro ⟨_, _, c, hd', _, hn', _, h⟩
          cases hd'
          cases hn'
          exact ⟨c, h⟩

private theorem decides_pattern [PatternEngine] {g : Gathering} (url : Option Text) {pattern : Json}
    {c : Condition} (h : ofPattern pattern = .ok c) :
    Decides (check url g c) (PatternHolds url pattern) := by
  unfold ofPattern at h
  split at h
  · next t =>
    cases hc : PatternEngine.compile t with
    | error cause =>
      rw [hc] at h
      cases cause <;> cases h
    | ok compiled =>
      rw [hc] at h
      cases h
      unfold PatternHolds
      cases url with
      | none => exact ⟨false, by simp [check], by simp⟩
      | some u =>
        cases u with
        | nil => exact ⟨false, by simp [check], by simp⟩
        | cons p rest =>
          refine ⟨PatternEngine.occurs compiled (p :: rest), by simp [check], ?_⟩
          simp [hc]
  · cases h

end Leaves

/-- A condition that is read from a description is decided as the description says, if the jars that
it may look at were gathered. -/
theorem decides_check [PatternEngine] {g : Gathering} (url : Option Text) (jar : Text → Jar)
    (description : Json) {c : Condition} (h : ofJson description = .ok c)
    (hg : ∀ d ∈ c.domains, g.get? (Gathering.jarKey d) = some (.jar (jar d))) :
    Decides (check url g c) (Holds url jar description) := by
  -- The cases are those of the meaning: the types of conditions, and what is no condition.
  induction description using Holds.induct generalizing c with
  | case1 fields ht =>
    rw [ofJson, ht] at h
    cases h
    rw [Holds, ht]
    exact ⟨_, check.eq_1 .., Iff.rfl⟩
  | case2 fields ht ih =>
    rw [ofJson, ht] at h
    obtain ⟨children, hc, rfl⟩ := map_eq_ok h
    rw [Holds, ht, check]
    refine decides_checkEvery url g jar (ofItems_of_ofChildren hc) ?_
    intro item hi child hm ho
    exact ih item hi ho fun d hd => hg d (domains_subset_of_mem hm d hd)
  | case3 fields ht ih =>
    rw [ofJson, ht] at h
    obtain ⟨children, hc, rfl⟩ := map_eq_ok h
    rw [Holds, ht, check]
    refine decides_checkAny url g jar (ofItems_of_ofChildren hc) ?_
    intro item hi child hm ho
    exact ih item hi ho fun d hd => hg d (domains_subset_of_mem hm d hd)
  | case4 fields ht ih =>
    rw [ofJson, ht] at h
    obtain ⟨child, hc, rfl⟩ := map_eq_ok h
    rw [Holds, ht]
    by_cases hn : Fields.getD fields "condition" = .null
    · rw [ofChild_of_null hn] at hc
      cases hc
      exact ⟨true, by simp [check], by simp [hn]⟩
    · rw [ofChild_of_ne_null hn] at hc
      obtain ⟨inner, hi, rfl⟩ := map_eq_ok hc
      obtain ⟨b, hb, hbh⟩ := ih hi hg
      exact ⟨!b, by simp [check, hb, Except.map], by simp [hn, ← hbh]⟩
  | case5 fields ht =>
    rw [ofJson, ht] at h
    cases h
    rw [Holds, ht]
    exact decides_cookie url _ _ _ _ hg
  | case6 fields ht =>
    rw [ofJson, ht] at h
    rw [Holds, ht]
    exact decides_pattern url h
  | case7 fields ht =>
    rw [ofJson, ht] at h
    cases h
  | case8 value hv =>
    rw [ofJson] at h
    · cases h
    · exact hv

end Condition

end BreakageAdvisor
