import BreakageAdvisor.Proofs.Condition.Grammar
import Mathlib.Data.List.Permutation

/-!
# The order of cookies

Of several cookies of one name in a jar, a cookie condition looks at the first only. So its result
may depend on the order in which cookies are listed: it does exactly if some of the cookies of its
name are as it asks and others are not. Cookies whose values agree whenever their names do can be
listed in any order.
-/

namespace BreakageAdvisor

private theorem Json.asText?_eq_some_iff {value : Json} {t : Text} :
    value.asText? = some t ↔ value = .text t := by
  cases value <;> simp [Json.asText?]

namespace Condition

section Listings

/-- A lookup gives the cookies that another gives for every domain, in whatever order. -/
def Relists (context : Context) (lookup' lookup : Text → Except Failure Jar) : Prop :=
  ∀ d, (context.jar lookup' d).Perm (context.jar lookup d)

/-- The result of a description does not depend on the order in which cookies are listed. -/
def Indifferent {σ : Type} (context : Context) (lookup : Text → Except Failure Jar) (s : σ)
    (description : Json) : Prop :=
  ∀ lookup', Relists context lookup' lookup →
    (evaluate context lookup' description).value s = (evaluate context lookup description).value s

/-- A description of a cookie condition names a cookie: it is in the jar of the domain and has the
name that are given. -/
def Names (jar : Text → Jar) (fields : Fields) (c : Cookie) : Prop :=
  ∃ d n, (Fields.getD fields "domain").asText? = some d ∧ d ≠ [] ∧
    (Fields.getD fields "name").asText? = some n ∧ n ≠ [] ∧ some c ∈ jar d ∧ c.name = .text n

/-- A cookie has the value and contains the part that a description asks for. -/
def Fits (fields : Fields) (c : Cookie) : Prop :=
  (∀ wanted, (Fields.getD fields "value").asText? = some wanted → c.value = .text wanted) ∧
    ∀ wanted, (Fields.getD fields "value_contain").asText? = some wanted →
      ∃ given, c.value = .text given ∧ wanted <:+: given

/-- Of the cookies that a description names, all are as it asks, or none is. -/
def Settled (jar : Text → Jar) (fields : Fields) : Prop :=
  ∀ c c', Names jar fields c → Names jar fields c' → Fits fields c → Fits fields c'

/-- Cookies of one name have one text as their value, or none has a text. -/
def Unambiguous (jar : Jar) : Prop :=
  ∀ c c' n, some c ∈ jar → some c' ∈ jar → n ≠ [] → c.name = .text n → c'.name = .text n →
    c.value.asText? = c'.value.asText?

end Listings

section Leaves

variable {jar jar' : Text → Jar} {fields : Fields} {c : Cookie}

private theorem exists_isFirst {jar : Jar} {n : Text} (hc : some c ∈ jar) (hn : c.name = .text n) :
    ∃ first, IsFirst jar n first := by
  cases hf : findCookie n jar with
  | some first => exact ⟨first, findCookie_eq_some.mp hf⟩
  | none =>
    have hnone := List.findSome?_eq_none_iff.mp hf (some c) hc
    simp [isText_iff.mpr hn] at hnone

/-- The first cookie of a name is in the jar. -/
theorem IsFirst.mem {jar : Jar} {n : Text} (h : IsFirst jar n c) : some c ∈ jar := by
  obtain ⟨-, before, after, rfl, -⟩ := h
  exact List.mem_append_right _ List.mem_cons_self

private theorem isFirst_cons_iff {n : Text} {rest : Jar} (hn : c.name = .text n) {other : Cookie} :
    IsFirst (some c :: rest) n other ↔ other = c := by
  have hf : findCookie n (some c :: rest) = some c := by
    simp [findCookie, isText_iff.mpr hn]
  rw [← findCookie_eq_some, hf, Option.some.injEq, eq_comm]

private theorem cookieHolds_fields_iff (url : Option Text) (ht : typeOf? fields = some .cookie) :
    Holds url jar (.object fields) ↔
      ∃ d n c, (Fields.getD fields "domain").asText? = some d ∧ d ≠ [] ∧
        (Fields.getD fields "name").asText? = some n ∧ n ≠ [] ∧ IsFirst (jar d) n c ∧
          Fits fields c := by
  rw [Holds, ← typeOf?, ht]
  exact Iff.rfl

private theorem holds_iff_of_settled (url : Option Text) (ht : typeOf? fields = some .cookie)
    (h : Settled jar fields) :
    Holds url jar (.object fields) ↔ ∃ c, Names jar fields c ∧ Fits fields c := by
  rw [cookieHolds_fields_iff url ht]
  constructor
  · rintro ⟨d, n, c, hd, hd', hn, hn', hc, hf⟩
    exact ⟨c, ⟨d, n, hd, hd', hn, hn', hc.mem, hc.1⟩, hf⟩
  · rintro ⟨c, ⟨d, n, hd, hd', hn, hn', hc, hname⟩, hf⟩
    obtain ⟨first, hfirst⟩ := exists_isFirst hc hname
    have hnames : Names jar fields first := ⟨d, n, hd, hd', hn, hn', hfirst.mem, hfirst.1⟩
    exact ⟨d, n, first, hd, hd', hn, hn', hfirst,
      h c first ⟨d, n, hd, hd', hn, hn', hc, hname⟩ hnames hf⟩

private theorem names_of_perm (h : ∀ d, (jar' d).Perm (jar d)) :
    Names jar' fields c ↔ Names jar fields c := by
  simp only [Names, (h _).mem_iff]

private theorem Settled.of_perm (hs : Settled jar fields) (h : ∀ d, (jar' d).Perm (jar d)) :
    Settled jar' fields := by
  intro c c' hc hc'
  exact hs c c' ((names_of_perm h).mp hc) ((names_of_perm h).mp hc')

private theorem settled_of_unambiguous (h : ∀ d, d ≠ [] → Unambiguous (jar d)) (fields : Fields) :
    Settled jar fields := by
  rintro c c' ⟨d, n, hd, hd', hn, hn', hc, hname⟩ ⟨e, m, he, -, hm, -, hc', hname'⟩ hf
  obtain rfl := Option.some.inj (hd.symm.trans he)
  obtain rfl := Option.some.inj (hn.symm.trans hm)
  have hv := h d hd' c c' n hc hc' hn' hname hname'
  simp only [Fits, ← Json.asText?_eq_some_iff] at hf ⊢
  rwa [← hv]

end Leaves

section Trees

variable {jar jar' : Text → Jar}

private theorem mem_nodes_of_part {description part node : Json} (hp : part ∈ parts description)
    (h : node ∈ nodes part) : node ∈ nodes description := by
  rw [nodes_eq]
  exact List.mem_cons_of_mem _ (List.mem_flatMap_of_mem hp h)

private theorem holds_congr (url : Option Text) (description : Json)
    (h : ∀ fields, .object fields ∈ nodes description → typeOf? fields = some .cookie →
      (Holds url jar' (.object fields) ↔ Holds url jar (.object fields))) :
    Holds url jar' description ↔ Holds url jar description := by
  -- What holds of the parts is put together in the same way, whichever jars there are.
  induction description using Holds.induct with
  | case1 fields ht => rw [Holds, Holds, ht]
  | case2 fields ht ih =>
    have hparts := parts_of_lists (.inl ht)
    rw [Holds, Holds, ht]
    refine forall₂_congr fun child hc => ih child hc fun fields' hf => h fields' ?_
    exact mem_nodes_of_part (hparts ▸ hc) hf
  | case3 fields ht ih =>
    have hparts := parts_of_lists (.inr ht)
    rw [Holds, Holds, ht]
    refine exists₂_congr fun child hc => ih child hc fun fields' hf => h fields' ?_
    exact mem_nodes_of_part (hparts ▸ hc) hf
  | case4 fields ht ih =>
    rw [Holds, Holds, ht]
    by_cases hn : Fields.getD fields "condition" = .null
    · simp only [hn, true_or]
    · have hparts : Fields.getD fields "condition" ∈ parts (.object fields) := by
        simp only [parts, typeOf?, ht]
        exact List.mem_singleton_self _
      refine or_congr_right (not_congr (ih fun fields' hf => ?_))
      exact h fields' (mem_nodes_of_part hparts hf)
  | case5 fields ht => exact h fields (by rw [nodes_eq]; exact List.mem_cons_self) ht
  | case6 fields ht => rw [Holds, Holds, ht]
  | case7 fields ht => rw [Holds, Holds, ht]
  | case8 value hv =>
    rw [Holds, Holds]
    · exact hv
    · exact hv

end Trees

section Results

variable {σ : Type} {context : Context} {lookup lookup' : Text → Except Failure Jar} {s : σ}
  {description : Json} {condition : Condition} {fields : Fields}

private theorem exists_gathering (context : Context) (lookup : Text → Except Failure Jar) (s : σ)
    (h : ofJson description = .ok condition) :
    ∃ g : Gathering,
      (∀ d ∈ condition.domains, g.get? (Gathering.jarKey d) = some (.jar (context.jar lookup d))) ∧
        (evaluate context lookup description).value s = check context.url g condition := by
  have hempty : Gathering.Holds ([] : Gathering) (context.jar lookup) [] :=
    ⟨by simp, by simp [Gathering.get?]⟩
  have hg := Evaluation.holds_finish context lookup condition.domains [] [] hempty s
  refine ⟨_, fun d hd => hg.present d (by simp [hd]), ?_⟩
  rw [evaluate, h]
  · rfl
  · rintro rfl
    cases h

private theorem decides_value_evaluate (context : Context) (lookup : Text → Except Failure Jar)
    (s : σ)
    (h : ofJson description = .ok condition) :
    Decides ((evaluate context lookup description).value s)
      (Holds context.url (context.jar lookup) description) := by
  obtain ⟨g, hg, hv⟩ := exists_gathering context lookup s h
  rw [hv]
  exact decides_check context.url _ description h hg

private theorem value_evaluate_eq_iff (h : ofJson description = .ok condition) :
    (evaluate context lookup' description).value s = (evaluate context lookup description).value s ↔
      (Holds context.url (context.jar lookup') description ↔
        Holds context.url (context.jar lookup) description) := by
  obtain ⟨b, hb, hbh⟩ := decides_value_evaluate context lookup s h
  obtain ⟨b', hb', hbh'⟩ := decides_value_evaluate context lookup' s h
  rw [hb, hb', Except.ok.injEq, ← hbh, ← hbh', Bool.eq_iff_iff]

private theorem exists_ofJson_of_cookie (ht : typeOf? fields = some .cookie) :
    ∃ condition, ofJson (.object fields) = .ok condition := by
  rw [ofJson, ← typeOf?, ht]
  exact ⟨_, rfl⟩

private theorem exists_relists_first {d : Text} {c : Cookie} (h : some c ∈ context.jar lookup d) :
    ∃ lookup' rest, Relists context lookup' lookup ∧ context.jar lookup' d = some c :: rest := by
  obtain ⟨before, after, hjar⟩ := List.append_of_mem h
  have hc : context.hasCookies = true := by
    by_contra hc
    simp [Context.jar, hc] at h
  refine ⟨fun e => if e = d then .ok (some c :: (before ++ after)) else lookup e, before ++ after,
    fun e => ?_, ?_⟩
  · by_cases he : e = d
    · rw [he, hjar]
      simpa [Context.jar, hc] using List.perm_middle.symm
    · simp [Context.jar, he]
  · simp [Context.jar, hc]

/-- A description whose cookie conditions are settled gives one result in whatever order cookies are
listed. -/
private theorem indifferent_of_settled (h : ofJson description = .ok condition)
    (hs : ∀ fields, .object fields ∈ nodes description → typeOf? fields = some .cookie →
      Settled (context.jar lookup) fields) : Indifferent context lookup s description := by
  intro lookup' hl
  refine (value_evaluate_eq_iff h).mpr (holds_congr _ _ fun fields hf ht => ?_)
  have hsettled := hs fields hf ht
  rw [holds_iff_of_settled _ ht hsettled, holds_iff_of_settled _ ht (hsettled.of_perm hl)]
  exact exists_congr fun c => and_congr_left fun _ => names_of_perm hl

/-- A cookie condition gives one result in whatever order cookies are listed exactly if it is
settled. -/
private theorem indifferent_cookie_iff (ht : typeOf? fields = some .cookie) :
    Indifferent context lookup s (.object fields) ↔ Settled (context.jar lookup) fields := by
  obtain ⟨condition, ho⟩ := exists_ofJson_of_cookie ht
  constructor
  · intro hi
    -- Where a cookie is listed first, the condition holds if it is as asked.
    have first {c : Cookie} (hc : Names (context.jar lookup) fields c) :
        Holds context.url (context.jar lookup) (.object fields) ↔ Fits fields c := by
      obtain ⟨d, n, hd, hd', hn, hn', hmem, hname⟩ := hc
      obtain ⟨lookup', rest, hl, hjar⟩ := exists_relists_first hmem
      rw [← (value_evaluate_eq_iff ho).mp (hi lookup' hl), cookieHolds_fields_iff _ ht]
      constructor
      · rintro ⟨e, m, c', he, -, hm, -, hfirst, hf⟩
        obtain rfl := Option.some.inj (hd.symm.trans he)
        obtain rfl := Option.some.inj (hn.symm.trans hm)
        rw [hjar, isFirst_cons_iff hname] at hfirst
        rwa [← hfirst]
      · intro hf
        exact ⟨d, n, c, hd, hd', hn, hn', by rw [hjar, isFirst_cons_iff hname], hf⟩
    intro c c' hc hc' hf
    exact (first hc').mp ((first hc).mpr hf)
  · intro hs
    refine indifferent_of_settled ho fun fields' hf _ => ?_
    have hnodes : nodes (.object fields) = [.object fields] := by
      rw [nodes_eq]
      simp [parts, ht]
    rw [hnodes, List.mem_singleton] at hf
    cases hf
    exact hs

private theorem unambiguous_of_indifferent
    (h : ∀ description condition, ofJson description = .ok condition →
      Indifferent context lookup s description) {d : Text} (hd : d ≠ []) :
    Unambiguous (context.jar lookup d) := by
  -- If the first of two such cookies has a text as its value, the other has the same.
  have agree {c c' : Cookie} {n v : Text} (hc : some c ∈ context.jar lookup d)
      (hc' : some c' ∈ context.jar lookup d) (hn : n ≠ []) (hname : c.name = .text n)
      (hname' : c'.name = .text n) (hv : c.value = .text v) : c'.value = .text v := by
    have ht : typeOf? [("type", .text "cookie"), ("domain", .text d), ("name", .text n),
        ("value", .text v)] = some .cookie := rfl
    obtain ⟨condition, ho⟩ := exists_ofJson_of_cookie ht
    have hs := (indifferent_cookie_iff ht).mp (h _ condition ho)
    have hf := hs c c' ⟨d, n, rfl, hd, rfl, hn, hc, hname⟩ ⟨d, n, rfl, hd, rfl, hn, hc', hname'⟩
      ⟨fun wanted hw => by cases hw; exact hv, nofun⟩
    exact hf.1 v rfl
  intro c c' n hc hc' hn hname hname'
  refine Option.ext fun v => ?_
  rw [Json.asText?_eq_some_iff, Json.asText?_eq_some_iff]
  exact ⟨agree hc hc' hn hname hname', agree hc' hc hn hname' hname⟩

end Results

/-- No description depends on the order in which cookies are listed exactly if cookies of one name
in the jar of a domain agree in their values. A cookie condition does not depend on it exactly if
the cookies that it names are all as it asks or none is, and then it holds if some cookie is. A
description does not depend on it if that is so of all cookie conditions in its tree. -/
theorem order_of_cookies {σ : Type} (context : Context) (lookup : Text → Except Failure Jar)
    (s : σ) :
    ((∀ description condition, ofJson description = .ok condition →
        Indifferent context lookup s description) ↔
      ∀ d, d ≠ [] → Unambiguous (context.jar lookup d)) ∧
      (∀ fields, typeOf? fields = some .cookie →
        (Indifferent context lookup s (.object fields) ↔ Settled (context.jar lookup) fields) ∧
          (Settled (context.jar lookup) fields →
            Decides ((evaluate context lookup (.object fields)).value s)
              (∃ c, Names (context.jar lookup) fields c ∧ Fits fields c))) ∧
      ∀ description condition, ofJson description = .ok condition →
        (∀ fields, .object fields ∈ nodes description → typeOf? fields = some .cookie →
          Settled (context.jar lookup) fields) → Indifferent context lookup s description := by
  refine ⟨⟨fun h d hd => unambiguous_of_indifferent h hd, fun h description condition ho => ?_⟩,
    fun fields ht => ⟨indifferent_cookie_iff ht, fun hs => ?_⟩, fun description condition ho hs =>
    indifferent_of_settled ho hs⟩
  · exact indifferent_of_settled ho fun fields _ _ => settled_of_unambiguous h fields
  · obtain ⟨condition, ho⟩ := exists_ofJson_of_cookie ht
    rw [← holds_iff_of_settled context.url ht hs]
    exact decides_value_evaluate context lookup s ho

/-- A site has set two cookies of one name. -/
def twoSessions : Jar :=
  [some ⟨.text "session", .text "2", .text "a.com"⟩,
    some ⟨.text "session", .text "1", .text "a.com"⟩]

/-- One of them is asked for. -/
def firstSession : Json :=
  .object [("type", .text "cookie"), ("domain", .text "a.com"), ("name", .text "session"),
    ("value", .text "1")]

/-- The result depends on which of two cookies of one name is listed first. -/
theorem twoSessions_reversed :
    (∃ condition, ofJson firstSession = .ok condition) ∧ twoSessions.reverse.Perm twoSessions ∧
      (evaluate ⟨none, true⟩ (fun _ => .ok twoSessions) firstSession).value () = .ok false ∧
      (evaluate ⟨none, true⟩ (fun _ => .ok twoSessions.reverse) firstSession).value () =
        .ok true := by
  refine ⟨exists_ofJson_of_cookie rfl, List.reverse_perm _, ?_, ?_⟩
  · cbv
  · cbv

end Condition

end BreakageAdvisor
