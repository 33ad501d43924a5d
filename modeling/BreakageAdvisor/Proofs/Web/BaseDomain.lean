import BreakageAdvisor.Web.BaseDomain
import BreakageAdvisor.Proofs.Web.Host

/-!
# Base domains of base domains

The base domain of a URL is the base domain of itself. The walk from the right through the rules of
public suffixes finds the same suffix again, because it does not look past the label before the
suffix to find it, and the labels that are kept are those of the name they are joined to.
-/

namespace BreakageAdvisor

namespace SuffixRules

variable (rules : SuffixRules) (count found : Nat) (labels : List Text)

private theorem suffixLength_eq_or_le :
    rules.suffixLength count found labels = found ∨
      count ≤ rules.suffixLength count found labels := by
  induction labels generalizing rules count found with
  | nil => exact .inl rfl
  | cons label rest ih =>
    rw [suffixLength]
    split
    · rcases ih (rules.follow (Punycode.normalLabel label)) (count + 1) _ with h | h
      · rw [h]
        split
        · exact .inr (Nat.le_succ count)
        · exact .inl rfl
      · exact .inr (Nat.le_of_succ_le h)
    · split
      · split
        · exact .inr (Nat.le_refl count)
        · exact .inr (Nat.le_succ count)
      · exact .inl rfl

private theorem suffixLength_take {number : Nat}
    (h : rules.suffixLength count found labels < count + number) :
    rules.suffixLength count found (labels.take number) =
      rules.suffixLength count found labels := by
  induction labels generalizing rules count found number with
  | nil => rw [List.take_nil]
  | cons label rest ih =>
    cases number with
    | zero =>
      -- A suffix found further on would be longer than what is left to look at.
      rcases suffixLength_eq_or_le rules count found (label :: rest) with he | hle
      · exact he.symm
      · omega
    | succ number =>
      rw [suffixLength] at h
      dsimp only at h
      rw [List.take_succ_cons, suffixLength, suffixLength]
      split at h
      · next hhas =>
        rw [if_pos hhas, if_pos hhas]
        refine ih _ _ _ ?_
        omega
      · next hhas => rw [if_neg hhas, if_neg hhas]

/-- The labels that are kept of some: those of their public suffix, which has at least one, and one
before it that is not empty. -/
structure Keeps (rules : SuffixRules) (labels kept : List Text) : Prop where
  suffix : kept <:+ labels
  length : kept.length = rules.suffixLength 0 0 labels.reverse + 1
  two : 2 ≤ kept.length
  first : kept.head? ≠ some []

private theorem Keeps.self {rules : SuffixRules} {labels kept : List Text}
    (h : rules.Keeps labels kept) : rules.Keeps kept kept := by
  have htake : kept.reverse = labels.reverse.take kept.length := by
    obtain ⟨front, rfl⟩ := h.suffix
    rw [List.reverse_append, List.take_left' (List.length_reverse)]
  have hsame : rules.suffixLength 0 0 kept.reverse = rules.suffixLength 0 0 labels.reverse := by
    rw [htake]
    refine suffixLength_take rules 0 0 labels.reverse ?_
    rw [h.length]
    omega
  exact ⟨List.suffix_rfl, hsame ▸ h.length, h.two, h.first⟩

end SuffixRules

namespace Url

variable (rules : SuffixRules) {host : Text} {kept : List Text}

private theorem baseOfHost_of_keeps (h : rules.Keeps (labels host) kept) :
    baseOfHost rules host = Text.join "." kept := by
  obtain ⟨front, hfront⟩ := h.suffix
  have hlength := congrArg List.length hfront
  rw [List.length_append, h.length] at hlength
  have htwo := h.two
  have hsuffix := h.length
  have hdrop : (labels host).drop
      ((labels host).length - rules.suffixLength 0 0 (labels host).reverse - 1) = kept := by
    rw [← hfront] at hlength ⊢
    exact List.drop_left' (by omega)
  rw [baseOfHost]
  simp only [hdrop]
  cases kept with
  | nil => cases htwo
  | cons label rest =>
    have hlabel : label.isEmpty = false := by
      rw [List.isEmpty_eq_false_iff]
      exact fun he => h.first (congrArg some he)
    refine if_neg ?_
    rintro (hzero | hle | hempty)
    · omega
    · omega
    · exact absurd hempty (hlabel ▸ Bool.false_ne_true)

private theorem baseOfHost_cases (host : Text) :
    baseOfHost rules host = host ∨
      ∃ kept, rules.Keeps (labels host) kept ∧ baseOfHost rules host = Text.join "." kept := by
  have hdrop := List.drop_suffix
    ((labels host).length - rules.suffixLength 0 0 (labels host).reverse - 1) (labels host)
  have hlength := List.length_drop
    (i := (labels host).length - rules.suffixLength 0 0 (labels host).reverse - 1)
    (l := labels host)
  rw [baseOfHost]
  split
  · next label rest he =>
    split
    · exact .inl rfl
    · next hc =>
      rw [not_or, not_or, Bool.not_eq_true, List.isEmpty_eq_false_iff] at hc
      obtain ⟨hpos, hlt, hlabel⟩ := hc
      rw [he] at hdrop hlength
      refine .inr ⟨label :: rest, ⟨hdrop, ?_, ?_, fun hh => hlabel (Option.some.inj hh)⟩, rfl⟩
      · omega
      · omega
  · exact .inl rfl

private theorem isDot_of_isNamePoint {c : CodePoint} (h : isNamePoint c = true) :
    isDot c = (c == '.') := by
  have hlt := (ascii_of_isNamePoint h).2
  have hideographic : (c.val == 0x3002) = false := beq_false_of_ne (by omega)
  have hwide : (c.val == 0xFF0E) = false := beq_false_of_ne (by omega)
  have hhalf : (c.val == 0xFF61) = false := beq_false_of_ne (by omega)
  simp only [isDot, hideographic, hwide, hhalf, Bool.or_false]

/-- Names have no blanks to strip. -/
theorem IsName.strip {t : Text} (h : IsName t) : Text.strip t = t := by
  have hascii : ∀ n < 128, 32 < n → inRanges blankRanges n = false := by decide
  have hblank : ∀ c ∈ t, c.isBlank = false := fun c hc => by
    obtain ⟨hlt, ha⟩ := ascii_of_isNamePoint (h c hc)
    exact hascii c.val ha hlt
  have hfront : t.dropWhile (·.isBlank) = t := by
    rw [List.dropWhile_eq_self_iff]
    intro hl hb
    rw [hblank _ (List.getElem_mem hl)] at hb
    cases hb
  have hback : t.rdropWhile (·.isBlank) = t := by
    rw [List.rdropWhile_eq_self_iff]
    intro hl hb
    rw [hblank _ (List.getLast_mem hl)] at hb
    cases hb
  rw [Text.strip, hfront]
  exact hback

/-- A name without the full stops at its end. -/
def trimmed (name : Text) : Text := name.rdropWhile (· == '.')

private theorem IsName.trimmed {name : Text} (h : IsName name) : IsName (trimmed name) :=
  fun c hc => h c ((List.rdropWhile_prefix _ name).subset hc)

/-- A text is made of the last labels of a name, at least two of them. -/
def IsEnd (t name : Text) : Prop :=
  t.splitOn ('.' : CodePoint) <:+ name.splitOn ('.' : CodePoint) ∧
    2 ≤ (t.splitOn ('.' : CodePoint)).length

private theorem labels_of_isName {name : Text} (h : IsName name) :
    labels name = (trimmed name).splitOn ('.' : CodePoint) := by
  have hwhole : name.takeWhile (fun c : CodePoint => c != ':') = name :=
    List.takeWhile_eq_self_iff.mpr (h.all_ne (by decide))
  have htrim : (name.reverse.dropWhile isDot).reverse = trimmed name :=
    congrArg List.reverse (Text.dropWhile_congr fun c hc =>
      isDot_of_isNamePoint (h c (List.mem_reverse.mp hc)))
  unfold labels
  rw [hwhole, h.strip]
  dsimp only
  rw [htrim, Text.splitWhere_congr fun c hc => isDot_of_isNamePoint (h.trimmed c hc)]
  exact Text.splitWhere_eq_splitOnP _ _

section Kept

variable {rules}

private theorem join_suffix (hn : IsName host) (h : rules.Keeps (labels host) kept) :
    Text.join "." kept <:+ trimmed host := by
  have hne : kept ≠ [] := by
    rintro rfl
    cases h.two
  obtain ⟨front, hfront⟩ := h.suffix
  rw [labels_of_isName hn] at hfront
  have hjoin := Text.intercalate_suffix [CodePoint.ofChar '.'] hne front
  rw [hfront, List.intercalate_splitOn] at hjoin
  rw [Text.join_eq_intercalate]
  exact hjoin

private theorem isName_join (hn : IsName host) (h : rules.Keeps (labels host) kept) :
    IsName (Text.join "." kept) :=
  fun c hc => hn.trimmed c ((join_suffix hn h).subset hc)

/-- The labels that are kept of a name are those between the full stops of what they are joined
to. -/
private theorem splitOn_join (hn : IsName host) (h : rules.Keeps (labels host) kept) :
    (Text.join "." kept).splitOn ('.' : CodePoint) = kept := by
  rw [Text.join_eq_intercalate]
  refine List.splitOn_intercalate _ ?_ ?_
  · intro label hl
    have hmem := h.suffix.subset hl
    rw [labels_of_isName hn] at hmem
    exact Text.not_mem_of_mem_splitOn hmem
  · rintro rfl
    cases h.two

private theorem isEnd_join (hn : IsName host) (h : rules.Keeps (labels host) kept) :
    IsEnd (Text.join "." kept) (trimmed host) := by
  rw [IsEnd, splitOn_join hn h, ← labels_of_isName hn]
  exact ⟨h.suffix, h.two⟩

private theorem labels_join (hn : IsName host) (h : rules.Keeps (labels host) kept) :
    labels (Text.join "." kept) = kept := by
  have hend : trimmed (Text.join "." kept) = Text.join "." kept := by
    refine List.rdropWhile_eq_self_iff.mpr fun hne => ?_
    rw [(join_suffix hn h).getLast hne]
    exact List.rdropWhile_last_not (fun c : CodePoint => c == '.') host _
  rw [labels_of_isName (isName_join hn h), hend, splitOn_join hn h]

end Kept

private theorem baseDomain_of_host_nil {url : Text} (h : Url.host url = []) :
    baseDomain rules url = [] := by
  rw [baseDomain]
  simp only [h]
  rfl

private theorem baseDomain_of_host_ne_nil {url : Text} (h : Url.host url ≠ []) :
    baseDomain rules url = baseOfHost rules (Url.host url) := by
  rw [baseDomain]
  exact if_neg (by simpa using h)

private theorem baseDomain_ofHost {name : Text} (h : IsSmallName name) (hne : name ≠ []) :
    baseDomain rules (ofHost name) = baseOfHost rules name := by
  have hhost := host_ofHost h
  rw [← hhost] at hne
  rw [baseDomain_of_host_ne_nil rules hne, hhost]

private theorem baseOfHost_ne_nil (hne : host ≠ []) : baseOfHost rules host ≠ [] := by
  rcases baseOfHost_cases rules host with h | ⟨kept, hk, h⟩
  · rwa [h]
  · rw [h, Text.join_eq_intercalate]
    have htwo := hk.two
    rcases kept with _ | ⟨label, _ | ⟨next, rest⟩⟩
    · cases htwo
    · exact absurd htwo (by simp)
    · rw [List.intercalate_cons_cons]
      simp [Text.ofString]

/-- The base domain of a URL is empty only if its host is. If its host is a name, the base domain is
the host or the last labels of it, at least two, and the URL that has the base domain for a host
has it for a base domain too. -/
theorem baseDomain_settles (url : Text) :
    (baseDomain rules url = [] ↔ Url.host url = []) ∧
      (IsName (Url.host url) →
        (baseDomain rules url = Url.host url ∨
          IsEnd (baseDomain rules url) (trimmed (Url.host url))) ∧
        Url.host (ofHost (baseDomain rules url)) = baseDomain rules url ∧
        baseDomain rules (ofHost (baseDomain rules url)) = baseDomain rules url) := by
  by_cases he : Url.host url = []
  · have hself : Url.host (ofHost []) = [] := host_ofHost ⟨nofun, nofun⟩
    rw [baseDomain_of_host_nil rules he, he]
    exact ⟨Iff.rfl, fun _ => ⟨.inl rfl, hself, baseDomain_of_host_nil rules hself⟩⟩
  · rw [baseDomain_of_host_ne_nil rules he]
    refine ⟨iff_of_false (baseOfHost_ne_nil rules he) he, fun hname => ?_⟩
    have hsmall := isSmallName_host hname
    rcases baseOfHost_cases rules (Url.host url) with h | ⟨kept, hk, h⟩
    · rw [h]
      exact ⟨.inl rfl, host_ofHost hsmall, (baseDomain_ofHost rules hsmall he).trans h⟩
    · -- The host was cut down: what is kept is kept again when the walk starts from it.
      have hne := h ▸ baseOfHost_ne_nil rules he
      have hkept : IsSmallName (Text.join "." kept) :=
        ⟨isName_join hname hk, fun c hc => hsmall.2 c
          ((List.rdropWhile_prefix _ _).subset ((join_suffix hname hk).subset hc))⟩
      have hagain : rules.Keeps (labels (Text.join "." kept)) kept := by
        rw [labels_join hname hk]
        exact hk.self
      rw [h]
      refine ⟨.inr (isEnd_join hname hk), host_ofHost hkept, ?_⟩
      rw [baseDomain_ofHost rules hkept hne, baseOfHost_of_keeps rules hagain]

/-- A URL with capitals, a port and a full stop after its host, which a rule excepts from a star. -/
def excepted : Text := "HTTP://Shop.WWW.ck.:80/"

theorem baseDomain_settles_excepted :
    IsName (Url.host excepted) ∧
      baseDomain .known excepted = "www.ck" ∧
      baseDomain .known (ofHost "www.ck") = "www.ck" := by
  have hname : IsName (Url.host excepted) := List.all_eq_true.mp (by decide +kernel)
  have hbase : baseDomain .known excepted = "www.ck" := by decide +kernel
  have hagain := ((baseDomain_settles .known excepted).2 hname).2.2
  rw [hbase] at hagain
  exact ⟨hname, hbase, hagain⟩

end Url

end BreakageAdvisor
