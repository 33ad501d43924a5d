import BreakageAdvisor.Web.Url
import BreakageAdvisor.Proofs.Text.LetterCase
import BreakageAdvisor.Proofs.Text.Parts

/-!
# Hosts that are names

A host may be a name of ASCII letters, digits, hyphens, underscores and full stops. No other part of
a URL begins inside a name, and the name of a host has no capitals, so it is read back as it is from
the URL that has it for a host.
-/

namespace BreakageAdvisor

namespace Url

/-- Whether a code point may stand in a name: ASCII letters and digits, hyphen, underscore and full
stop. -/
def isNamePoint (c : CodePoint) : Bool :=
  (65 ≤ c.val && c.val ≤ 90) || (97 ≤ c.val && c.val ≤ 122) || c.isAsciiDigit
    || c == '-' || c == '_' || c == '.'

/-- A text of code points that may stand in a name. -/
def IsName (t : Text) : Prop := ∀ c ∈ t, isNamePoint c = true

/-- A name without capitals. -/
def IsSmallName (t : Text) : Prop := IsName t ∧ ∀ c ∈ t, ¬c.IsAsciiCapital

/-- The URL of a host, with nothing but the path of its root. -/
def ofHost (host : Text) : Text := "http://" ++ host ++ "/"

/-- Names are printable ASCII. -/
theorem ascii_of_isNamePoint {c : CodePoint} (h : isNamePoint c = true) :
    32 < c.val ∧ c.val < 128 := by
  simp only [isNamePoint, CodePoint.isAsciiDigit, Bool.or_eq_true, Bool.and_eq_true,
    decide_eq_true_eq, beq_iff_eq] at h
  rcases h with ((((h | h) | h) | rfl) | rfl) | rfl
  · omega
  · omega
  · omega
  all_goals decide

namespace IsName

variable {t : Text}

private theorem not_mem (h : IsName t) {c : CodePoint} (hc : isNamePoint c = false) : c ∉ t := by
  intro hm
  rw [h c hm] at hc
  cases hc

/-- A test that only fails on code points outside of names succeeds everywhere in a name. -/
theorem all_ne (h : IsName t) {c : CodePoint} (hc : isNamePoint c = false) :
    ∀ d ∈ t, (d != c) = true :=
  fun _ hd => bne_iff_ne.mpr fun he => h.not_mem hc (he ▸ hd)

/-- A name is an authority in order, and its host is itself. -/
theorem isAuthority (h : IsName t) : isAuthority t = true := by
  have hopen : t.contains (CodePoint.ofChar '[') = false := by
    simpa using h.not_mem (c := '[') (by decide)
  have hclose : t.contains (CodePoint.ofChar ']') = false := by
    simpa using h.not_mem (c := ']') (by decide)
  have hall : (t.all fun c => !disguisedDelimiters.contains c.val) = true := by
    rw [List.all_eq_true]
    intro c hc
    have hbeyond : ∀ n ∈ disguisedDelimiters, 128 ≤ n := by decide
    have hnot : c.val ∉ disguisedDelimiters := fun hm => by
      have hle := hbeyond c.val hm
      have hlt := (ascii_of_isNamePoint (h c hc)).2
      omega
    simpa using hnot
  simp only [Url.isAuthority, hopen, hclose, hall]
  rfl

theorem rawHost (h : IsName t) : rawHost t = t := by
  have hpart : hostAndPort t = t := Text.afterLast_eq_self (h.not_mem (by decide))
  rw [Url.rawHost, hpart, Text.splitFirst?_eq_none (h.not_mem (by decide))]
  exact List.takeWhile_eq_self_iff.mpr (h.all_ne (by decide))

end IsName

/-- A name without capitals is in lower case. -/
theorem IsSmallName.lowerHost {t : Text} (h : IsSmallName t) : lowerHost t = t := by
  have hne := h.1.all_ne (c := '%') (by decide)
  rw [Url.lowerHost, List.takeWhile_eq_self_iff.mpr hne, List.dropWhile_eq_nil_iff.mpr hne,
    List.append_nil]
  exact Text.lowerAfter_of_ascii fun c hc => ⟨(ascii_of_isNamePoint (h.1 c hc)).2, h.2 c hc⟩

private theorem clean_ofHost {name : Text} (h : IsName name) :
    clean (ofHost name) = ofHost name := by
  have haround : ∀ c ∈ Text.ofString "http://" ++ Text.ofString "/", 32 < c.val := by
    simpa only [List.all_eq_true, decide_eq_true_eq] using
      (by decide : (Text.ofString "http://" ++ Text.ofString "/").all (32 < ·.val) = true)
  have hkept : ∀ c ∈ ofHost name, (c.val != 9 && c.val != 10 && c.val != 13) = true := by
    intro c hc
    have hlt : 32 < c.val := by
      rw [ofHost, List.mem_append, List.mem_append] at hc
      rcases hc with (hc | hc) | hc
      · exact haround c (List.mem_append_left _ hc)
      · exact (ascii_of_isNamePoint (h c hc)).1
      · exact haround c (List.mem_append_right _ hc)
    simp only [Bool.and_eq_true, bne_iff_ne]
    omega
  exact List.filter_eq_self.mpr hkept

private theorem authority_ofHost {name : Text} (h : IsName name) :
    authority? (dropScheme (ofHost name)) = some name := by
  have hscheme : dropScheme (ofHost name) = "//" ++ (name ++ "/") := by
    have hsplit : Text.splitFirst? ':' (ofHost name) =
        some (Text.ofString "http", "//" ++ (name ++ "/")) :=
      Text.splitFirst?_append (t := Text.ofString "http") (by decide) _
    rw [dropScheme, hsplit]
    rfl
  have hend : ∀ c ∈ name, (c != '/' && c != '?' && c != '#') = true := by
    intro c hc
    rw [h.all_ne (c := '/') (by decide) c hc, h.all_ne (c := '?') (by decide) c hc,
      h.all_ne (c := '#') (by decide) c hc]
    rfl
  rw [hscheme, authority?, Text.dropPrefix?_eq_some_iff.mpr rfl, Option.map_some,
    List.takeWhile_append_of_pos hend]
  exact congrArg some (List.append_nil name)

/-- A name without capitals is read back from the URL that has it for a host. -/
theorem host_ofHost {name : Text} (h : IsSmallName name) : host (ofHost name) = name := by
  rw [host, clean_ofHost h.1, authority_ofHost h.1]
  simp only [h.1.isAuthority, if_true, h.1.rawHost, h.lowerHost]

/-- A host that is a name has no capitals. -/
theorem isSmallName_host {url : Text} (h : IsName (host url)) : IsSmallName (host url) := by
  refine ⟨h, ?_⟩
  revert h
  unfold host
  split
  · next authority _ =>
    split
    · intro h c hc
      have hnone : (rawHost authority).dropWhile (fun c : CodePoint => c != '%') = [] := by
        by_contra hne
        have hsign := List.head_dropWhile_not (fun c : CodePoint => c != '%') hne
        have hname := h _ (List.mem_append_right _ (List.head_mem hne))
        rw [bne_eq_false_iff_eq.mp hsign] at hname
        exact absurd hname (by decide)
      rw [lowerHost, hnone, List.append_nil] at hc
      exact Text.not_isAsciiCapital_of_mem_lowerAfter hc
    · exact fun _ _ => nofun
  · exact fun _ _ => nofun

end Url

end BreakageAdvisor
