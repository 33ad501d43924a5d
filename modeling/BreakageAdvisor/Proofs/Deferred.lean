import BreakageAdvisor.Deferred

/-!
# Deferred activity, read back

Deferred activity is read through two views: which tabs have navigated, and the URLs requested by a
tab. Every operation is described by what it does to the two views.
-/

namespace BreakageAdvisor

instance : EquivBEq TabId where
  rfl {a} := by simp [BEq.beq, TabId.same]
  symm {a b} h := by
    simp only [BEq.beq, TabId.same, decide_eq_true_eq] at h ⊢
    exact h.symm
  trans {a b c} hab hbc := by
    simp only [BEq.beq, TabId.same, decide_eq_true_eq] at hab hbc ⊢
    exact hab.trans hbc

namespace Deferred

/-- A URL is in a list with another at its end if it is the other or was in the list. -/
theorem mem_addUrl {urls : List Text} {url v : Text} :
    v ∈ addUrl urls url ↔ v ∈ urls ∨ v = url := by
  unfold addUrl
  split
  · next h =>
    constructor
    · exact .inl
    · rintro (hv | rfl)
      · exact hv
      · exact h
  · rw [List.mem_append, List.mem_singleton]

/-- A list with others at its end has their URLs and its own. -/
theorem mem_foldl_addUrl {more urls : List Text} {v : Text} :
    v ∈ more.foldl addUrl urls ↔ v ∈ urls ∨ v ∈ more := by
  induction more generalizing urls with
  | nil => simp
  | cons url more ih =>
    rw [List.foldl_cons, ih, mem_addUrl, List.mem_cons, or_assoc]

section Requests

variable {t u : TabId} {urls : List Text}

private theorem urlsOf_congr (h : t == u) (requests : List (TabId × List Text)) :
    urlsOf t requests = urlsOf u requests := by
  induction requests with
  | nil => rfl
  | cons entry rest ih =>
    obtain ⟨s, old⟩ := entry
    rw [urlsOf, urlsOf, ih, BEq.congr_right h]

private theorem urlsOf_filter (requests : List (TabId × List Text)) :
    urlsOf u (requests.filter fun entry => !(entry.1 == t)) =
      if t == u then [] else urlsOf u requests := by
  induction requests with
  | nil => simp [urlsOf]
  | cons entry rest ih =>
    obtain ⟨s, old⟩ := entry
    by_cases hs : s == t
    · rw [List.filter_cons_of_neg (by simp [hs]), ih]
      simp only [urlsOf, BEq.congr_left hs]
      split <;> rfl
    · rw [List.filter_cons_of_pos (by simp [hs]), urlsOf, urlsOf, ih]
      by_cases hu : t == u
      · rw [← BEq.congr_right hu]
        simp [hs, hu]
      · simp [hu]

private theorem urlsOf_setUrls (requests : List (TabId × List Text)) :
    urlsOf u (setUrls t urls requests) = if t == u then urls else urlsOf u requests := by
  induction requests with
  | nil => simp [setUrls, urlsOf]
  | cons entry rest ih =>
    obtain ⟨s, old⟩ := entry
    by_cases hs : s == t
    · simp only [setUrls, hs, if_true, urlsOf, BEq.congr_left hs]
      split <;> rfl
    · rw [setUrls, if_neg hs, urlsOf, urlsOf, ih]
      by_cases hu : t == u
      · rw [BEq.congr_right hu] at hs
        rw [if_neg hs, if_pos hu, if_pos hu]
      · rw [if_neg hu, if_neg hu]

end Requests

variable (d : Deferred) (t u : TabId)

/-- Two ids of one tab have the same URLs. -/
theorem urls_congr {t u : TabId} (h : t == u) : d.urls t = d.urls u := urlsOf_congr h d.requests

/-- Two ids of one tab have navigated alike. -/
theorem hasTab_congr {t u : TabId} (h : t == u) : d.hasTab t = d.hasTab u := by
  unfold hasTab
  congr 1
  funext s
  exact BEq.congr_right h

/-- A tab whose navigation is deferred has navigated, besides those that had. -/
@[simp]
theorem hasTab_addTab : (d.addTab t).hasTab u = (t == u || d.hasTab u) := by
  unfold addTab
  split
  · next h =>
    by_cases hu : t == u
    · rw [← d.hasTab_congr hu, h]
      simp
    · simp [hu]
  · simp [hasTab, Bool.or_comm]

/-- A tab whose navigation is forgotten has not navigated; the others keep theirs. -/
@[simp]
theorem hasTab_dropTab : (d.dropTab t).hasTab u = (!(t == u) && d.hasTab u) := by
  unfold hasTab dropTab
  rw [List.any_filter]
  by_cases hu : t == u
  · rw [hu, List.any_eq_false.mpr]
    · rfl
    · intro s _
      simp [BEq.congr_right hu]
  · rw [Bool.not_eq_true] at hu
    rw [hu]
    congr 1
    funext s
    by_cases hs : s == t
    · simp [hs, BEq.congr_left hs, hu]
    · simp [hs]

@[simp]
theorem hasTab_dropRequests : (d.dropRequests t).hasTab u = d.hasTab u := rfl

@[simp]
theorem hasTab_addRequest (url : Text) : (d.addRequest t url).hasTab u = d.hasTab u := rfl

@[simp]
theorem urls_addTab : (d.addTab t).urls u = d.urls u := by
  unfold addTab
  split <;> rfl

@[simp]
theorem urls_dropTab : (d.dropTab t).urls u = d.urls u := rfl

/-- A tab whose requests are forgotten has none; the others keep theirs. -/
@[simp]
theorem urls_dropRequests : (d.dropRequests t).urls u = if t == u then [] else d.urls u :=
  urlsOf_filter d.requests

/-- A deferred request comes last among those of its tab. -/
theorem urls_addRequest (url : Text) :
    (d.addRequest t url).urls u = if t == u then addUrl (d.urls u) url else d.urls u := by
  unfold addRequest
  rw [urls, urlsOf_setUrls]
  split
  · next h => rw [d.urls_congr h]
  · rfl

/-- What is put back for a tab leaves whether it has navigated, unless it had when it was taken. -/
@[simp]
theorem hasTab_putBack (navigated : Bool) (taken : List Text) :
    (d.putBack t navigated taken).hasTab u = (navigated && t == u || d.hasTab u) := by
  have hm : (if navigated then d.addTab t else d).hasTab u =
      (navigated && t == u || d.hasTab u) := by
    cases navigated
    · rfl
    · exact d.hasTab_addTab t u
  by_cases h : taken.isEmpty
  · simp only [putBack, h, if_true]
    exact hm
  · simp only [putBack, h]
    exact hm

/-- What is put back comes before what was deferred meanwhile. -/
theorem urls_putBack (navigated : Bool) (taken : List Text) :
    (d.putBack t navigated taken).urls u =
      if t == u && !taken.isEmpty then (d.urls u).foldl addUrl taken else d.urls u := by
  have hm (v : TabId) : (if navigated then d.addTab t else d).urls v = d.urls v := by
    cases navigated
    · rfl
    · exact d.urls_addTab t v
  by_cases h : taken.isEmpty
  · simp only [putBack, h, if_true, hm]
    simp
  · simp only [putBack, h]
    rw [urls, if_neg Bool.false_ne_true, urlsOf_setUrls, hm, ← urls, hm]
    by_cases hu : t == u
    · simp [hu, d.urls_congr hu]
    · simp [hu]

end Deferred

end BreakageAdvisor
