import BreakageAdvisor.Proofs.Handler.Taken
import BreakageAdvisor.Proofs.Throughout
import Mathlib.Data.List.Induction
import Mathlib.Data.List.Nodup

/-!
# The order of deferred requests

A tab in the background is activated again and again, and found in the background each time.
Lookups overlap, and their answers come in any order. No request is lost or doubled. The requests
keep the order in which they first came, as long as the activation that took its requests last is
answered first.
-/

namespace BreakageAdvisor

namespace Deferred

private theorem nodup_addUrl {urls : List Text} (url : Text) (h : urls.Nodup) :
    (addUrl urls url).Nodup := by
  unfold addUrl
  split
  · exact h
  · next hu =>
    rw [← List.concat_eq_append]
    exact List.Nodup.concat hu h

private theorem nodup_foldl_addUrl {urls : List Text} (more : List Text) (h : urls.Nodup) :
    (more.foldl addUrl urls).Nodup := by
  induction more generalizing urls with
  | nil => exact h
  | cons url more ih => exact ih (nodup_addUrl url h)

private theorem foldl_addUrl_of_nodup {urls more : List Text} (h : (urls ++ more).Nodup) :
    more.foldl addUrl urls = urls ++ more := by
  induction more generalizing urls with
  | nil => exact (List.append_nil urls).symm
  | cons url more ih =>
    have hu : url ∉ urls := fun hm => List.disjoint_of_nodup_append h hm List.mem_cons_self
    have ha : addUrl urls url = urls ++ [url] := if_neg hu
    have happend : urls ++ url :: more = urls ++ [url] ++ more := by
      rw [List.append_assoc, List.singleton_append]
    rw [happend] at h ⊢
    rw [List.foldl_cons, ha, ih h]

private theorem eraseDups_append_eq (urls more : List Text) :
    (urls ++ more).eraseDups = more.foldl addUrl urls.eraseDups := by
  induction more generalizing urls with
  | nil => rw [List.append_nil, List.foldl_nil]
  | cons url more ih =>
    rw [List.foldl_cons, addUrl_eraseDups, ← ih, List.append_assoc, List.singleton_append]

private theorem nodup_eraseDups (urls : List Text) : urls.eraseDups.Nodup := by
  have h := eraseDups_append_eq [] urls
  rw [List.nil_append] at h
  rw [h]
  exact nodup_foldl_addUrl urls List.nodup_nil

private theorem eraseDups_of_nodup {urls : List Text} (h : urls.Nodup) : urls.eraseDups = urls := by
  have he := eraseDups_append_eq [] urls
  rw [List.nil_append] at he
  rw [he]
  exact foldl_addUrl_of_nodup h

private theorem eraseDups_append_addUrl (before urls : List Text) (url : Text) :
    (before ++ addUrl urls url).eraseDups = addUrl (before ++ urls).eraseDups url := by
  rw [addUrl_eraseDups, addUrl]
  split
  · next h =>
    rw [← addUrl_eraseDups, addUrl, if_pos]
    exact List.mem_eraseDups.mpr (List.mem_append_right before h)
  · rw [List.append_assoc]

private theorem eraseDups_append_foldl_addUrl (before urls more : List Text) :
    (before ++ more.foldl addUrl urls).eraseDups = (before ++ urls ++ more).eraseDups := by
  induction more generalizing urls with
  | nil => rw [List.foldl_nil, List.append_nil]
  | cons url more ih =>
    rw [List.foldl_cons, ih, eraseDups_append_eq, eraseDups_append_addUrl,
      eraseDups_append_eq (before ++ urls), List.foldl_cons]

private theorem sublist_concat_iff {urls all : List Text} {url : Text} (h : url ∉ urls) :
    urls.Sublist (all ++ [url]) ↔ urls.Sublist all := by
  refine ⟨?_, fun hs => hs.trans (List.sublist_append_left all [url])⟩
  intro hs
  obtain ⟨front, back, rfl, hfront, hback⟩ := List.sublist_append_iff.mp hs
  rcases List.sublist_singleton.mp hback with rfl | rfl
  · rwa [List.append_nil]
  · exact absurd (List.mem_append_right front (List.mem_singleton_self url)) h

end Deferred

open Handler

namespace Crew

/-- A run goes on with its next event. -/
theorem run_concat (policy : TrackingPolicy) (c : Crew) (events : List Event) (e : Event) :
    c.run policy (events ++ [e]) = (c.run policy events).step policy e := by
  simp [run]

private theorem queued_concat (policy : TrackingPolicy) (t : TabId) (c : Crew) (events : List Event)
    (e : Event) :
    c.queued policy t (events ++ [e]) =
      c.queued policy t events ++ ((c.run policy events).queued? t e).toList := by
  induction events generalizing c with
  | nil => exact List.append_nil _
  | cons first rest ih =>
    rw [List.cons_append, queued, queued, ih, List.append_assoc]
    rfl

/-- The URLs that were deferred for a tab are still deferred or taken, each place having a URL at
most once. -/
structure Stocks (t : TabId) (c : Crew) (arrivals : List Text) : Prop where
  mem : ∀ url, url ∈ arrivals ↔ url ∈ c.deferred.urls t ∨ ∃ urls ∈ c.pieces t, url ∈ urls
  queue : (c.deferred.urls t).Nodup
  pieces : ∀ urls ∈ c.pieces t, urls.Nodup

/-- What was taken and what is deferred, the oldest piece first, are the URLs in the order in which
they first came. -/
def InOrder (t : TabId) (c : Crew) (arrivals : List Text) : Prop :=
  ((c.pieces t).flatten ++ c.deferred.urls t).eraseDups = arrivals.eraseDups

/-- No URL is both deferred and taken, or taken twice. -/
def Apart (t : TabId) (c : Crew) : Prop := ((c.pieces t).flatten ++ c.deferred.urls t).Nodup

/-- What is deferred, and each piece that was taken, has its URLs in the order in which they first
came. -/
def Sorted (t : TabId) (c : Crew) (arrivals : List Text) : Prop :=
  ∀ urls ∈ c.deferred.urls t :: c.pieces t, urls.Sublist arrivals.eraseDups

/-- A URL that is deferred is not among what was taken. -/
def Unrepeated (t : TabId) (c : Crew) (e : Event) : Prop :=
  ∀ url, c.queued? t e = some url → ∀ urls ∈ c.pieces t, url ∉ urls

/-- What is put back was taken last. -/
def InTurn (t : TabId) (c : Crew) (e : Event) : Prop :=
  ∀ urls, c.returned? t e = some urls → c.laterPieces t e = []

/-- What is put back came before all that is deferred. -/
def Ahead (t : TabId) (c : Crew) (arrivals : List Text) (e : Event) : Prop :=
  ∀ urls, c.returned? t e = some urls →
    (urls ++ c.deferred.urls t).Sublist arrivals.eraseDups

section Changes

variable {t : TabId} {c c' : Crew} {e : Event} {arrivals : List Text}

/-- No URL is lost in a change. -/
theorem Stocks.change (hs : c.Stocks t arrivals) (hc : Change t c e c') :
    c'.Stocks t (arrivals ++ (c.queued? t e).toList) := by
  cases hc with
  | same hq _ hu hp =>
    rw [hq, Option.toList_none, List.append_nil]
    exact ⟨hu ▸ hp ▸ hs.mem, hu ▸ hs.queue, hp ▸ hs.pieces⟩
  | queued url hq _ hu hp =>
    refine ⟨?_, hu ▸ Deferred.nodup_addUrl url hs.queue, hp ▸ hs.pieces⟩
    intro v
    rw [hq, hu, hp, List.mem_append, hs.mem, Option.mem_toList, Option.some_inj,
      Deferred.mem_addUrl, eq_comm, or_right_comm]
  | took hq _ hu hp =>
    refine ⟨?_, hu ▸ List.nodup_nil, ?_⟩
    · intro v
      rw [hq, hu, hp, Option.toList_none, List.append_nil, hs.mem]
      simp only [List.mem_append, List.mem_singleton, List.not_mem_nil, false_or]
      constructor
      · rintro (hv | ⟨urls, hm, hv⟩)
        · exact ⟨_, .inr rfl, hv⟩
        · exact ⟨urls, .inl hm, hv⟩
      · rintro ⟨urls, hm | rfl, hv⟩
        · exact .inr ⟨urls, hm, hv⟩
        · exact .inl hv
    · intro urls hm
      rw [hp] at hm
      rcases List.mem_append.mp hm with hm | hm
      · exact hs.pieces urls hm
      · exact List.mem_singleton.mp hm ▸ hs.queue
  | returned before urls hq _ hu hp hp' =>
    have hmem (piece : List Text) :
        piece ∈ c.pieces t ↔ piece = urls ∨ piece ∈ c'.pieces t := by
      rw [hp, hp']
      simp only [List.mem_append, List.mem_cons]
      exact or_left_comm
    refine ⟨?_, ?_, fun piece hm => hs.pieces piece ((hmem piece).mpr (.inr hm))⟩
    · intro v
      rw [hq, hu, Option.toList_none, List.append_nil, hs.mem, Deferred.mem_foldl_addUrl]
      constructor
      · rintro (hv | ⟨piece, hm, hv⟩)
        · exact .inl (.inr hv)
        · rcases (hmem piece).mp hm with rfl | hm
          · exact .inl (.inl hv)
          · exact .inr ⟨piece, hm, hv⟩
      · rintro ((hv | hv) | ⟨piece, hm, hv⟩)
        · exact .inr ⟨urls, (hmem urls).mpr (.inl rfl), hv⟩
        · exact .inl hv
        · exact .inr ⟨piece, (hmem piece).mpr (.inr hm), hv⟩
    · rw [hu]
      exact Deferred.nodup_foldl_addUrl _ (hs.pieces urls ((hmem urls).mpr (.inl rfl)))

/-- The order is kept in a change where the piece that is put back is the last one taken. -/
theorem InOrder.change (ho : c.InOrder t arrivals) (hc : Change t c e c') (hlast : c.InTurn t e) :
    c'.InOrder t (arrivals ++ (c.queued? t e).toList) := by
  unfold InOrder at ho ⊢
  cases hc with
  | same hq _ hu hp => rw [hq, hu, hp, ho, Option.toList_none, List.append_nil]
  | queued url hq _ hu hp =>
    rw [hq, hu, hp, Option.toList_some, Deferred.eraseDups_append_addUrl, ho,
      Deferred.addUrl_eraseDups]
  | took hq _ hu hp =>
    rw [hq, hu, hp, Option.toList_none, List.append_nil, List.append_nil, List.flatten_concat, ho]
  | returned before urls hq hr hu hp hp' =>
    rw [hlast urls hr] at hp hp'
    rw [hq, hu, hp', Option.toList_none, List.append_nil, List.append_nil,
      Deferred.eraseDups_append_foldl_addUrl, ← ho, hp, List.flatten_concat]

/-- A URL that comes once stays in one place. -/
theorem Apart.change (ha : c.Apart t) (hc : Change t c e c') (hn : c.Unrepeated t e) :
    c'.Apart t := by
  unfold Apart at ha ⊢
  cases hc with
  | same _ _ hu hp => rwa [hu, hp]
  | queued url hq _ hu hp =>
    rw [hu, hp, Deferred.addUrl]
    split
    · exact ha
    · next hnew =>
      have hmem : url ∉ (c.pieces t).flatten ++ c.deferred.urls t := by
        rw [List.mem_append, List.mem_flatten]
        rintro (⟨urls, hm, hv⟩ | hm)
        · exact hn url hq urls hm hv
        · exact hnew hm
      rw [← List.append_assoc, ← List.concat_eq_append]
      exact List.Nodup.concat hmem ha
  | took _ _ hu hp => rwa [hu, hp, List.append_nil, List.flatten_concat]
  | returned before urls _ _ hu hp hp' =>
    have hperm : ((c.pieces t).flatten ++ c.deferred.urls t).Perm
        ((before ++ c.laterPieces t e).flatten ++ (urls ++ c.deferred.urls t)) := by
      rw [hp, List.flatten_append, List.flatten_append, List.flatten_cons]
      simp only [List.append_assoc]
      exact List.Perm.append_left _ (List.perm_append_comm_assoc _ _ _)
    have hnodup := hperm.nodup_iff.mp ha
    rw [hu, hp', Deferred.foldl_addUrl_of_nodup hnodup.of_append_right]
    exact hnodup

private theorem sorted_queued {url : Text} (hs : c.Stocks t arrivals)
    (hu : c'.deferred.urls t = Deferred.addUrl (c.deferred.urls t) url)
    (hp : c'.pieces t = c.pieces t) (hn : ∀ urls ∈ c.pieces t, url ∉ urls) :
    c'.Sorted t (arrivals ++ [url]) ↔ c.Sorted t arrivals := by
  unfold Sorted
  rw [hu, hp, ← Deferred.addUrl_eraseDups, Deferred.addUrl, Deferred.addUrl]
  have hiff : url ∈ arrivals.eraseDups ↔ url ∈ c.deferred.urls t := by
    rw [List.mem_eraseDups, hs.mem]
    apply or_iff_left
    rintro ⟨urls, hm, hv⟩
    exact hn urls hm hv
  by_cases hm : url ∈ c.deferred.urls t
  · rw [if_pos hm, if_pos (hiff.mpr hm)]
  · rw [if_neg hm, if_neg (fun h => hm (hiff.mp h)), List.forall_mem_cons, List.forall_mem_cons,
      List.append_sublist_append_right]
    refine and_congr_right' (forall₂_congr ?_)
    intro urls hurls
    exact Deferred.sublist_concat_iff (hn urls hurls)

private theorem sorted_change_iff (hs : c.Stocks t arrivals) (ha : c.Apart t) (hc : Change t c e c')
    (hn : c.Unrepeated t e) :
    c'.Sorted t (arrivals ++ (c.queued? t e).toList) ↔
      c.Sorted t arrivals ∧ c.Ahead t arrivals e := by
  have hstays (hr : c.returned? t e = none) :
      c.Sorted t arrivals ↔ c.Sorted t arrivals ∧ c.Ahead t arrivals e := by
    refine (and_iff_left ?_).symm
    intro urls h
    rw [hr] at h
    cases h
  cases hc with
  | same hq hr hu hp =>
    rw [← hstays hr, hq, Option.toList_none, List.append_nil, Sorted, Sorted, hu, hp]
  | queued url hq hr hu hp =>
    rw [← hstays hr, hq, Option.toList_some]
    exact sorted_queued hs hu hp (hn url hq)
  | took hq hr hu hp =>
    rw [← hstays hr, hq, Option.toList_none, List.append_nil, Sorted, Sorted, hu, hp,
      List.forall_mem_cons, List.forall_mem_cons, List.forall_mem_append, List.forall_mem_singleton,
      and_comm, and_iff_left (List.nil_sublist _), and_comm]
  | returned before urls hq hr hu hp hp' =>
    have hnodup : (urls ++ c.deferred.urls t).Nodup := by
      unfold Apart at ha
      rw [hp, List.flatten_append, List.flatten_cons, List.append_assoc, List.append_assoc] at ha
      exact ha.of_append_right.sublist
        (List.Sublist.append_left (List.sublist_append_right _ _) urls)
    have hahead : c.Ahead t arrivals e ↔
        (urls ++ c.deferred.urls t).Sublist arrivals.eraseDups := by
      simp only [Ahead, hr, Option.some.injEq, forall_eq']
    rw [hahead, hq, Option.toList_none, List.append_nil, Sorted, Sorted, hu, hp, hp',
      Deferred.foldl_addUrl_of_nodup hnodup]
    simp only [List.forall_mem_cons, List.forall_mem_append]
    constructor
    · rintro ⟨h, hbefore, hlater⟩
      exact ⟨⟨(List.sublist_append_right _ _).trans h, hbefore,
        (List.sublist_append_left _ _).trans h, hlater⟩, h⟩
    · rintro ⟨⟨_, hbefore, _, hlater⟩, h⟩
      exact ⟨h, hbefore, hlater⟩

end Changes

section Runs

variable {policy : TrackingPolicy} {t : TabId} {c : Crew} {events : List Event}

private theorem stocks_run (hu : c.deferred.urls t = []) (hp : c.pieces t = [])
    (he : ∀ e ∈ events, e.KeepsBackground policy t) :
    (c.run policy events).Stocks t (c.queued policy t events) := by
  induction events using List.reverseRecOn with
  | nil =>
    refine ⟨?_, hu ▸ List.nodup_nil, ?_⟩
    · intro url
      simp [queued, run, hu, hp]
    · intro urls hm
      rw [run, List.foldl_nil, hp] at hm
      cases hm
  | append_singleton past e ih =>
    have hpast := ih fun e' he' => he e' (List.mem_append_left [e] he')
    rw [run_concat, queued_concat]
    exact hpast.change (change_step (he e (List.mem_append_right past (List.mem_singleton_self e))))

private theorem inOrder_run (hu : c.deferred.urls t = []) (hp : c.pieces t = [])
    (he : ∀ e ∈ events, e.KeepsBackground policy t)
    (hlast : Throughout (fun past e => (c.run policy past).InTurn t e) events) :
    (c.run policy events).InOrder t (c.queued policy t events) := by
  induction events using List.reverseRecOn with
  | nil =>
    rw [run, List.foldl_nil, InOrder, hu, hp]
    rfl
  | append_singleton past e ih =>
    obtain ⟨hpast, hturn⟩ := Throughout.concat_iff.mp hlast
    have ho := ih (fun e' he' => he e' (List.mem_append_left [e] he')) hpast
    rw [run_concat, queued_concat]
    exact ho.change (change_step (he e (List.mem_append_right past (List.mem_singleton_self e))))
      hturn

private theorem sorted_run_iff (hu : c.deferred.urls t = []) (hp : c.pieces t = [])
    (he : ∀ e ∈ events, e.KeepsBackground policy t)
    (hn : Throughout (fun past e => (c.run policy past).Unrepeated t e) events) :
    (c.run policy events).Apart t ∧
      ((c.run policy events).Sorted t (c.queued policy t events) ↔
        Throughout (fun past e => (c.run policy past).Ahead t
          (c.queued policy t past) e) events) := by
  induction events using List.reverseRecOn with
  | nil =>
    rw [run, List.foldl_nil, Apart, Sorted, hu, hp]
    exact ⟨List.nodup_nil, iff_of_true (by simp) .nil⟩
  | append_singleton past e ih =>
    obtain ⟨hnpast, hne⟩ := Throughout.concat_iff.mp hn
    have hepast : ∀ e' ∈ past, e'.KeepsBackground policy t :=
      fun e' he' => he e' (List.mem_append_left [e] he')
    have hc := change_step (c := c.run policy past)
      (he e (List.mem_append_right past (List.mem_singleton_self e)))
    obtain ⟨ha, hiff⟩ := ih hepast hnpast
    rw [run_concat, queued_concat, Throughout.concat_iff, ← hiff]
    exact ⟨ha.change hc hne, sorted_change_iff (stocks_run hu hp hepast) ha hc hne⟩

private theorem pieces_of_ended (h : ∀ p ∈ c.members, p = .ended) : c.pieces t = [] := by
  rw [pieces, List.filterMap_eq_nil_iff]
  intro p hp
  rw [h p hp]
  rfl

/-- While a tab stays in the background, no request of it is lost or doubled. When all handlers have
ended, the requests are in the order in which they first came, if what was taken last was always
put back first. Where no URL was deferred again while it was taken, they are in that order just if
what was put back always came before all that was deferred. -/
theorem background_requests_kept (hu : c.deferred.urls t = []) (hp : c.pieces t = [])
    (he : ∀ e ∈ events, e.KeepsBackground policy t)
    (hended : ∀ p ∈ (c.run policy events).members, p = .ended) :
    let urls := (c.run policy events).deferred.urls t
    let arrivals := (c.queued policy t events).eraseDups
    urls.Perm arrivals ∧
      (Throughout (fun past e => (c.run policy past).InTurn t e) events →
        urls = arrivals) ∧
      (Throughout (fun past e => (c.run policy past).Unrepeated t e) events →
        (urls = arrivals ↔ Throughout (fun past e => (c.run policy past).Ahead t
          (c.queued policy t past) e) events)) := by
  intro urls arrivals
  have hs := stocks_run hu hp he
  have hnone := pieces_of_ended (t := t) hended
  have hperm : urls.Perm arrivals := by
    refine (List.perm_ext_iff_of_nodup hs.queue (Deferred.nodup_eraseDups _)).mpr ?_
    intro url
    rw [List.mem_eraseDups, hs.mem, hnone]
    simp only [List.not_mem_nil, false_and, exists_false, or_false]
  refine ⟨hperm, ?_, ?_⟩
  · intro hlast
    have ho := inOrder_run hu hp he hlast
    rwa [InOrder, hnone, List.flatten_nil, List.nil_append,
      Deferred.eraseDups_of_nodup hs.queue] at ho
  · intro hn
    rw [← (sorted_run_iff hu hp he hn).2, Sorted, hnone, List.forall_mem_singleton]
    constructor
    · intro h
      have hsub : urls.Sublist arrivals := by rw [h]
      exact hsub
    · intro h
      exact h.eq_of_length hperm.length_eq

end Runs

/-- Every tab is found in the background. -/
def inBackground : Reply := .found fun id => .ok ⟨id, "https://p.com/", false⟩

/-- Two requests of a tab are taken by two activations, which are answered in a given order. -/
def overlap (first second : Nat) : List Event :=
  [.began (.requested ⟨.number 1, "https://a.com/1", none⟩), .replied 0 inBackground,
    .began (.activated (.number 1)),
    .began (.requested ⟨.number 1, "https://a.com/2", none⟩), .replied 2 inBackground,
    .began (.activated (.number 1)),
    .replied first inBackground, .replied second inBackground]

private theorem overlap_keepsBackground (first second : Nat) :
    ∀ e ∈ overlap first second, e.KeepsBackground {} (.number 1) := by
  have hreply : inBackground.KeepsBackground (.number 1) := by
    intro id
    split
    · next h => exact ⟨_, rfl, h, rfl⟩
    · next h =>
      intro tab ht
      cases ht
      exact h
  simp only [overlap, List.forall_mem_cons]
  exact ⟨trivial, hreply, trivial, trivial, hreply, trivial, hreply, hreply, nofun⟩

/-- The order is kept if the second activation is answered first. -/
theorem overlap_kept :
    (∀ e ∈ overlap 3 1, e.KeepsBackground {} (.number 1)) ∧
      Throughout (fun past e => (({} : Crew).run {} past).InTurn (.number 1) e) (overlap 3 1) ∧
      (({} : Crew).run {} (overlap 3 1)).deferred.urls (.number 1) =
        (({} : Crew).queued {} (.number 1) (overlap 3 1)).eraseDups := by
  have he := overlap_keepsBackground 3 1
  have hended : ∀ p ∈ (({} : Crew).run {} (overlap 3 1)).members, p = .ended := by
    have hm : (({} : Crew).run {} (overlap 3 1)).members = List.replicate 4 .ended := rfl
    rw [hm]
    exact fun p hp => List.eq_of_mem_replicate hp
  have hturn :
      Throughout (fun past e => (({} : Crew).run {} past).InTurn (.number 1) e) (overlap 3 1) := by
    -- Nothing that was taken later is still missing when an activation is answered.
    have hlast {past : List Event} {e : Event}
        (h : (({} : Crew).run {} past).laterPieces (.number 1) e = []) :
        (({} : Crew).run {} past).InTurn (.number 1) e := fun _ _ => h
    simp only [overlap, Throughout.cons_iff]
    exact ⟨hlast rfl, hlast rfl, hlast rfl, hlast rfl, hlast rfl, hlast rfl, hlast rfl, hlast rfl,
      .nil⟩
  exact ⟨he, hturn, (background_requests_kept rfl rfl he hended).2.1 hturn⟩

/-- The order is turned round if the first activation is answered first. -/
theorem overlap_turned :
    (∀ e ∈ overlap 1 3, e.KeepsBackground {} (.number 1)) ∧
      (∀ p ∈ (({} : Crew).run {} (overlap 1 3)).members, p = .ended) ∧
      ({} : Crew).queued {} (.number 1) (overlap 1 3) =
        (["https://a.com/1", "https://a.com/2"] : List Text) ∧
      (({} : Crew).run {} (overlap 1 3)).deferred.urls (.number 1) =
        (["https://a.com/2", "https://a.com/1"] : List Text) := by
  have hm : (({} : Crew).run {} (overlap 1 3)).members = List.replicate 4 .ended := rfl
  refine ⟨overlap_keepsBackground 1 3, ?_, rfl, rfl⟩
  rw [hm]
  exact fun p hp => List.eq_of_mem_replicate hp

end Crew

end BreakageAdvisor
