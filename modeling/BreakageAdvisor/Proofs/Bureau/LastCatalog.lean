import BreakageAdvisor.Proofs.Bureau.Overlap
import Mathlib.Data.List.Perm.Subperm

/-!
# The catalogs of rebuilds that overlap

However rebuilds overlap, a bundled catalog is asked for once, and no rules come from anywhere but
one bundled and one configured catalog that were read. Once all rebuilds are over the rules are
those of the last catalogs, however long an earlier rebuild took: a rebuild that asked for a catalog
before the last change is followed by one that asks after it.
-/

namespace BreakageAdvisor

namespace Overlap

private theorem idle_of_begun {o : Overlap} (h : o.works.Locked)
    (ht : o.book.turn = o.book.numbers) :
    o.waiting = [] := by
  by_contra hw
  have hlt : o.book.turn < o.book.numbers := (h.busy fun hr => hw (List.map_eq_nil_iff.mp hr)).1
  omega

private theorem idle_of_called {o : Overlap} (h : o.works.Locked) {number : Nat} {queued : List Nat}
    (hq : o.queued.Perm (number :: queued)) (ht : o.book.turn = number) : o.waiting = [] := by
  by_contra hw
  have hturn : o.book.turn ∉ o.queued := (h.busy fun hr => hw (List.map_eq_nil_iff.mp hr)).2
  exact hturn (hq.mem_iff.mpr (ht ▸ List.mem_cons_self))

/-- The bundled catalog that a rebuild has asked for and was not given. -/
def Waiting.load? : Waiting → Option Trigger
  | ⟨.bundled t _, _, none⟩ => some t
  | _ => none

/-- What a rebuild was given is in the account. -/
def Noted (o : Overlap) : Waiting → Prop
  | ⟨.bundled t _, _, some reply⟩ => (t, reply) ∈ o.loaded
  | ⟨.configured t _, since, some reply⟩ => ⟨t, since, reply⟩ ∈ o.reads
  | _ => True

/-- The rules of a trigger are none, or those of its bundled catalog as it was loaded, followed by
those of a configured one as it was read. -/
def Genuine (o : Overlap) (t : Trigger) : Prop :=
  o.book.rules.get t = [] ∨
    ∃ bundled configured since, (t, bundled) ∈ o.loaded ∧ ⟨t, since, configured⟩ ∈ o.reads ∧
      o.book.rules.get t = Rule.ofReply bundled ++ Rule.ofReply configured

/-- The account of what was asked for and read is right. -/
structure Account (o : Overlap) : Prop where
  loads : o.loads = o.loaded.map (·.1) ++ o.waiting.filterMap Waiting.load?
  once : o.loads.Nodup
  loading : ∀ t ∈ o.loads, o.book.bundled.get t ≠ none ∨
    ∃ w ∈ o.waiting, ∃ rest, w.rebuild = .bundled t rest
  kept : ∀ t rules, o.book.bundled.get t = some rules →
    ∃ bundled, (t, bundled) ∈ o.loaded ∧ rules = Rule.ofReply bundled
  ready : ∀ w ∈ o.waiting, ∀ t rest, w.rebuild = .configured t rest → o.book.bundled.get t ≠ none
  noted : ∀ w ∈ o.waiting, o.Noted w
  genuine : ∀ t, o.Genuine t

namespace Account

variable {o o' : Overlap}

/-- Nothing was asked for at first. -/
theorem start (configured : PerTrigger Json) : Account { configured } where
  loads := rfl
  once := List.nodup_nil
  loading := fun _ h => absurd h List.not_mem_nil
  kept := by
    intro t rules h
    cases t <;> cases h
  ready := fun _ h => absurd h List.not_mem_nil
  noted := fun _ h => absurd h List.not_mem_nil
  genuine := by
    intro t
    cases t <;> exact .inl rfl

/-- A bundled catalog is asked for only if it was not asked for before. -/
theorem first (h : o.Account) (hw : o.waiting = []) (t : Trigger) (rest : List Trigger) :
    (o.put (.waiting (Rebuild.first o.book t rest))).Account := by
  have hl := h.loads
  rw [hw, List.filterMap_nil, List.append_nil] at hl
  have hkept : ∀ u ∈ o.loads, o.book.bundled.get u ≠ none := by
    intro u hu
    rcases h.loading u hu with hne | ⟨w, hmem, _⟩
    · exact hne
    · rw [hw] at hmem
      cases hmem
  have hlast (rebuild : Rebuild) : ∀ w ∈ (o.put (.waiting rebuild)).waiting,
      w = ⟨rebuild, o.changes, none⟩ := by
    intro w hmem
    obtain ⟨loads, hp⟩ := o.put_waiting rebuild
    rw [hp, hw] at hmem
    exact List.mem_singleton.mp hmem
  unfold Rebuild.first
  cases hb : o.book.bundled.get t with
  | none =>
    have hnew : t ∉ o.loads := fun hm => hkept t hm hb
    refine ⟨?_, ?_, ?_, h.kept, ?_, ?_, h.genuine⟩
    · simp only [put, hw, hl, List.nil_append]
      rfl
    · have honce := h.once.concat hnew
      rwa [List.concat_eq_append] at honce
    · intro u hu
      rcases List.mem_append.mp hu with hu | hu
      · exact .inl (hkept u hu)
      · rw [List.mem_singleton.mp hu]
        exact .inr ⟨_, List.mem_append_right _ (List.mem_singleton_self _), rest, rfl⟩
    · intro w hmem u rest' he
      rw [hlast _ w hmem] at he
      cases he
    · intro w hmem
      rw [hlast _ w hmem]
      trivial
  | some rules =>
    refine ⟨?_, h.once, fun u hu => .inl (hkept u hu), h.kept, ?_, ?_, h.genuine⟩
    · simp only [put, hw, hl, List.nil_append]
      exact (List.append_nil _).symm
    · intro w hmem u rest' he
      rw [hlast _ w hmem] at he
      cases he
      exact hb.trans_ne (Option.some_ne_none rules)
    · intro w hmem
      rw [hlast _ w hmem]
      trivial

/-- A rebuild that is called asks for a catalog or goes back to the queue. -/
theorem call (h : o.Account) {number : Nat} (hfree : o.book.turn = number → o.waiting = []) :
    (o.perform (Rebuild.call number)).Account := by
  rw [perform_call]
  split
  · next he => exact h.first (hfree he) _ _
  · exact ⟨h.loads, h.once, h.loading, h.kept, h.ready, h.noted, h.genuine⟩

/-- A rebuild that goes on asks for a catalog or ends. -/
theorem next (h : o.Account) (hw : o.waiting = []) (rest : List Trigger) :
    (o.perform (Rebuild.next rest)).Account := by
  cases rest with
  | nil =>
    rw [perform_next_nil]
    exact ⟨h.loads, h.once, h.loading, h.kept, h.ready, h.noted, h.genuine⟩
  | cons t rest =>
    rw [perform_next_cons]
    exact h.first hw t rest

/-- What is given to a rebuild enters the account. -/
theorem answered (h : o.Account) {rebuild : Rebuild} {since : Nat} (reply : rebuild.query.Reply)
    (hw : o.waiting = [⟨rebuild, since, none⟩]) :
    Account { o.note since rebuild reply with waiting := [⟨rebuild, since, some reply⟩] } := by
  have hl := h.loads
  have hloading := h.loading
  have hready := h.ready
  rw [hw] at hl hloading hready
  have genuine {b : Overlap} (hb : b.book = o.book) (hloaded : o.loaded ⊆ b.loaded)
      (hreads : o.reads ⊆ b.reads) (t : Trigger) : b.Genuine t := by
    rw [Genuine, hb]
    refine (h.genuine t).imp id ?_
    rintro ⟨bundled, configured, n, hm, hr, he⟩
    exact ⟨bundled, configured, n, hloaded hm, hreads hr, he⟩
  cases rebuild with
  | bundled t rest =>
    refine ⟨?_, h.once, ?_, ?_, ?_, ?_, ?_⟩
    · simp only [note, hl, List.map_append]
      exact (List.append_nil _).symm
    · intro u hu
      refine (hloading u hu).imp id ?_
      rintro ⟨w, hm, rest', he⟩
      rw [List.mem_singleton.mp hm] at he
      exact ⟨_, List.mem_singleton_self _, rest', he⟩
    · intro u rules hu
      obtain ⟨bundled, hm, hr⟩ := h.kept u rules hu
      exact ⟨bundled, List.mem_append_left _ hm, hr⟩
    · intro w hm u rest' he
      rw [List.mem_singleton.mp hm] at he
      cases he
    · intro w hm
      rw [List.mem_singleton.mp hm]
      exact List.mem_append_right _ (List.mem_singleton_self _)
    · exact genuine rfl (List.subset_append_left _ _) (List.Subset.refl _)
  | configured t rest =>
    refine ⟨hl, h.once, ?_, h.kept, ?_, ?_, ?_⟩
    · intro u hu
      refine (hloading u hu).imp id ?_
      rintro ⟨w, hm, rest', he⟩
      rw [List.mem_singleton.mp hm] at he
      cases he
    · intro w hm u rest' he
      rw [List.mem_singleton.mp hm] at he
      exact hready _ (List.mem_singleton_self _) u rest' he
    · intro w hm
      rw [List.mem_singleton.mp hm]
      exact List.mem_append_right _ (List.mem_singleton_self _)
    · exact genuine rfl (List.Subset.refl _) (List.subset_append_left _ _)

/-- A rebuild keeps the bundled catalog that it was given. -/
theorem keep (h : o.Account) {t : Trigger} {rest : List Trigger} {since : Nat}
    {reply : Except Failure Json} (hw : o.waiting = [⟨.bundled t rest, since, some reply⟩]) :
    ({ o with waiting := [], book := Rebuild.retained o.book t reply }.put
      (.waiting (.configured t rest))).Account := by
  have hl := h.loads
  have hloading := h.loading
  have hnoted := h.noted
  rw [hw] at hl hloading hnoted
  have hgiven : (t, reply) ∈ o.loaded := hnoted _ (List.mem_singleton_self _)
  have hself : (Rebuild.retained o.book t reply).bundled.get t = some (Rule.ofReply reply) :=
    PerTrigger.get_set_self _ _ _
  have hother {u : Trigger} (hut : u ≠ t) :
      (Rebuild.retained o.book t reply).bundled.get u = o.book.bundled.get u :=
    PerTrigger.get_set_of_ne _ _ hut
  have hpresent : (Rebuild.retained o.book t reply).bundled.get t ≠ none :=
    hself.trans_ne (Option.some_ne_none _)
  refine ⟨hl, h.once, ?_, ?_, ?_, ?_, h.genuine⟩
  · intro u hu
    by_cases hut : u = t
    · exact .inl (hut ▸ hpresent)
    · rcases hloading u hu with hne | ⟨w, hm, rest', he⟩
      · exact .inl ((hother hut).trans_ne hne)
      · rw [List.mem_singleton.mp hm] at he
        cases he
        exact absurd rfl hut
  · intro u rules hu
    by_cases hut : u = t
    · subst hut
      exact ⟨reply, hgiven, (Option.some.inj (hself.symm.trans hu)).symm⟩
    · exact h.kept u rules ((hother hut).symm.trans hu)
  · intro w hm u rest' he
    rw [List.mem_singleton.mp hm] at he
    cases he
    exact hpresent
  · intro w hm
    rw [List.mem_singleton.mp hm]
    trivial

/-- A rebuild puts the configured catalog that it was given in force. -/
theorem enforce (h : o.Account) {t : Trigger} {rest : List Trigger} {since : Nat}
    {reply : Except Failure Json} (hw : o.waiting = [⟨.configured t rest, since, some reply⟩]) :
    Account { o with waiting := [], book := Rebuild.enforced o.book t reply } := by
  have hl := h.loads
  have hloading := h.loading
  have hready := h.ready
  have hnoted := h.noted
  rw [hw] at hl hloading hready hnoted
  have hgiven : ⟨t, since, reply⟩ ∈ o.reads := hnoted _ (List.mem_singleton_self _)
  obtain ⟨rules, hrules⟩ := Option.ne_none_iff_exists'.mp
    (hready _ (List.mem_singleton_self _) t rest rfl)
  obtain ⟨bundled, hm, he⟩ := h.kept t rules hrules
  have hnone {P : Waiting → Prop} : ∀ w ∈ ([] : List Waiting), P w := List.forall_mem_nil P
  refine ⟨hl, h.once, ?_, h.kept, hnone, hnone, ?_⟩
  · intro u hu
    rcases hloading u hu with hne | ⟨w, hmem, rest', hw'⟩
    · exact .inl hne
    · rw [List.mem_singleton.mp hmem] at hw'
      cases hw'
  · intro u
    by_cases hut : u = t
    · subst hut
      refine .inr ⟨bundled, reply, since, hm, hgiven, ?_⟩
      rw [Rebuild.rules_enforced, PerTrigger.get_set_self, hrules, Option.getD_some, he]
    · rw [Genuine, Rebuild.rules_enforced, PerTrigger.get_set_of_ne _ _ hut]
      exact h.genuine u

/-- Every change is taken down. -/
theorem change (h : o.Account) (hl : o.works.Locked) (hc : Change o o') : o'.Account := by
  cases hc with
  | same => exact h
  | begun =>
    have hb : Account { o with
        begun := o.begun ++ [o.changes]
        book := { o.book with numbers := o.book.numbers + 1 } } :=
      ⟨h.loads, h.once, h.loading, h.kept, h.ready, h.noted, h.genuine⟩
    exact hb.call (idle_of_begun hl)
  | called number queued hq =>
    have hb : Account { o with queued } :=
      ⟨h.loads, h.once, h.loading, h.kept, h.ready, h.noted, h.genuine⟩
    have hidle := idle_of_called hl hq
    exact hb.call hidle
  | answered rebuild since reply hw hr => exact h.answered reply hw
  | resumed rebuild since reply hw =>
    cases rebuild with
    | bundled t rest => exact resumed_bundled o t rest reply ▸ h.keep hw
    | configured t rest => exact resumed_configured o t rest reply ▸ (h.enforce hw).next rfl rest
  | changed t catalog => exact ⟨h.loads, h.once, h.loading, h.kept, h.ready, h.noted, h.genuine⟩

end Account

/-- The bundled catalogs that were loaded are those of a source. -/
def LoadedFrom (source : PerTrigger (Except Failure Json)) (o : Overlap) : Prop :=
  ∀ t bundled, (t, bundled) ∈ o.loaded → source.get t = bundled

/-- No configured catalog that was asked for since the last change failed to be read. -/
def ReadsSucceed (o : Overlap) : Prop :=
  ∀ read ∈ o.reads, read.since = o.changes → ∃ catalog, read.result = .ok catalog

/-- A rebuild that began after the last change has still to read a catalog, or was given it, or it
is in force; and a rebuild that asked before that change is not the last one. -/
structure Fresh (o : Overlap) : Prop where
  past : ∀ n ∈ o.begun, n ≤ o.changes
  stale : o.changes ∈ o.begun → ∀ w ∈ o.waiting, w.since ≠ o.changes → o.queued ≠ []
  fine : o.changes ∈ o.begun → o.ReadsSucceed → ∀ source, o.LoadedFrom source → ∀ t,
    o.works.Awaits t ∨ o.works.Current source t (.ok (o.configured.get t))

/-- What is kept of the bundled catalogs is as it was loaded. -/
theorem Account.faithful {o : Overlap} (h : o.Account)
    {source : PerTrigger (Except Failure Json)} (hs : o.LoadedFrom source) :
    o.works.Faithful source where
  bundled := by
    intro t rules hk
    obtain ⟨bundled, hm, hr⟩ := h.kept t rules hk
    rw [hr, hs t bundled hm]
  loaded := by
    intro t rest reply? hm
    obtain ⟨⟨rebuild, since, given⟩, hw, he⟩ := List.mem_map.mp hm
    cases he
    exact h.ready _ hw t rest rfl
  replies := by
    intro t rest reply hm
    obtain ⟨⟨rebuild, since, given⟩, hw, he⟩ := List.mem_map.mp hm
    cases he
    exact (hs t reply (h.noted _ hw)).symm

section Performed

variable (o : Overlap) (act : Act RuleBook Rebuild.Progress)

private theorem perform_fixed :
    (o.perform act).configured = o.configured ∧ (o.perform act).changes = o.changes ∧
      (o.perform act).begun = o.begun ∧ (o.perform act).loaded = o.loaded ∧
      (o.perform act).reads = o.reads := by
  unfold perform
  cases act.value o.book with
  | ended => exact ⟨rfl, rfl, rfl, rfl, rfl⟩
  | queued number => exact ⟨rfl, rfl, rfl, rfl, rfl⟩
  | waiting rebuild =>
    obtain ⟨loads, hp⟩ := put_waiting { o with book := act.state o.book } rebuild
    rw [hp]
    exact ⟨rfl, rfl, rfl, rfl, rfl⟩

private theorem since_perform {w : Waiting} (hw : w ∈ (o.perform act).waiting) :
    w ∈ o.waiting ∨ w.since = o.changes := by
  unfold perform at hw
  cases hv : act.value o.book with
  | ended =>
    rw [hv] at hw
    exact .inl hw
  | queued number =>
    rw [hv] at hw
    exact .inl hw
  | waiting rebuild =>
    obtain ⟨loads, hp⟩ := put_waiting { o with book := act.state o.book } rebuild
    rw [hv, hp] at hw
    refine (List.mem_append.mp hw).imp id fun hm => ?_
    rw [List.mem_singleton.mp hm]

end Performed

namespace Fresh

variable {o o' : Overlap}

/-- A rebuild that is called reads everything that is there. -/
theorem call (hp : ∀ n ∈ o.begun, n ≤ o.changes) {number : Nat}
    (hfree : o.book.turn = number → o.waiting = []) :
    (o.perform (Rebuild.call number)).Fresh := by
  obtain ⟨hconf, hch, hb, hl, hr⟩ := o.perform_fixed (Rebuild.call number)
  refine ⟨by rwa [hb, hch], ?_, ?_⟩
  · intro _ w hw hne
    rw [hch] at hne
    rcases o.since_perform _ hw with hm | he
    · rw [perform_call]
      split
      · next ht =>
        rw [hfree ht] at hm
        cases hm
      · exact List.append_ne_nil_of_right_ne_nil _ (List.cons_ne_nil _ _)
    · exact absurd he hne
  · intro _ _ source _ t
    rw [works_perform]
    exact .inl (Works.awaits_call _ number t)

/-- What a rebuild is given since the last change is what is there. -/
theorem answered (h : o.Fresh) {rebuild : Rebuild} {since : Nat} {reply : rebuild.query.Reply}
    (hw : o.waiting = [⟨rebuild, since, none⟩]) (hr : o.Offers rebuild reply) :
    Fresh { o.note since rebuild reply with waiting := [⟨rebuild, since, some reply⟩] } := by
  have hreadings : o.works.readings = [⟨rebuild, none⟩] := congrArg (List.map _) hw
  have hstale (hb : o.changes ∈ o.begun) : since ≠ o.changes → o.queued ≠ [] :=
    h.stale hb ⟨rebuild, since, none⟩ (hw ▸ List.mem_singleton_self _)
  cases rebuild with
  | bundled t rest =>
    refine ⟨h.past, fun hb w hm => ?_, fun hb hok source hs u => ?_⟩
    · rw [List.mem_singleton.mp hm]
      exact hstale hb
    · have hs' : o.LoadedFrom source := fun u b hm => hs u b (List.mem_append_left _ hm)
      have ht : source.get t = reply :=
        hs t reply (List.mem_append_right _ (List.mem_singleton_self _))
      exact Works.fine_answered hreadings ht.symm nofun (h.fine hb hok source hs' u)
  | configured t rest =>
    refine ⟨h.past, fun hb w hm => ?_, fun hb hok source hs u => ?_⟩
    · rw [List.mem_singleton.mp hm]
      exact hstale hb
    · by_cases hsince : since = o.changes
      · have hok' : o.ReadsSucceed := fun read hm => hok read (List.mem_append_left _ hm)
        obtain ⟨catalog, hc⟩ := hok ⟨t, since, reply⟩
          (List.mem_append_right _ (List.mem_singleton_self _)) hsince
        have hc' : reply = .ok catalog := hc
        refine Works.fine_answered hreadings hr ?_ (h.fine hb hok' source hs u)
        intro rest' cause he
        cases he
        cases hc'
      · exact .inl (.inl (hstale hb hsince))

/-- Every change leaves the last catalogs in force or still to be read. -/
theorem change (h : o.Fresh) (ha : o.Account) (hl : o.works.Locked) (hc : Change o o') :
    o'.Fresh := by
  cases hc with
  | same => exact h
  | begun =>
    have hp : ∀ n ∈ o.begun ++ [o.changes], n ≤ o.changes := by
      intro n hm
      rcases List.mem_append.mp hm with hm | hm
      · exact h.past n hm
      · exact Nat.le_of_eq (List.mem_singleton.mp hm)
    have hidle := idle_of_begun hl
    exact call (o := { o with
      begun := o.begun ++ [o.changes]
      book := { o.book with numbers := o.book.numbers + 1 } }) hp hidle
  | called number queued hq =>
    have hidle := idle_of_called hl hq
    exact call (o := { o with queued }) h.past hidle
  | answered rebuild since reply hw hr => exact h.answered hw hr
  | resumed rebuild since reply hw =>
    have hreadings : o.works.readings = [⟨rebuild, some reply⟩] := congrArg (List.map _) hw
    obtain ⟨hconf, hch, hb, hld, hrd⟩ :=
      perform_fixed { o with waiting := [] } (rebuild.resume reply)
    refine ⟨by rw [hb, hch]; exact h.past, fun _ w hm hne => ?_, fun hbegun hok source hs t => ?_⟩
    · rw [hch] at hne
      rcases since_perform _ _ hm with hm | he
      · cases hm
      · exact absurd he hne
    · rw [hb, hch] at hbegun
      have hok' : o.ReadsSucceed := by
        intro read hm
        rw [← hch]
        refine hok read ?_
        rw [hrd]
        exact hm
      have hs' : o.LoadedFrom source := by
        intro u bundled hm
        refine hs u bundled ?_
        rw [hld]
        exact hm
      rw [works_perform, hconf]
      exact Works.fine_resumed (ha.faithful hs') hreadings (h.fine hbegun hok' source hs' t)
  | changed t catalog =>
    refine ⟨fun n hm => Nat.le_succ_of_le (h.past n hm), fun hb => ?_, fun hb => ?_⟩
    · exact absurd (h.past _ hb) (Nat.not_succ_le_self _)
    · exact absurd (h.past _ hb) (Nat.not_succ_le_self _)

end Fresh

private theorem exists_source {loaded : List (Trigger × Except Failure Json)}
    (h : (loaded.map (·.1)).Nodup) :
    ∃ source : PerTrigger (Except Failure Json),
      ∀ t bundled, (t, bundled) ∈ loaded → source.get t = bundled := by
  induction loaded with
  | nil => exact ⟨.both (.error .port), fun _ _ h => absurd h List.not_mem_nil⟩
  | cons entry rest ih =>
    obtain ⟨hnew, hrest⟩ := List.nodup_cons.mp h
    obtain ⟨source, hs⟩ := ih hrest
    refine ⟨source.set entry.1 entry.2, fun t bundled hm => ?_⟩
    rcases List.mem_cons.mp hm with rfl | hm
    · exact PerTrigger.get_set_self _ _ _
    · have hne : t ≠ entry.1 := by
        rintro rfl
        exact hnew (List.mem_map.mpr ⟨_, hm, rfl⟩)
      rw [PerTrigger.get_set_of_ne _ _ hne]
      exact hs t bundled hm

/-- The state of rebuilds that overlap is in order. -/
structure Orderly (o : Overlap) : Prop where
  locked : o.works.Locked
  tally : o.Tally 0
  account : o.Account
  fresh : o.Fresh

namespace Orderly

variable {o : Overlap}

/-- All is in order before any rebuild. -/
theorem start (configured : PerTrigger Json) : Orderly { configured } where
  locked := locked_start configured
  tally := ⟨rfl, rfl, rfl⟩
  account := .start configured
  fresh := ⟨List.forall_mem_nil _, fun h => absurd h List.not_mem_nil,
    fun h => absurd h List.not_mem_nil⟩

/-- Every event leaves all in order. -/
theorem step (h : o.Orderly) (e : Event) : (o.step e).Orderly where
  locked := (change_step h.locked e).locked h.locked
  tally := h.tally.change (change_step h.locked e)
  account := h.account.change h.locked (change_step h.locked e)
  fresh := h.fresh.change h.account h.locked (change_step h.locked e)

/-- Every run leaves all in order. -/
theorem run (h : o.Orderly) (events : List Event) : (o.run events).Orderly := by
  induction events generalizing o with
  | nil => exact h
  | cons e rest ih => exact ih (h.step e)

private theorem turn_mem_queued (h : o.Orderly) (hw : o.waiting = []) (hq : o.queued ≠ []) :
    o.book.turn ∈ o.queued := by
  by_contra hturn
  have htotal := h.tally.total
  rw [hw, List.length_nil, ← h.tally.numbers, ← h.tally.turn] at htotal
  -- All other numbers that were taken are fewer than the rebuilds in the queue.
  have hsub : o.queued ⊆ List.range' (o.book.turn + 1) (o.queued.length - 1) := by
    intro n hm
    have hbounds : o.book.turn ≤ n ∧ n < o.book.numbers := h.locked.queued n hm
    have hne : n ≠ o.book.turn := fun he => hturn (he ▸ hm)
    rw [List.mem_range'_1]
    omega
  have hnodup : o.queued.Nodup := h.locked.nodup
  have hle := (hnodup.subperm hsub).length_le
  rw [List.length_range'] at hle
  have hpos := List.length_pos_iff.mpr hq
  omega

private theorem nodup_loaded (h : o.Orderly) : (o.loaded.map (·.1)).Nodup := by
  have honce := h.account.once
  rw [h.account.loads] at honce
  exact (List.nodup_append.mp honce).1

private theorem exists_loaded (h : o.Orderly) {t : Trigger} {configured : List Rule}
    (hr : ∀ source, o.LoadedFrom source →
      o.book.rules.get t = Rule.ofReply (source.get t) ++ configured) :
    ∃ bundled, (t, bundled) ∈ o.loaded ∧
      o.book.rules.get t = Rule.ofReply bundled ++ configured := by
  obtain ⟨source, hs⟩ := exists_source h.nodup_loaded
  by_cases hm : ∃ bundled, (t, bundled) ∈ o.loaded
  · obtain ⟨bundled, hm⟩ := hm
    exact ⟨bundled, hm, hs t bundled hm ▸ hr source hs⟩
  · -- Otherwise the catalog could be any, and the rules go with one catalog only.
    have hany (reply : Except Failure Json) :
        o.book.rules.get t = Rule.ofReply reply ++ configured := by
      have hs' : o.LoadedFrom (source.set t reply) := by
        intro u bundled hu
        have hut : u ≠ t := fun he => hm ⟨bundled, he ▸ hu⟩
        rw [PerTrigger.get_set_of_ne _ _ hut]
        exact hs u bundled hu
      have hr' := hr _ hs'
      rwa [PerTrigger.get_set_self] at hr'
    have hempty := hany (.error .port)
    have hone := hany (.ok (.list [.object [("domains", .list [])]]))
    have hlen := congrArg List.length (hempty.symm.trans hone)
    rw [List.length_append, List.length_append] at hlen
    have hzero : (Rule.ofReply (.error .port)).length = 0 := rfl
    have hlone : (Rule.ofReply (.ok (.list [.object [("domains", .list [])]]))).length = 1 := rfl
    omega

end Orderly

/-- However rebuilds overlap, whatever becomes of the configured catalogs meanwhile, and whatever is
read or fails to be read: every rebuild that began has ended, waits for a catalog or is queued, and
one of those can always go on; a bundled catalog is asked for at most once; the rules of a trigger
are none, or those of its bundled catalog followed by those of one configured catalog, both as they
were read; and once all rebuilds are over, if one began after the last change and no catalog that
was asked for since failed to be read, the rules are those of the bundled catalog followed by those
of the last configured one. -/
theorem overlapping_rebuilds (configured : PerTrigger Json) (events : List Event) :
    let o := run { configured } events
    o.begun.length = o.ended + o.waiting.length + o.queued.length ∧
      (o.queued ≠ [] → o.waiting ≠ [] ∨ o.book.turn ∈ o.queued) ∧
      o.loads.Nodup ∧
      (∀ t, o.Genuine t) ∧
      (o.waiting = [] → o.queued = [] → o.changes ∈ o.begun → o.ReadsSucceed →
        ∀ t, ∃ bundled, (t, bundled) ∈ o.loaded ∧ o.book.rules.get t =
          Rule.ofReply bundled ++ Rule.ofCatalog (o.configured.get t).items) := by
  intro o
  have h : o.Orderly := (Orderly.start configured).run events
  refine ⟨h.tally.total, ?_, h.account.once, h.account.genuine, ?_⟩
  · intro hq
    by_cases hw : o.waiting = []
    · exact .inr (h.turn_mem_queued hw hq)
    · exact .inl hw
  · intro hw hq hb hok t
    have hidle : o.works.readings = [] := congrArg (List.map _) hw
    refine h.exists_loaded fun source hs => ?_
    rcases h.fresh.fine hb hok source hs t with (hne | ⟨reading, hm, _⟩) | hc
    · exact absurd hq hne
    · rw [hidle] at hm
      cases hm
    · rw [Works.Current, Works.held?, hidle] at hc
      exact hc

/-- The replies of surroundings that have no bundled rules. -/
def unbundled : (query : Query) → query.Reply
  | .bundled _ => .ok (.list [])
  | .configured _ => .ok (.list [])
  | _ => .error .port

/-- A configured catalog of one rule. -/
def catalogOf (id : Text) : Json := .list [.object [("id", .text id), ("domains", .list [])]]

/-- A rebuild that was given a catalog before it changed ends after a second one has begun, which
then is called and ends as well. -/
def slowRun : List Event :=
  [.began, .answered 0 unbundled, .resumed 0, .answered 0 unbundled,
    .changed .tab (catalogOf "new"), .began, .resumed 0, .answered 0 unbundled, .resumed 0,
    .answered 0 unbundled, .resumed 0, .called 0, .answered 0 unbundled, .resumed 0,
    .answered 0 unbundled, .resumed 0]

/-- The slow rebuild puts the old catalog in force and the second one the changed catalog. -/
theorem overlapping_rebuilds_slow :
    let start : Overlap := { configured := .both (catalogOf "old") }
    let o := start.run slowRun
    (start.run (slowRun.take 11)).book.rules.tab.map (·.id) = [some ("old" : Text)] ∧
      (Rule.ofCatalog (o.configured.get .tab).items).map (·.id) = [some ("new" : Text)] ∧
      o.waiting = [] ∧ o.queued = [] ∧ o.changes ∈ o.begun ∧ o.ReadsSucceed ∧
      ∃ bundled, (.tab, bundled) ∈ o.loaded ∧ o.book.rules.get .tab =
        Rule.ofReply bundled ++ Rule.ofCatalog (o.configured.get .tab).items := by
  intro start o
  have hold : (start.run (slowRun.take 11)).book.rules.tab.map (·.id) = [some ("old" : Text)] := by
    decide +kernel
  have hnew : (Rule.ofCatalog (o.configured.get .tab).items).map (·.id) =
      [some ("new" : Text)] := by decide +kernel
  have hw : o.waiting = [] := List.isEmpty_iff.mp (by decide +kernel)
  have hq : o.queued = [] := by decide +kernel
  have hb : o.changes ∈ o.begun := by decide +kernel
  have hok : o.ReadsSucceed := by
    have hall : o.reads.all (·.result.isOk) = true := by decide +kernel
    intro read hm _
    have hread := List.all_eq_true.mp hall read hm
    cases hr : read.result with
    | ok catalog => exact ⟨catalog, rfl⟩
    | error cause =>
      rw [hr] at hread
      cases hread
  have h := (overlapping_rebuilds (.both (catalogOf "old")) slowRun).2.2.2.2 hw hq hb hok .tab
  exact ⟨hold, hnew, hw, hq, hb, hok, by simpa only [o, start] using h⟩

end Overlap

end BreakageAdvisor
