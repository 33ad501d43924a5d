import BreakageAdvisor.Proofs.Bureau.Rebuilds
import BreakageAdvisor.Proofs.Bureau.Registrations
import BreakageAdvisor.Proofs.Throughout

/-!
# Configured catalogs

A configured catalog may change at any time. A change is told to the activator, if it listens, and
the rules are rebuilt. While the activator starts, it does not listen yet, but rebuilds the rules.
-/

namespace BreakageAdvisor

namespace Preferences

variable (preferences : Preferences)

private theorem catalogKey_ne {t u : Trigger} (h : t ≠ u) :
    catalogKey t.name ≠ catalogKey u.name := by
  cases t <;> cases u <;> first | exact absurd rfl h | decide

private theorem lookup_filter_of_ne {key other : Text} (h : other ≠ key) :
    (preferences.filter (·.1 != key)).lookup other = preferences.lookup other := by
  induction preferences with
  | nil => rfl
  | cons entry rest ih =>
    obtain ⟨k, document⟩ := entry
    by_cases hk : k = key
    · have hother : (other == k) = false := by
        rw [hk]
        exact beq_false_of_ne h
      rw [List.filter_cons_of_neg (by simp [hk]), ih, List.lookup_cons, hother]
    · rw [List.filter_cons_of_pos (by simpa using hk), List.lookup_cons, List.lookup_cons, ih]

private theorem catalog_setCatalog_of_ne {t u : Trigger} (h : t ≠ u) (value : Json) :
    (preferences.setCatalog u.name value).catalog t.name = preferences.catalog t.name := by
  have hl : (preferences.setCatalog u.name value).lookup (catalogKey t.name) =
      preferences.lookup (catalogKey t.name) := by
    rw [setCatalog, set, List.lookup_cons, beq_false_of_ne (catalogKey_ne h),
      lookup_filter_of_ne preferences (catalogKey_ne h)]
  rw [catalog, catalog, hl]

private theorem catalog_clearCatalog_of_ne {t u : Trigger} (h : t ≠ u) :
    (preferences.clearCatalog u.name).catalog t.name = preferences.catalog t.name := by
  have hl : (preferences.clearCatalog u.name).lookup (catalogKey t.name) =
      preferences.lookup (catalogKey t.name) :=
    lookup_filter_of_ne preferences (catalogKey_ne h)
  rw [catalog, catalog, hl]

end Preferences

namespace Bridge

private theorem preferences_receive {inbound : Inbound}
    (h : ∀ u entries, inbound ≠ .catalog u entries) (bridge : Bridge) :
    ((receive inbound).state bridge).preferences = bridge.preferences := by
  cases inbound with
  | catalog u entries => exact absurd rfl (h u entries)
  | clearNotified =>
    simp only [receive, Act.state_bind]
    cases (onStore Store.clearNotified).value bridge <;> rfl
  | _ => rfl

private theorem catalog_receive_of_ne {inbound : Inbound} {t : Trigger}
    (h : ∀ entries, inbound ≠ .catalog t entries) (bridge : Bridge) :
    ((receive inbound).state bridge).preferences.catalog t.name =
      bridge.preferences.catalog t.name := by
  by_cases hcatalog : ∃ u entries, inbound = .catalog u entries
  · obtain ⟨u, entries, rfl⟩ := hcatalog
    have hu : t ≠ u := by
      rintro rfl
      exact h entries rfl
    cases entries with
    | none => exact Preferences.catalog_clearCatalog_of_ne _ hu
    | some entries => exact Preferences.catalog_setCatalog_of_ne _ hu _
  · rw [preferences_receive fun u entries he => hcatalog ⟨u, entries, he⟩]

end Bridge

namespace Bureau

/-- The catalog that a task reads as a rebuild. -/
def Pending.reading? : Pending → Option Works.Reading
  | ⟨.rebuilding rebuild _, reply?⟩ => some ⟨rebuild, reply?⟩
  | _ => none

/-- The rebuilds among the tasks. -/
def works (b : Bureau) : Works :=
  ⟨b.host.advisor.book, b.waiting.filterMap (·.reading?), b.queued.map (·.1)⟩

/-- A rebuild reads the configured catalog of a trigger, or fails to. -/
def Reads (t : Trigger) (b : Bureau) (s : Step) (reply : Except Failure Json) : Prop :=
  ∃ place replies rest purpose, s = .answered place replies ∧
    b.waiting[place]? = some ⟨.rebuilding (.configured t rest) purpose, none⟩ ∧
    reply = (replies (.configured t)).map fun _ => b.stored t

/-- A rebuild fails to read the configured catalog of a trigger. -/
def Fails (t : Trigger) (b : Bureau) (s : Step) : Prop := ∃ cause, b.Reads t s (.error cause)

/-- The listeners are told that the configured catalog of a trigger has changed. -/
def Tells (t : Trigger) (b : Bureau) (s : Step) : Prop :=
  s = .told ∧ b.due.head? = some (.catalog t)

/-- The events of catalogs stay ready, and the start in use stays in use. -/
structure Steady (b b' : Bureau) : Prop where
  ready : (∃ u, .catalog u ∈ b.ready) → ∃ u, .catalog u ∈ b'.ready
  current : b'.activator.current = b.activator.current

/-- What a step may do to the rebuilds. -/
inductive Passage (b : Bureau) (s : Step) (b' : Bureau) : Prop
  /-- Nothing. -/
  | idle (hb : b.Steady b') (hw : b'.works = b.works)
  /-- A rebuild begins. -/
  | begun (hw : b'.works = b.works.perform Rebuild.begin)
  /-- A rebuild is called. -/
  | called (number : Nat) (queued : List Nat) (hq : b.works.queued.Perm (number :: queued))
      (hw : b'.works = { b.works with queued }.perform (Rebuild.call number))
  /-- A rebuild reads a catalog. -/
  | answered (before after : List Works.Reading) (rebuild : Rebuild)
      (reply : rebuild.query.Reply) (hb : b.Steady b')
      (hr : b.works.readings = before ++ ⟨rebuild, none⟩ :: after)
      (ht : Works.Truthful b.host.bundled b.stored rebuild reply)
      (hreads : ∀ t rest read, (⟨rebuild, some reply⟩ : Works.Reading) =
        ⟨.configured t rest, some read⟩ → b.Reads t s read)
      (hw : b'.works =
        { b.works with readings := before ++ ⟨rebuild, some reply⟩ :: after })
  /-- A rebuild goes on. -/
  | resumed (before after : List Works.Reading) (rebuild : Rebuild)
      (reply : rebuild.query.Reply) (hb : b.Steady b')
      (hr : b.works.readings = before ++ ⟨rebuild, some reply⟩ :: after)
      (hw : b'.works =
        { b.works with readings := before ++ after }.perform (rebuild.resume reply))

section Passages

variable {b b' : Bureau} {s : Step}

/-- The rebuilds at work change in every passage. -/
theorem Passage.change (h : b.Passage s b') :
    Works.Change b.host.bundled b.stored b.works b'.works := by
  cases h with
  | idle _ hw => exact hw ▸ .same
  | begun hw => exact hw ▸ .begun
  | called number queued hq hw => exact hw ▸ .called number queued hq
  | answered before after rebuild reply _ hr ht _ hw =>
    exact hw ▸ .answered before after rebuild reply hr ht
  | resumed before after rebuild reply _ hr hw => exact hw ▸ .resumed before after rebuild reply hr

end Passages

section Steps

variable {b : Bureau}

namespace Steady

theorem refl (b : Bureau) : b.Steady b := ⟨fun h => h, rfl⟩

theorem trans {b' b'' : Bureau} (h : b.Steady b') (h' : b'.Steady b'') : b.Steady b'' :=
  ⟨fun hr => h'.ready (h.ready hr), h'.current.trans h.current⟩

/-- A task that leaves the start of the activator alone is steady. -/
theorem perform {act : Act Advisor Task.Progress}
    (hc : (act.state b.host.advisor).activator.current = b.activator.current) :
    b.Steady (b.perform act) := by
  refine ⟨fun hr => ?_, ?_⟩
  · rwa [ready_perform]
  · rw [Bureau.activator, host_perform]
    exact hc

end Steady

private theorem works_put {progress : Task.Progress} (h : progress.Aside) :
    (b.put progress).works = b.works := by
  cases progress with
  | ended outcome => rfl
  | queued number purpose => exact absurd h id
  | waiting task =>
    cases task with
    | rebuilding rebuild purpose => exact absurd h id
    | _ =>
      rw [put, works, List.filterMap_append]
      exact congrArg (Works.mk _ · _) (List.append_nil _)

private theorem works_perform_aside {act : Act Advisor Task.Progress}
    (hbook : (act.state b.host.advisor).book = b.host.advisor.book)
    (ha : (act.value b.host.advisor).Aside) : (b.perform act).works = b.works := by
  rw [perform, works_put ha]
  exact congrArg (Works.mk · _ _) hbook

/-- A task does for the rebuilds what a rebuild does that works on the rule book. -/
structure Rebuilds (act : Act Advisor Task.Progress) (rebuild : Act RuleBook Rebuild.Progress)
    (a : Advisor) : Prop where
  book : (act.state a).book = rebuild.state a.book
  value : match rebuild.value a.book with
    | .ended => ∃ outcome, act.value a = .ended outcome
    | .queued number => ∃ purpose, act.value a = .queued number purpose
    | .waiting r => ∃ purpose, act.value a = .waiting (.rebuilding r purpose)

private theorem rebuilds_rebuilt (setting : Setting) (purpose : Rebuild.Purpose)
    (rebuild : Act RuleBook Rebuild.Progress) (a : Advisor) :
    Rebuilds (Advisor.onBook rebuild >>= Advisor.rebuilt setting purpose) rebuild a := by
  cases hv : rebuild.value a.book with
  | queued number =>
    have hon : (Advisor.onBook rebuild).value a = .queued number := hv
    refine ⟨?_, ?_⟩
    · rw [Act.state_bind, hon]
      rfl
    · rw [hv, Act.value_bind, hon]
      exact ⟨purpose, rfl⟩
  | waiting r =>
    have hon : (Advisor.onBook rebuild).value a = .waiting r := hv
    refine ⟨?_, ?_⟩
    · rw [Act.state_bind, hon]
      rfl
    · rw [hv, Act.value_bind, hon]
      exact ⟨purpose, rfl⟩
  | ended =>
    have hon : (Advisor.onBook rebuild).value a = .ended := hv
    refine ⟨?_, ?_⟩
    · rw [Act.state_bind, hon]
      cases purpose <;> rfl
    · rw [hv, Act.value_bind, hon]
      cases purpose with
      | rules => exact ⟨_, rfl⟩
      | start number => exact ⟨_, rfl⟩

/-- A rebuild with a purpose neither begins nor stops a start of the activator. -/
theorem keeps_rebuilt (setting : Setting) (purpose : Rebuild.Purpose)
    (progress : Rebuild.Progress) :
    Act.Keeps (fun a : Advisor => a.activator.current)
      (Advisor.rebuilt setting purpose progress) := by
  cases progress with
  | queued number => exact .pure _
  | waiting rebuild => exact .pure _
  | ended =>
    cases purpose with
    | rules => exact .pure _
    | start number =>
      refine .bind (fun a => ?_) fun _ => .pure _
      exact (Activator.outline_complete _ _ _ a.activator).1

/-- What a rebuild with a purpose does to the rebuilds at work. -/
theorem works_perform {act : Act Advisor Task.Progress}
    {rebuild : Act RuleBook Rebuild.Progress} (h : Rebuilds act rebuild b.host.advisor) :
    (b.perform act).works = b.works.perform rebuild := by
  have hbook : b.host.advisor.book = b.works.book := rfl
  have hv := h.value
  rw [hbook] at hv
  rw [perform, Works.perform]
  cases hr : rebuild.value b.works.book with
  | ended =>
    rw [hr] at hv
    obtain ⟨outcome, ho⟩ := hv
    rw [ho]
    exact congrArg (Works.mk · _ _) h.book
  | queued number =>
    rw [hr] at hv
    obtain ⟨purpose, ho⟩ := hv
    rw [ho, put, works, List.map_append]
    exact congrArg (Works.mk · _ _) h.book
  | waiting r =>
    rw [hr] at hv
    obtain ⟨purpose, ho⟩ := hv
    rw [ho, put, works, List.filterMap_append]
    exact congrArg (Works.mk · _ _) h.book

private theorem passage_started (b : Bureau) : b.Passage .started (b.step .started) := by
  have hs : b.step .started = b.perform (Advisor.start b.host.setting) := rfl
  rw [hs]
  cases hc : b.host.advisor.activator.current with
  | some number =>
    obtain ⟨hv, hst⟩ := Activator.begin_of_some b.host.advisor.activator hc
    have hon : (Advisor.onActivator Activator.begin).value b.host.advisor = (number, false) := hv
    have hstate : ((Advisor.start b.host.setting).state b.host.advisor) = b.host.advisor := by
      rw [Advisor.start, Act.state_bind, hon]
      exact congrArg (fun activator => { b.host.advisor with activator }) hst
    refine .idle (.perform ?_) (works_perform_aside ?_ ?_)
    · rw [hstate]
      rfl
    · rw [hstate]
    · rw [Advisor.start, Act.value_bind, hon]
      trivial
  | none =>
    obtain ⟨hv, -⟩ := Activator.begin_of_none b.host.advisor.activator hc
    have hon : (Advisor.onActivator Activator.begin).value b.host.advisor =
      (b.host.advisor.activator.subscriptions.length, true) := hv
    refine .begun (works_perform ?_)
    have hr := rebuilds_rebuilt b.host.setting
      (.start b.host.advisor.activator.subscriptions.length) Rebuild.begin
      ((Advisor.onActivator Activator.begin).state b.host.advisor)
    refine ⟨?_, ?_⟩
    · rw [Advisor.start, Act.state_bind, hon]
      exact hr.book
    · rw [Advisor.start, Act.value_bind, hon]
      exact hr.value

private theorem passage_told (b : Bureau) : b.Passage .told (b.step .told) := by
  cases hd : b.due with
  | nil =>
    rw [step_told_of_nil hd]
    exact .idle (.refl b) rfl
  | cons event rest =>
    rw [step_told_of_cons hd]
    exact .idle ⟨fun ⟨u, hm⟩ => ⟨u, List.mem_append_left _ hm⟩, rfl⟩ rfl

private theorem passage_began (b : Bureau) (place : Nat) :
    b.Passage (.began place) (b.step (.began place)) := by
  cases hp : b.ready[place]? with
  | none => exact (step_began_of_none hp).symm ▸ .idle (.refl b) rfl
  | some event =>
    let rest := { b with ready := b.ready.eraseIdx place }
    rw [step_began_of_some hp]
    by_cases he : ∃ u, event = .catalog u
    · obtain ⟨u, rfl⟩ := he
      have hr := rebuilds_rebuilt b.host.setting .rules Rebuild.begin b.host.advisor
      exact .begun (works_perform (b := rest) ⟨hr.book, hr.value⟩)
    · -- Another handler leaves the events of catalogs ready.
      have hrest : b.Steady rest := by
        refine ⟨?_, rfl⟩
        rintro ⟨u, hm⟩
        obtain ⟨i, hi⟩ := List.getElem?_of_mem hm
        refine ⟨u, List.mem_eraseIdx_iff_getElem?.mpr ⟨i, ?_, hi⟩⟩
        rintro rfl
        exact he ⟨u, Option.some_inj.mp (hp.symm.trans hi)⟩
      by_cases ha : ∃ enabled, event = .activation enabled
      · obtain ⟨enabled, rfl⟩ := ha
        refine .idle (hrest.trans (.perform ?_)) (works_perform_aside (b := rest) rfl trivial)
        cases enabled <;> rfl
      · obtain ⟨hframe, haside⟩ := Host.handler_aside (fun enabled h => ha ⟨enabled, h⟩)
          (fun u h => he ⟨u, h⟩) b.host.setting b.host.advisor
        exact .idle (hrest.trans (.perform (congrArg (·.2.current) hframe)))
          (works_perform_aside (b := rest) (congrArg Prod.fst hframe) haside)

private theorem passage_called (b : Bureau) (place : Nat) :
    b.Passage (.called place) (b.step (.called place)) := by
  cases hp : b.queued[place]? with
  | none => exact (step_called_of_none hp).symm ▸ .idle (.refl b) rfl
  | some entry =>
    obtain ⟨number, purpose⟩ := entry
    let rest := { b with queued := b.queued.eraseIdx place }
    rw [step_called_of_some hp]
    obtain ⟨before, after, hq, herase, _⟩ := exists_around hp
    refine .called number (rest.queued.map (·.1)) ?_ (works_perform (b := rest) ?_)
    · change (b.queued.map (·.1)).Perm (number :: (b.queued.eraseIdx place).map (·.1))
      rw [herase, hq, List.map_append, List.map_append, List.map_cons]
      exact List.perm_middle
    · exact rebuilds_rebuilt b.host.setting purpose (Rebuild.call number) b.host.advisor

private theorem reading?_of_ne {task : Task}
    (h : ∀ rebuild purpose, task ≠ .rebuilding rebuild purpose)
    (reply? : Option task.query.Reply) : Pending.reading? ⟨task, reply?⟩ = none := by
  cases task with
  | rebuilding rebuild purpose => exact absurd rfl (h rebuild purpose)
  | _ => rfl

private theorem truthful_replyTo (b : Bureau) (reply : (query : Query) → query.Reply)
    (rebuild : Rebuild) :
    Works.Truthful b.host.bundled b.stored rebuild (b.replyTo reply rebuild.query) := by
  cases rebuild with
  | bundled u rest => rfl
  | configured u rest =>
    intro catalog h
    have hr : (reply (.configured u)).map (fun _ => b.stored u) = .ok catalog := h
    cases hreply : reply (.configured u) with
    | error cause =>
      rw [hreply] at hr
      cases hr
    | ok value =>
      rw [hreply] at hr
      exact (Except.ok.inj hr).symm

private theorem passage_answered (b : Bureau) (place : Nat)
    (reply : (query : Query) → query.Reply) :
    b.Passage (.answered place reply) (b.step (.answered place reply)) := by
  by_cases hp : ∃ task, b.waiting[place]? = some ⟨task, none⟩
  · obtain ⟨task, hp⟩ := hp
    have hsteady : b.Steady { b with
        waiting := b.waiting.set place ⟨task, some (b.replyTo reply task.query)⟩ } :=
      ⟨fun h => h, rfl⟩
    obtain ⟨before, after, hw, _, hset⟩ := exists_around hp
    have hset' := congrArg (List.filterMap (·.reading?))
      (hset ⟨task, some (b.replyTo reply task.query)⟩)
    rw [step_answered_of_some hp]
    by_cases ht : ∃ rebuild purpose, task = .rebuilding rebuild purpose
    · obtain ⟨rebuild, purpose, rfl⟩ := ht
      refine .answered (before.filterMap (·.reading?)) (after.filterMap (·.reading?)) rebuild
        (b.replyTo reply rebuild.query) hsteady ?_ (truthful_replyTo b reply rebuild) ?_ ?_
      · change b.waiting.filterMap (·.reading?) = _
        rw [hw, List.filterMap_append, List.filterMap_cons]
        rfl
      · intro t rest read he
        obtain rfl : rebuild = .configured t rest := congrArg (·.rebuild) he
        refine ⟨place, reply, rest, purpose, rfl, hp, ?_⟩
        have hheld := congrArg (Works.Reading.held? t) he
        simp only [Works.Reading.held?, if_true] at hheld
        exact (Option.some.inj hheld).symm
      · rw [works, hset', List.filterMap_append, List.filterMap_cons]
        rfl
    · have hnone (held? : Option task.query.Reply) :
          Pending.reading? ⟨task, held?⟩ = none :=
        reading?_of_ne (fun rebuild purpose h => ht ⟨rebuild, purpose, h⟩) held?
      refine .idle hsteady ?_
      rw [works, hset', List.filterMap_append, List.filterMap_cons, hnone, works, hw,
        List.filterMap_append, List.filterMap_cons, hnone]
  · rw [step_answered_of_ne fun task h => hp ⟨task, h⟩]
    exact .idle (.refl b) rfl

private theorem passage_resumed (b : Bureau) (place : Nat) :
    b.Passage (.resumed place) (b.step (.resumed place)) := by
  by_cases hp : ∃ task reply, b.waiting[place]? = some ⟨task, some reply⟩
  · obtain ⟨task, reply, hp⟩ := hp
    let rest := { b with waiting := b.waiting.eraseIdx place }
    have hrest : b.Steady rest := ⟨fun h => h, rfl⟩
    obtain ⟨before, after, hw, herase, _⟩ := exists_around hp
    have herase' := congrArg (List.filterMap (·.reading?)) herase
    rw [List.filterMap_append] at herase'
    rw [step_resumed_of_some hp]
    by_cases ht : ∃ rebuild purpose, task = .rebuilding rebuild purpose
    · obtain ⟨rebuild, purpose, rfl⟩ := ht
      have hr := rebuilds_rebuilt b.host.setting purpose (rebuild.resume reply) b.host.advisor
      have hkeeps : Act.Keeps (fun a : Advisor => a.activator.current)
          (Advisor.onBook (rebuild.resume reply) >>= Advisor.rebuilt b.host.setting purpose) :=
        .bind (fun _ => rfl) fun _ => keeps_rebuilt _ _ _
      refine .resumed (before.filterMap (·.reading?)) (after.filterMap (·.reading?)) rebuild
        reply (hrest.trans (.perform (hkeeps b.host.advisor))) ?_ ?_
      · change b.waiting.filterMap (·.reading?) = _
        rw [hw, List.filterMap_append, List.filterMap_cons]
        rfl
      · refine (works_perform (b := rest) ⟨hr.book, hr.value⟩).trans ?_
        exact congrArg (fun readings => Works.perform ⟨_, readings, _⟩ _) herase'
    · have hne : ∀ rebuild purpose, task ≠ .rebuilding rebuild purpose :=
        fun rebuild purpose h => ht ⟨rebuild, purpose, h⟩
      have hframe := Advisor.untouched_frame.resume_of_ne b.host.setting task reply hne
        b.host.advisor
      refine .idle (hrest.trans (.perform (congrArg (·.2.current) hframe)))
        ((works_perform_aside (b := rest) (congrArg Prod.fst hframe)
          (Advisor.aside_resume b.host.advisor b.host.setting task reply hne)).trans ?_)
      have hnone := reading?_of_ne hne (some reply)
      rw [works, herase', works, hw, List.filterMap_append, List.filterMap_cons, hnone]
  · rw [step_resumed_of_ne fun task reply h => hp ⟨task, reply, h⟩]
    exact .idle (.refl b) rfl

end Steps

/-- Every step but a stop of the activator is one of the passages. -/
theorem passage_step (b : Bureau) {s : Step} (hs : s ≠ .stopped) : b.Passage s (b.step s) := by
  cases s with
  | started => exact passage_started b
  | stopped => exact absurd rfl hs
  | received inbound => exact .idle ⟨fun h => h, rfl⟩ rfl
  | told => exact passage_told b
  | began place => exact passage_began b place
  | called place => exact passage_called b place
  | answered place reply => exact passage_answered b place reply
  | resumed place => exact passage_resumed b place

/-- The bundled catalogs are what they were. -/
theorem bundled_step (b : Bureau) (s : Step) : (b.step s).host.bundled = b.host.bundled :=
  congrArg (·.2.2) (fixed_step b s)

theorem bundled_run (b : Bureau) (steps : List Step) :
    (b.run steps).host.bundled = b.host.bundled := by
  induction steps generalizing b with
  | nil => rfl
  | cons s rest ih => exact (ih (b.step s)).trans (bundled_step b s)

/-- The rebuilds are in order, and what is kept of the bundled catalogs is theirs. -/
structure Orderly (b : Bureau) : Prop where
  locked : b.works.Locked
  faithful : b.works.Faithful b.host.bundled

theorem orderly_opened (host : Host) : (opened host).Orderly where
  locked := ⟨Nat.zero_le 1, fun h => absurd rfl h, Nat.le_refl 0, List.forall_mem_nil _,
    List.nodup_nil⟩
  faithful := by
    refine ⟨fun t rules h => ?_, fun _ _ _ hm => absurd hm List.not_mem_nil,
      fun _ _ _ hm => absurd hm List.not_mem_nil⟩
    cases t <;> cases h

section Runs

variable {b : Bureau} {s : Step} {steps : List Step} {t : Trigger}

theorem Orderly.step (h : b.Orderly) (hs : s ≠ .stopped) : (b.step s).Orderly := by
  have hc := (passage_step b hs).change
  refine ⟨h.locked.change hc, ?_⟩
  rw [bundled_step]
  exact h.faithful.change hc

theorem Orderly.run (h : b.Orderly) (hs : .stopped ∉ steps) : (b.run steps).Orderly := by
  induction steps generalizing b with
  | nil => exact h
  | cons s rest ih =>
    obtain ⟨hne, hrest⟩ := List.ne_and_not_mem_of_not_mem_cons hs
    exact ih (h.step hne.symm) hrest

/-- A step that sets no catalog of a trigger leaves the one that is stored. -/
theorem stored_step_of_ne (h : ∀ entries, s ≠ .received (.catalog t entries)) :
    (b.step s).stored t = b.stored t := by
  by_cases hs : ∃ inbound, s = .received inbound
  · obtain ⟨inbound, rfl⟩ := hs
    have hne : ∀ entries, inbound ≠ .catalog t entries := by
      rintro entries rfl
      exact h entries rfl
    exact congrArg Prod.fst (Bridge.catalog_receive_of_ne hne
      ⟨b.host.active, b.host.advisor.ledger.store, b.host.preferences⟩)
  · obtain ⟨advisor, hadvisor⟩ := host_step b fun inbound he => hs ⟨inbound, he⟩
    rw [stored, hadvisor]
    rfl

/-- Steps that set no catalog of a trigger leave the one that is stored. -/
theorem stored_run_of_not_mem (h : ∀ entries, .received (.catalog t entries) ∉ steps) :
    (b.run steps).stored t = b.stored t := by
  induction steps generalizing b with
  | nil => rfl
  | cons s rest ih =>
    have hrest := ih (b := b.step s) fun entries hm => h entries (List.mem_cons_of_mem s hm)
    exact hrest.trans (stored_step_of_ne fun entries he => h entries (he ▸ List.mem_cons_self))

end Runs

/-- A change is going to be handled once its listeners were told of it, unless the activator was
not started or still starts. -/
theorem Registered.ready_told {b : Bureau} {s : Step} {t : Trigger} (h : b.Registered)
    (ht : b.Tells t s) (hc : b.activator.current ≠ none) (hn : b.starts = []) :
    ∃ u, .catalog u ∈ (b.step s).ready := by
  obtain ⟨rfl, hd⟩ := ht
  obtain ⟨rest, hdue⟩ := List.head?_eq_some_iff.mp hd
  obtain ⟨number, hcurrent⟩ := Option.ne_none_iff_exists'.mp hc
  have hlistens := (h.listens number hcurrent).resolve_left (hn ▸ List.not_mem_nil)
  rw [step_told_of_cons hdue]
  refine ⟨t, List.mem_append_right _ (List.mem_map.mpr ⟨.activator, ?_, rfl⟩)⟩
  exact List.mem_filterMap.mpr ⟨_, List.count_pos_iff.mp hlistens, if_pos rfl⟩

/-- No rebuild is at work, and none is going to begin. -/
structure Idle (b : Bureau) : Prop where
  queued : b.queued = []
  readings : b.works.readings = []
  due : ∀ t, .catalog t ∉ b.due
  ready : ∀ t, .catalog t ∉ b.ready

/-- A configured catalog is going to be read: a handler of such an event has not begun, or a rebuild
has still to read it. -/
def Coming (t : Trigger) (b : Bureau) : Prop := (∃ u, .catalog u ∈ b.ready) ∨ b.works.Awaits t

/-- Nothing is going to be read at a bureau that is idle. -/
theorem Idle.not_coming {b : Bureau} (h : b.Idle) (t : Trigger) : ¬b.Coming t := by
  rintro (⟨u, hr⟩ | hq | ⟨reading, hm, _⟩)
  · exact h.ready u hr
  · exact hq (congrArg (List.map Prod.fst) h.queued)
  · rw [h.readings] at hm
    cases hm

/-- Every configured catalog that a rebuild waits for can be read. -/
def Working (steps : List Step) : Prop :=
  ∀ place reply, .answered place reply ∈ steps → ∀ t, (reply (.configured t)).isOk = true

/-- A host without catalogs. -/
def plain : Host := {}

/-- A catalog of one site. -/
def sites : List Json := [.object [("domains", .list [.text "a.com"])]]

end Bureau

end BreakageAdvisor
