import BreakageAdvisor.Proofs.Bureau.Catalogs

/-!
# Changes of catalogs that are overlooked

The rules of a trigger are those of its configured catalog as a rebuild has read it last. A rebuild
follows every change of which the activator is told. While it starts it is told of none: a change
that is stored after the rebuild of the start has read the catalog, and of which the listeners are
told before the activator listens, is overlooked.
-/

namespace BreakageAdvisor

namespace Bureau

/-- A rebuild reads the configured catalog of a trigger, and none reads it in the steps after
that. -/
structure LastRead (t : Trigger) (b : Bureau) (s : Step) (after : List Step)
    (reply : Except Failure Json) : Prop where
  reads : b.Reads t s reply
  last : Throughout (fun past s' => ∀ reply', ¬((b.step s).run past).Reads t s' reply') after

/-- The configured catalog of a trigger changes, and whenever the listeners are told of it after
that, the activator starts. -/
def Missed (t : Trigger) (b : Bureau) (steps : List Step) : Prop :=
  ∃ past entries rest, steps = past ++ .received (.catalog t entries) :: rest ∧
    let changed := (b.run past).step (.received (.catalog t entries))
    (∃ before s after, rest = before ++ s :: after ∧ (changed.run before).Tells t s) ∧
      Throughout (fun past s => (changed.run past).Tells t s → (changed.run past).starts ≠ []) rest

/-- The last rebuild that read the configured catalog of a trigger could not, or a change has been
missed since, and the rules are not those of the catalog that is stored. -/
def Overlooked (host : Host) (t : Trigger) (steps : List Step) : Prop :=
  ∃ before s after reply, steps = before ++ s :: after ∧
    ((opened host).run before).LastRead t s after reply ∧
    ((∃ cause, reply = .error cause) ∨ ((opened host).run (before ++ [s])).Missed t after) ∧
    Rule.ofReply reply ≠ Rule.ofCatalog (((opened host).run steps).stored t).items

section Steps

variable {b : Bureau} {s : Step} {t : Trigger} {reply : Except Failure Json}

/-- The rebuild that runs has read what a step has given it. -/
private theorem held?_of_reads (ho : b.Orderly) (h : b.Reads t s reply) :
    (b.step s).works.held? t = some reply := by
  obtain ⟨place, replies, rest, purpose, rfl, hp, rfl⟩ := h
  obtain ⟨before, after, hw, -, hset⟩ := exists_around hp
  have hr : b.works.readings = before.filterMap (·.reading?) ++
      ⟨.configured t rest, none⟩ :: after.filterMap (·.reading?) := by
    change b.waiting.filterMap (·.reading?) = _
    rw [hw, List.filterMap_append, List.filterMap_cons]
    rfl
  obtain ⟨hbefore, hafter⟩ := ho.locked.eq_singleton hr
  have hread : (b.step (.answered place replies)).works.readings =
      [⟨.configured t rest, some ((replies (.configured t)).map fun _ => b.stored t)⟩] := by
    rw [step_answered_of_some hp]
    change (b.waiting.set place _).filterMap (·.reading?) = _
    rw [hset, List.filterMap_append, List.filterMap_cons, hbefore, hafter]
    rfl
  exact (Works.held?_of_configured hread).trans (if_pos rfl)

/-- What was read of a catalog stays current until it is read again. -/
private theorem works_current_step (ho : b.Orderly) (hs : s ≠ .stopped)
    (hn : ∀ read, ¬b.Reads t s read) (h : b.works.Current b.host.bundled t reply) :
    (b.step s).works.Current b.host.bundled t reply := by
  have hsame {w w' : Works} (hw : w.Current b.host.bundled t reply)
      (hr : w'.book.rules = w.book.rules) (hh : w'.held? t = w.held? t) :
      w'.Current b.host.bundled t reply := by
    rw [Works.Current, hh, Works.InForce, hr]
    exact hw
  cases passage_step b hs with
  | idle _ hw => exact hw ▸ h
  | begun hw =>
    rw [hw, Works.perform_begin]
    exact hsame (hsame h rfl rfl) (Works.unread_call _ _ t).1 (Works.unread_call _ _ t).2
  | called number queued _ hw =>
    rw [hw]
    exact hsame (hsame h rfl rfl) (Works.unread_call _ _ t).1 (Works.unread_call _ _ t).2
  | answered before after rebuild given _ hr _ hreads hw =>
    obtain ⟨rfl, rfl⟩ := ho.locked.eq_singleton hr
    rw [hw]
    refine Works.current_answered hr (fun rest he => ?_) h
    subst he
    exact hn _ (hreads t rest given rfl)
  | resumed before after rebuild given _ hr hw =>
    obtain ⟨rfl, rfl⟩ := ho.locked.eq_singleton hr
    rw [hw]
    exact Works.current_resumed ho.faithful hr h

/-- A catalog that a rebuild has still to read is to be read until it is. -/
private theorem works_awaits_step (ho : b.Orderly) (hs : s ≠ .stopped)
    (hn : ∀ read, ¬b.Reads t s read) (h : b.works.Awaits t) : (b.step s).works.Awaits t := by
  cases passage_step b hs with
  | idle _ hw => exact hw ▸ h
  | begun hw => exact hw ▸ Works.awaits_begin _ t
  | called number _ _ hw => exact hw ▸ Works.awaits_call _ number t
  | answered before after rebuild given _ hr _ hreads hw =>
    obtain ⟨rfl, rfl⟩ := ho.locked.eq_singleton hr
    rw [hw]
    refine Works.awaits_answered hr (fun rest he => ?_) h
    subst he
    exact hn _ (hreads t rest given rfl)
  | resumed before after rebuild given _ hr hw =>
    obtain ⟨rfl, rfl⟩ := ho.locked.eq_singleton hr
    rw [hw]
    exact Works.awaits_resumed hr h

/-- The events of catalogs stay ready and the start in use stays in use, unless a rebuild begins or
is called, which has everything still to read. -/
private theorem outside_step (hs : s ≠ .stopped) (t : Trigger) :
    ((∃ u, .catalog u ∈ b.ready) → ∃ u, .catalog u ∈ (b.step s).ready) ∧
        (b.step s).activator.current = b.activator.current ∨
      (b.step s).works.Awaits t := by
  cases passage_step b hs with
  | idle hb _ => exact .inl ⟨hb.ready, hb.current⟩
  | begun hw => exact .inr (hw ▸ Works.awaits_begin _ t)
  | called number _ _ hw => exact .inr (hw ▸ Works.awaits_call _ number t)
  | answered _ _ _ _ hb => exact .inl ⟨hb.ready, hb.current⟩
  | resumed _ _ _ _ hb => exact .inl ⟨hb.ready, hb.current⟩

/-- A catalog that is going to be read is so until it is. -/
theorem Coming.step (h : b.Coming t) (ho : b.Orderly) (hs : s ≠ .stopped)
    (hn : ∀ read, ¬b.Reads t s read) : (b.step s).Coming t := by
  rcases h with hr | ha
  · exact (outside_step hs t).imp_left fun hout => hout.1 hr
  · exact .inr (works_awaits_step ho hs hn ha)

/-- An event that is due stays so until the listeners are told of it. -/
private theorem due_step_of_not_tells (h : .catalog t ∈ b.due) (hn : ¬b.Tells t s) :
    .catalog t ∈ (b.step s).due := by
  cases flow_step b s with
  | received inbound _ hb =>
    rw [hb]
    exact List.mem_append_left _ h
  | told event rest hs hd hb =>
    rw [hb]
    rw [hd] at h
    refine (List.mem_cons.mp h).resolve_left ?_
    rintro rfl
    exact hn ⟨hs, by rw [hd]; rfl⟩
  | began _ _ _ _ _ hd _ => exact hd ▸ h
  | inside _ _ _ hd _ => exact hd ▸ h

/-- Nothing waits where no listener is registered. -/
private structure Unstarted (b : Bureau) : Prop where
  listeners : b.host.advisor.activator.tracker.listeners = []
  ready : b.ready = []
  waiting : b.waiting = []
  queued : b.queued = []

private theorem Unstarted.step (h : b.Unstarted) (hs : s ≠ .started) (hs' : s ≠ .stopped) :
    (b.step s).Unstarted := by
  cases s with
  | started => exact absurd rfl hs
  | stopped => exact absurd rfl hs'
  | received inbound => exact ⟨h.listeners, h.ready, h.waiting, h.queued⟩
  | told =>
    cases hd : b.due with
    | nil => rwa [step_told_of_nil hd]
    | cons event rest =>
      rw [step_told_of_cons hd]
      refine ⟨h.listeners, ?_, h.waiting, h.queued⟩
      rw [Host.listenersOf, h.listeners, h.ready]
      rfl
  | began place => rwa [step_began_of_none (by rw [h.ready]; rfl)]
  | called place => rwa [step_called_of_none (by rw [h.queued]; rfl)]
  | answered place replies => rwa [step_answered_of_ne (by simp [h.waiting])]
  | resumed place => rwa [step_resumed_of_ne (by simp [h.waiting])]

end Steps

section Runs

variable {b : Bureau} {steps : List Step} {t : Trigger} {reply : Except Failure Json}

private theorem throughout_rest {P : Bureau → Step → Prop} {before after : List Step} {s : Step}
    (h : Throughout (fun past s' => P (b.run (before ++ s :: past)) s') after) :
    Throughout (fun past s' => P (((b.run before).step s).run past) s') after := by
  intro past s' rest hsplit
  have hafter : P (b.run (before ++ s :: past)) s' := h past s' rest hsplit
  rwa [run_append] at hafter

/-- What holds throughout a run holds, from there on, throughout what follows a step. -/
theorem throughout_after {P : Bureau → Step → Prop} {before after : List Step} {s : Step}
    (h : Throughout (fun past s' => P (b.run past) s') (before ++ s :: after)) :
    Throughout (fun past s' => P (((b.run before).step s).run past) s') after :=
  throughout_rest (Throughout.cons_iff.mp (Throughout.append_iff.mp h).2).2

private theorem current_run_ne_none (hs : .stopped ∉ steps) (h : b.activator.current ≠ none) :
    (b.run steps).activator.current ≠ none := by
  induction steps generalizing b with
  | nil => exact h
  | cons s rest ih =>
    obtain ⟨hne, hrest⟩ := List.ne_and_not_mem_of_not_mem_cons hs
    exact ih hrest (current_step_ne_none hne.symm h)

private theorem works_current_run (ho : b.Orderly) (hs : .stopped ∉ steps)
    (hn : Throughout (fun past s => ∀ read, ¬(b.run past).Reads t s read) steps)
    (h : b.works.Current b.host.bundled t reply) :
    (b.run steps).works.Current b.host.bundled t reply := by
  induction steps generalizing b with
  | nil => exact h
  | cons s rest ih =>
    obtain ⟨hne, hrest⟩ := List.ne_and_not_mem_of_not_mem_cons hs
    obtain ⟨hfirst, hlater⟩ := Throughout.cons_iff.mp hn
    have hstep := works_current_step ho hne.symm hfirst h
    rw [← bundled_step b s] at hstep ⊢
    exact ih (ho.step hne.symm) hrest hlater hstep

/-- A catalog that is going to be read is so after steps in which it is not read. -/
theorem Coming.run (h : b.Coming t) (ho : b.Orderly) (hs : .stopped ∉ steps)
    (hn : Throughout (fun past s => ∀ read, ¬(b.run past).Reads t s read) steps) :
    (b.run steps).Coming t := by
  induction steps generalizing b with
  | nil => exact h
  | cons s rest ih =>
    obtain ⟨hne, hrest⟩ := List.ne_and_not_mem_of_not_mem_cons hs
    obtain ⟨hfirst, hlater⟩ := Throughout.cons_iff.mp hn
    exact ih (h.step ho hne.symm hfirst) (ho.step hne.symm) hrest hlater

private theorem due_run_of_not_tells (h : .catalog t ∈ b.due)
    (hn : Throughout (fun past s => ¬(b.run past).Tells t s) steps) :
    .catalog t ∈ (b.run steps).due := by
  induction steps generalizing b with
  | nil => exact h
  | cons s rest ih =>
    obtain ⟨hfirst, hlater⟩ := Throughout.cons_iff.mp hn
    exact ih (due_step_of_not_tells h hfirst) hlater

/-- A catalog that no rebuild has read is yet to be read by one, or the activator was not
started. -/
private theorem unread_run (ho : b.Orderly) (hs : .stopped ∉ steps)
    (hn : Throughout (fun past s => ∀ read, ¬(b.run past).Reads t s read) steps)
    (h : b.activator.current = none ∨ b.works.Awaits t) :
    (b.run steps).activator.current = none ∨ (b.run steps).works.Awaits t := by
  induction steps generalizing b with
  | nil => exact h
  | cons s rest ih =>
    obtain ⟨hne, hrest⟩ := List.ne_and_not_mem_of_not_mem_cons hs
    obtain ⟨hfirst, hlater⟩ := Throughout.cons_iff.mp hn
    refine ih (ho.step hne.symm) hrest hlater ?_
    rcases h with hc | ha
    · exact (outside_step hne.symm t).imp_left fun hout => hout.2.trans hc
    · exact .inr (works_awaits_step ho hne.symm hfirst ha)

/-- Nothing waits as long as the activator is not started. -/
private theorem unstarted_run (host : Host) (hs : .stopped ∉ steps)
    (hc : ((opened host).run steps).activator.current = none) :
    ((opened host).run steps).Unstarted := by
  induction steps using List.reverseRecOn with
  | nil => exact ⟨rfl, rfl, rfl, rfl⟩
  | append_singleton front s ih =>
    rw [run_append] at hc ⊢
    have hs' : s ≠ .stopped := fun he => hs (by simp [he])
    by_cases hstarted : s = .started
    · subst hstarted
      exact absurd hc (current_started _)
    · have hfront := (current_step hstarted hs').symm.trans hc
      exact (ih (fun hm => hs (List.mem_append_left _ hm)) hfront).step hstarted hs'

/-- A catalog is read only once the activator was started. -/
private theorem current_of_reads (host : Host) {s : Step} (hs : .stopped ∉ steps)
    (h : ((opened host).run steps).Reads t s reply) :
    ((opened host).run steps).activator.current ≠ none := by
  intro hc
  obtain ⟨place, _, _, _, _, hp, _⟩ := h
  rw [(unstarted_run host hs hc).waiting] at hp
  cases hp

/-- If a catalog changes and is not read any more, and no rebuild is at work in the end, the change
is missed. -/
private theorem missed_of_change (ho : b.Orderly) (hr : b.Registered)
    (hc : b.activator.current ≠ none) (hs : .stopped ∉ steps)
    (hn : Throughout (fun past s => ∀ read, ¬(b.run past).Reads t s read) steps)
    (hi : (b.run steps).Idle) {entries : Option (List Json)}
    (hm : .received (.catalog t entries) ∈ steps) : b.Missed t steps := by
  obtain ⟨past, rest, rfl⟩ := List.append_of_mem hm
  have hpast : .stopped ∉ past := fun h => hs (List.mem_append_left _ h)
  have hrest : .stopped ∉ rest := fun h =>
    hs (List.mem_append_right _ (List.mem_cons_of_mem _ h))
  have hchange : Step.received (.catalog t entries) ≠ .stopped := nofun
  let changed := (b.run past).step (.received (.catalog t entries))
  have ho' : changed.Orderly := (ho.run hpast).step hchange
  have hr' : changed.Registered := (hr.run past).step _
  have hc' : changed.activator.current ≠ none :=
    current_step_ne_none hchange (current_run_ne_none hpast hc)
  have hdue : .catalog t ∈ changed.due := by
    cases entries <;> exact List.mem_append_right _ (List.mem_singleton_self _)
  have hlater : Throughout (fun later s => ∀ read, ¬(changed.run later).Reads t s read) rest :=
    throughout_after (P := fun b' s => ∀ read, ¬b'.Reads t s read) hn
  rw [run_append] at hi
  have hidle : (changed.run rest).Idle := hi
  refine ⟨past, entries, rest, rfl, ?_, fun front s after hsplit htells hstarts => ?_⟩
  · -- Else the change would be due in the end.
    by_contra hnone
    exact hidle.due t (due_run_of_not_tells hdue fun front s after hsplit htells =>
      hnone ⟨front, s, after, hsplit, htells⟩)
  · -- Else a handler would be ready that leads to a rebuild.
    subst hsplit
    have hfront : .stopped ∉ front := fun h => hrest (List.mem_append_left _ h)
    obtain ⟨hne, hafter⟩ := List.ne_and_not_mem_of_not_mem_cons
      fun h => hrest (List.mem_append_right front h)
    have hready : ∃ u, .catalog u ∈ ((changed.run front).step s).ready :=
      (hr'.run front).ready_told htells (current_run_ne_none hfront hc') hstarts
    have hcoming : (((changed.run front).step s).run after).Coming t :=
      .run (.inl hready) ((ho'.run hfront).step hne.symm) hafter
        (throughout_after (P := fun b' s => ∀ read, ¬b'.Reads t s read) hlater)
    rw [run_append] at hidle
    exact hidle.not_coming t hcoming

/-- Once no rebuild is at work, the rules are those of the catalog that was read last. -/
theorem LastRead.rules_eq (host : Host) {before after : List Step} {s : Step}
    (h : ((opened host).run before).LastRead t s after reply) (hs : .stopped ∉ before ++ s :: after)
    (hi : ((opened host).run (before ++ s :: after)).Idle) :
    ((opened host).run (before ++ s :: after)).host.advisor.book.rules.get t =
      Rule.ofReply (host.bundled.get t) ++ Rule.ofReply reply := by
  have hbefore : .stopped ∉ before := fun hm => hs (List.mem_append_left _ hm)
  obtain ⟨hne, hafter⟩ := List.ne_and_not_mem_of_not_mem_cons
    fun hm => hs (List.mem_append_right before hm)
  have ho := (orderly_opened host).run hbefore
  have hbundled : (((opened host).run before).step s).host.bundled = host.bundled :=
    (bundled_step _ s).trans (bundled_run _ before)
  have hcurrent : (((opened host).run before).step s).works.Current host.bundled t reply := by
    rw [Works.Current, held?_of_reads ho h.reads]
  rw [← hbundled] at hcurrent ⊢
  have hlast := works_current_run (ho.step hne.symm) hafter h.last hcurrent
  rw [run_append] at hi ⊢
  have hidle : ((((opened host).run before).step s).run after).Idle := hi
  have hnone : ((((opened host).run before).step s).run after).works.held? t = none := by
    rw [Works.held?, hidle.readings]
    rfl
  rwa [Works.Current, hnone] at hlast

/-- Once the activator was started and no rebuild is at work, a rebuild has read the catalog. -/
theorem exists_lastRead (host : Host) (t : Trigger) (hs : .stopped ∉ steps)
    (hc : ((opened host).run steps).activator.current ≠ none)
    (hi : ((opened host).run steps).Idle) :
    ∃ before s after reply, steps = before ++ s :: after ∧
      ((opened host).run before).LastRead t s after reply := by
  by_cases hn : Throughout
      (fun past s => ∀ read, ¬((opened host).run past).Reads t s read) steps
  · refine ((unread_run (orderly_opened host) hs hn (.inl rfl)).elim hc fun ha => ?_).elim
    exact hi.not_coming t (.inr ha)
  · obtain ⟨before, s, after, rfl, hreads, hlast⟩ := Throughout.exists_last hn
    obtain ⟨reply, hreply⟩ := not_forall_not.mp hreads
    exact ⟨before, s, after, reply, rfl, hreply,
      throughout_rest (P := fun b s => ∀ read, ¬b.Reads t s read) hlast⟩

/-- If the catalog that was read last is not the one that is stored, it could not be read or a
change has been missed since. -/
theorem LastRead.error_or_missed (host : Host) {before after : List Step} {s : Step}
    (h : ((opened host).run before).LastRead t s after reply) (hs : .stopped ∉ before ++ s :: after)
    (hi : ((opened host).run (before ++ s :: after)).Idle)
    (hne : reply ≠ .ok (((opened host).run (before ++ s :: after)).stored t)) :
    (∃ cause, reply = .error cause) ∨ ((opened host).run (before ++ [s])).Missed t after := by
  have hbefore : .stopped ∉ before := fun hm => hs (List.mem_append_left _ hm)
  obtain ⟨hstop, hafter⟩ := List.ne_and_not_mem_of_not_mem_cons
    fun hm => hs (List.mem_append_right before hm)
  have hreads := h.reads
  have hcurrent := current_of_reads host hbefore hreads
  obtain ⟨place, replies, _, _, rfl, _, hreply⟩ := hreads
  cases hgiven : replies (.configured t) with
  | error cause =>
    rw [hgiven] at hreply
    exact .inl ⟨cause, hreply⟩
  | ok value =>
    rw [hgiven] at hreply
    right
    rw [run_append] at hi hne ⊢
    change (((opened host).run before).step (.answered place replies)).Missed t after
    by_cases hchange : ∃ entries, .received (.catalog t entries) ∈ after
    · obtain ⟨entries, hm⟩ := hchange
      exact missed_of_change (((orderly_opened host).run hbefore).step hstop.symm)
        (((registered_opened host).run before).step _) (current_step_ne_none hstop.symm hcurrent)
        hafter h.last hi hm
    · -- Without a change the catalog is still the one that was read.
      have hstored : (((opened host).run before).run (.answered place replies :: after)).stored t =
          ((opened host).run before).stored t :=
        (stored_run_of_not_mem (not_exists.mp hchange)).trans (stored_step_of_ne fun _ => nofun)
      exact absurd (hreply.trans (congrArg Except.ok hstored.symm)) hne

end Runs

/-- Once the activator was started and no rebuild is at work or going to begin, the rules of a
trigger are those of its bundled catalog and of the configured one as a rebuild has read it last.
They are those of the configured catalog as it is stored if and only if it was not overlooked. -/
theorem in_force_iff_not_overlooked (host : Host) (t : Trigger) {steps : List Step}
    (hs : .stopped ∉ steps) (hc : ((opened host).run steps).activator.current ≠ none)
    (hi : ((opened host).run steps).Idle) :
    (∃ before s after reply, steps = before ++ s :: after ∧
      ((opened host).run before).LastRead t s after reply ∧
      ((opened host).run steps).host.advisor.book.rules.get t =
        Rule.ofReply (host.bundled.get t) ++ Rule.ofReply reply) ∧
    (((opened host).run steps).host.advisor.book.rules.get t =
        Rule.ofReply (host.bundled.get t) ++
          Rule.ofCatalog (((opened host).run steps).stored t).items ↔
      ¬Overlooked host t steps) := by
  obtain ⟨before, s, after, reply, rfl, hlast⟩ := exists_lastRead host t hs hc hi
  have hrules := hlast.rules_eq host hs hi
  refine ⟨⟨before, s, after, reply, rfl, hlast, hrules⟩, ?_, fun hnot => ?_⟩
  · rintro heq ⟨before', s', after', reply', hsplit, hlast', -, hne⟩
    rw [hsplit] at hs hi heq hne
    exact hne (List.append_cancel_left ((hlast'.rules_eq host hs hi).symm.trans heq))
  · by_contra hne
    have hdiffer : Rule.ofReply reply ≠
        Rule.ofCatalog (((opened host).run (before ++ s :: after)).stored t).items :=
      fun he => hne (hrules.trans (congrArg _ he))
    refine hnot ⟨before, s, after, reply, rfl, hlast, ?_, hdiffer⟩
    refine hlast.error_or_missed host hs hi ?_
    rintro rfl
    exact hdiffer rfl

/-- The configured catalog for tabs changes, and the listeners are told. -/
def update : List Step := [.received (.catalog .tab (some sites)), .told]

/-- The catalog for tabs changes after the activator, which starts, has read it. -/
def missed : List Step :=
  [.started] ++ reads true ++ reads true ++ update ++ reads true ++ reads true

/-- The change that came after the activator, which started, had read the catalog was
overlooked. -/
theorem in_force_iff_not_overlooked_missed : Overlooked plain .tab missed := by
  have hs : Step.stopped ∉ missed := by simp [missed, reads, update]
  have hi : ((opened plain).run missed).Idle :=
    ⟨rfl, rfl, fun _ => List.not_mem_nil, fun _ => List.not_mem_nil⟩
  have hc : ((opened plain).run missed).activator.current ≠ none := Option.some_ne_none _
  by_contra hnot
  have hrules := (in_force_iff_not_overlooked plain .tab hs hc hi).2.mpr hnot
  have hlength := congrArg List.length hrules
  cases hlength

/-- Every catalog could be read, and no rebuild is at work, but the rules for tabs are not those
of the catalog that is stored. -/
theorem missed_not_in_force :
    .stopped ∉ missed ∧ ((opened plain).run missed).activator.current ≠ none ∧
      ((opened plain).run missed).Idle ∧ Working missed ∧
      ((opened plain).run missed).host.advisor.book.rules.get .tab = [] ∧
      ((opened plain).run missed).stored .tab = .list sites ∧
      (Rule.ofCatalog sites).length = 1 := by
  have hreads : ∀ t, (readable true (.configured t)).isOk = true := fun _ => rfl
  refine ⟨by simp [missed, reads, update], Option.some_ne_none _,
    ⟨rfl, rfl, fun _ => List.not_mem_nil, fun _ => List.not_mem_nil⟩, ?_, rfl, rfl, rfl⟩
  simpa [Working, missed, update, reads] using hreads

end Bureau

end BreakageAdvisor
