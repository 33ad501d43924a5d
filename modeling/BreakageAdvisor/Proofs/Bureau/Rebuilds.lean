import BreakageAdvisor.RuleBook
import BreakageAdvisor.Proofs.Act
import Mathlib.Data.List.Nodup

/-!
# Rebuilds at work

Any number of rebuilds of the rules. They run one at a time, in the order of their numbers; the
others wait until their numbers are called. So the rebuild that runs has read the catalogs after all
that came before it.
-/

namespace BreakageAdvisor

/-- The rules of a catalog as it was loaded. -/
def Rule.ofReply : Except Failure Json → List Rule
  | .ok catalog => ofCatalog catalog.items
  | .error _ => []

namespace Rebuild

section Acts

variable (book : RuleBook)

/-- A catalog that is read changes nothing. -/
@[simp]
theorem state_read (catalog : Json) : (read catalog).state book = book := by
  have hread : Act.Keeps id (read catalog) :=
    .bind (.forM _ fun _ => .report _) fun _ => .pure _
  exact hread book

/-- A catalog is read as its rules. -/
@[simp]
theorem value_read (catalog : Json) :
    (read catalog).value book = Rule.ofCatalog catalog.items := rfl

/-- A rebuild without further triggers passes the turn on. -/
theorem next_nil :
    (next []).value book = .ended ∧
      (next []).state book = { book with turn := book.turn + 1 } := ⟨rfl, rfl⟩

/-- Where a rebuild waits that comes to a trigger: the bundled catalog is loaded once. -/
def first (t : Trigger) (rest : List Trigger) : Rebuild :=
  match book.bundled.get t with
  | none => .bundled t rest
  | some _ => .configured t rest

/-- A rebuild that comes to a trigger waits for a catalog. -/
theorem next_cons (t : Trigger) (rest : List Trigger) :
    (next (t :: rest)).value book = .waiting (first book t rest) ∧
      (next (t :: rest)).state book = book := by
  rw [next, Act.value_get_bind, Act.state_get_bind, first]
  cases book.bundled.get t <;> exact ⟨rfl, rfl⟩

/-- A rebuild runs once its number is called. -/
theorem call_of_eq {number : Nat} (h : book.turn = number) :
    (call number).value book = .waiting (first book .tab [.request]) ∧
      (call number).state book = book := by
  rw [call, Act.value_get_bind, Act.state_get_bind, if_pos h]
  exact next_cons book .tab [.request]

/-- A rebuild waits for its number. -/
theorem call_of_ne {number : Nat} (h : book.turn ≠ number) :
    (call number).value book = .queued number ∧ (call number).state book = book := by
  rw [call, Act.value_get_bind, Act.state_get_bind, if_neg h]
  exact ⟨rfl, rfl⟩

private theorem begin_eq :
    begin.value book = (call book.numbers).value { book with numbers := book.numbers + 1 } ∧
      begin.state book = (call book.numbers).state { book with numbers := book.numbers + 1 } :=
  ⟨rfl, rfl⟩

/-- The rules of a bundled catalog are kept. -/
theorem resume_bundled (t : Trigger) (rest : List Trigger) (reply : Except Failure Json) :
    (resume (.bundled t rest) reply).value book = .waiting (.configured t rest) ∧
      (resume (.bundled t rest) reply).state book =
        { book with bundled := book.bundled.set t (some (Rule.ofReply reply)) } := by
  cases reply with
  | error cause => exact ⟨rfl, rfl⟩
  | ok catalog =>
    refine ⟨rfl, ?_⟩
    simp only [resume, Act.state_bind, state_read, value_read, keep, Act.state_modify,
      Act.state_pure]
    rfl

/-- The rules of a bundled catalog that are kept. -/
def retained (t : Trigger) (reply : Except Failure Json) : RuleBook :=
  { book with bundled := book.bundled.set t (some (Rule.ofReply reply)) }

/-- The rules of a trigger that are put in force. -/
def enforced (t : Trigger) (reply : Except Failure Json) : RuleBook :=
  { book with
    rules := book.rules.set t ((book.bundled.get t).getD [] ++ Rule.ofReply reply) }

theorem rules_enforced (t : Trigger) (reply : Except Failure Json) :
    (enforced book t reply).rules =
      book.rules.set t ((book.bundled.get t).getD [] ++ Rule.ofReply reply) := rfl

/-- The rules of a configured catalog are put in force, and the rebuild goes on. -/
theorem resume_configured (t : Trigger) (rest : List Trigger) (reply : Except Failure Json) :
    (resume (.configured t rest) reply).value book = (next rest).value (enforced book t reply) ∧
      (resume (.configured t rest) reply).state book =
        (next rest).state (enforced book t reply) := by
  cases reply with
  | error cause => exact ⟨rfl, rfl⟩
  | ok catalog =>
    simp only [resume, Act.value_bind, Act.state_bind, state_read, value_read]
    exact ⟨rfl, rfl⟩

end Acts

end Rebuild

/-- A rebuild that waits for a catalog, which may be there already. -/
structure Works.Reading where
  rebuild : Rebuild
  reply? : Option rebuild.query.Reply := none

/-- The rebuilds at work. -/
structure Works where
  book : RuleBook
  /-- The rebuilds that wait for catalogs. -/
  readings : List Works.Reading
  /-- The numbers of the rebuilds that wait until they are called. -/
  queued : List Nat

namespace Works

/-- A rebuild that has come so far takes its place. -/
def put (w : Works) : Rebuild.Progress → Works
  | .ended => w
  | .queued number => { w with queued := w.queued ++ [number] }
  | .waiting rebuild => { w with readings := w.readings ++ [{ rebuild }] }

/-- A rebuild begins or goes on. -/
def perform (w : Works) (act : Act RuleBook Rebuild.Progress) : Works :=
  { w with book := act.state w.book }.put (act.value w.book)

/-- A reply is what there is to be read. A configured catalog may fail to be read. -/
def Truthful (source : PerTrigger (Except Failure Json)) (stored : Trigger → Json) :
    (rebuild : Rebuild) → rebuild.query.Reply → Prop
  | .bundled t _, reply => reply = source.get t
  | .configured t _, reply => ∀ catalog, reply = .ok catalog → catalog = stored t

/-- What may come of the rebuilds at work in a step. -/
inductive Change (source : PerTrigger (Except Failure Json)) (stored : Trigger → Json)
    (w : Works) : Works → Prop
  | same : Change source stored w w
  | begun : Change source stored w (w.perform Rebuild.begin)
  | called (number : Nat) (queued : List Nat) (hq : w.queued.Perm (number :: queued)) :
      Change source stored w ({ w with queued }.perform (Rebuild.call number))
  | answered (before after : List Reading) (rebuild : Rebuild) (reply : rebuild.query.Reply)
      (hr : w.readings = before ++ ⟨rebuild, none⟩ :: after)
      (ht : Truthful source stored rebuild reply) :
      Change source stored w { w with readings := before ++ ⟨rebuild, some reply⟩ :: after }
  | resumed (before after : List Reading) (rebuild : Rebuild) (reply : rebuild.query.Reply)
      (hr : w.readings = before ++ ⟨rebuild, some reply⟩ :: after) :
      Change source stored w
        ({ w with readings := before ++ after }.perform (rebuild.resume reply))

/-- Rebuilds run one at a time: that whose turn it is has left the queue, and the numbers in the
queue are apart and were taken. -/
structure Locked (w : Works) : Prop where
  lone : w.readings.length ≤ 1
  busy : w.readings ≠ [] → w.book.turn < w.book.numbers ∧ w.book.turn ∉ w.queued
  turn : w.book.turn ≤ w.book.numbers
  queued : ∀ number ∈ w.queued, w.book.turn ≤ number ∧ number < w.book.numbers
  nodup : w.queued.Nodup

/-- The rules of bundled catalogs that are kept are those of the source, and they are kept before
the configured catalog is read. -/
structure Faithful (source : PerTrigger (Except Failure Json)) (w : Works) : Prop where
  bundled : ∀ t rules, w.book.bundled.get t = some rules → rules = Rule.ofReply (source.get t)
  loaded : ∀ t rest reply?, ⟨.configured t rest, reply?⟩ ∈ w.readings →
    w.book.bundled.get t ≠ none
  replies : ∀ t rest (reply : Except Failure Json),
    ⟨.bundled t rest, some reply⟩ ∈ w.readings → reply = source.get t

section Changes

variable {source : PerTrigger (Except Failure Json)} {stored : Trigger → Json} {w w' : Works}

/-- A rebuild that is called runs or goes back to the queue. -/
theorem perform_call (w : Works) (number : Nat) :
    w.perform (Rebuild.call number) =
      if w.book.turn = number then
        { w with readings := w.readings ++ [{ rebuild := Rebuild.first w.book .tab [.request] }] }
      else { w with queued := w.queued ++ [number] } := by
  split
  · next h =>
    obtain ⟨hv, hs⟩ := Rebuild.call_of_eq w.book h
    rw [perform, hv, hs, put]
  · next h =>
    obtain ⟨hv, hs⟩ := Rebuild.call_of_ne w.book h
    rw [perform, hv, hs, put]

/-- A rebuild that begins takes a number and is called at once. -/
theorem perform_begin (w : Works) :
    w.perform Rebuild.begin =
      { w with book := { w.book with numbers := w.book.numbers + 1 } }.perform
        (Rebuild.call w.book.numbers) := by
  obtain ⟨hv, hs⟩ := Rebuild.begin_eq w.book
  rw [perform, hv, hs, perform]

/-- Where one rebuild waits for a catalog no other does. -/
theorem Locked.eq_singleton (h : w.Locked) {before after : List Reading} {reading : Reading}
    (hr : w.readings = before ++ reading :: after) : before = [] ∧ after = [] := by
  have hl := h.lone
  rw [hr, List.length_append, List.length_cons] at hl
  exact ⟨List.eq_nil_of_length_eq_zero (by omega), List.eq_nil_of_length_eq_zero (by omega)⟩

/-- A number that is called is the next one in the queue or goes back to it. -/
theorem Locked.call {number : Nat} (h : w.Locked) (hn : number ∉ w.queued)
    (hturn : w.book.turn ≤ number) (hlt : number < w.book.numbers)
    (hfree : w.book.turn = number → w.readings = []) :
    (w.perform (Rebuild.call number)).Locked := by
  rw [perform_call]
  split
  · next he =>
    rw [hfree he]
    exact ⟨Nat.le_refl 1, fun _ => he ▸ ⟨hlt, hn⟩, h.turn, h.queued, h.nodup⟩
  · next he =>
    refine ⟨h.lone, ?_, h.turn, ?_, ?_⟩
    · intro hr
      obtain ⟨hlt, hq⟩ := h.busy hr
      refine ⟨hlt, ?_⟩
      rw [List.mem_append, List.mem_singleton]
      exact not_or.mpr ⟨hq, he⟩
    · intro n hm
      rcases List.mem_append.mp hm with hm | hm
      · exact h.queued n hm
      · rw [List.mem_singleton.mp hm]
        exact ⟨hturn, hlt⟩
    · rw [← List.concat_eq_append]
      exact h.nodup.concat hn

/-- The turn goes on when the rebuild that runs has come to its end. -/
theorem Locked.next (h : w.Locked) (hbusy : w.book.turn < w.book.numbers ∧ w.book.turn ∉ w.queued)
    (hr : w.readings = []) (rest : List Trigger) : (w.perform (Rebuild.next rest)).Locked := by
  cases rest with
  | nil =>
    obtain ⟨hv, hs⟩ := Rebuild.next_nil w.book
    rw [perform, hv, hs, put]
    refine ⟨h.lone, fun hne => absurd hr hne, hbusy.1, ?_, h.nodup⟩
    intro n hm
    obtain ⟨hle, hlt⟩ := h.queued n hm
    have hne : n ≠ w.book.turn := fun he => hbusy.2 (he ▸ hm)
    exact ⟨Nat.lt_of_le_of_ne hle hne.symm, hlt⟩
  | cons t rest =>
    obtain ⟨hv, hs⟩ := Rebuild.next_cons w.book t rest
    rw [perform, hv, hs, put, hr]
    exact ⟨Nat.le_refl 1, fun _ => hbusy, h.turn, h.queued, h.nodup⟩

/-- Rebuilds go on one at a time. -/
theorem Locked.change (h : w.Locked) (hc : Change source stored w w') : w'.Locked := by
  cases hc with
  | same => exact h
  | begun =>
    rw [perform_begin]
    have hw : (Works.mk { w.book with numbers := w.book.numbers + 1 } w.readings
        w.queued).Locked := by
      refine ⟨h.lone, fun hr => ?_, Nat.le_succ_of_le h.turn, fun n hm => ?_, h.nodup⟩
      · exact ⟨Nat.lt_succ_of_lt (h.busy hr).1, (h.busy hr).2⟩
      · exact ⟨(h.queued n hm).1, Nat.lt_succ_of_lt (h.queued n hm).2⟩
    refine hw.call ?_ h.turn (Nat.lt_succ_self _) ?_
    · intro hm
      exact Nat.lt_irrefl _ (h.queued _ hm).2
    · intro he
      by_contra hr
      exact Nat.ne_of_lt (h.busy hr).1 he
  | called number queued hq =>
    have hnumber := hq.mem_iff.mpr List.mem_cons_self
    have hmem (n : Nat) (hm : n ∈ queued) : n ∈ w.queued :=
      hq.mem_iff.mpr (List.mem_cons_of_mem number hm)
    obtain ⟨hnew, hnodup⟩ := List.nodup_cons.mp (hq.nodup_iff.mp h.nodup)
    have hw : (Works.mk w.book w.readings queued).Locked := by
      refine ⟨h.lone, fun hr => ?_, h.turn, fun n hm => h.queued n (hmem n hm), hnodup⟩
      exact ⟨(h.busy hr).1, fun hm => (h.busy hr).2 (hmem _ hm)⟩
    refine hw.call hnew (h.queued number hnumber).1 (h.queued number hnumber).2 ?_
    intro he
    by_contra hr
    exact (h.busy hr).2 (he ▸ hnumber)
  | answered before after rebuild reply hr ht =>
    obtain ⟨rfl, rfl⟩ := h.eq_singleton hr
    exact ⟨Nat.le_refl 1, fun _ => h.busy (hr ▸ List.cons_ne_nil _ _), h.turn, h.queued, h.nodup⟩
  | resumed before after rebuild reply hr =>
    obtain ⟨rfl, rfl⟩ := h.eq_singleton hr
    have hbusy := h.busy (hr ▸ List.cons_ne_nil _ _)
    have hw (book : RuleBook) (ht : book.turn = w.book.turn) (hn : book.numbers = w.book.numbers) :
        (Works.mk book [] w.queued).Locked :=
      ⟨Nat.zero_le 1, fun hne => absurd rfl hne, ht ▸ hn ▸ h.turn, ht ▸ hn ▸ h.queued, h.nodup⟩
    cases rebuild with
    | bundled t rest =>
      obtain ⟨hv, hs⟩ := Rebuild.resume_bundled w.book t rest reply
      rw [perform, hv, hs, put]
      exact ⟨Nat.le_refl 1, fun _ => hbusy, h.turn, h.queued, h.nodup⟩
    | configured t rest =>
      obtain ⟨hv, hs⟩ := Rebuild.resume_configured w.book t rest reply
      rw [perform, hv, hs]
      exact (hw (Rebuild.enforced w.book t reply) rfl rfl).next hbusy rfl rest

/-- A rebuild that comes to a trigger reads the configured catalog only after the bundled one. -/
theorem Faithful.first (h : w.Faithful source) (t : Trigger) (rest : List Trigger) :
    (Works.mk w.book (w.readings ++ [{ rebuild := Rebuild.first w.book t rest }]) w.queued).Faithful
      source := by
  refine ⟨h.bundled, ?_, ?_⟩
  · intro u rest' reply? hm
    rcases List.mem_append.mp hm with hm | hm
    · exact h.loaded u rest' reply? hm
    · have he := congrArg Reading.rebuild (List.mem_singleton.mp hm)
      change Rebuild.configured u rest' = Rebuild.first w.book t rest at he
      unfold Rebuild.first at he
      split at he
      · cases he
      · next hsome =>
        cases he
        exact hsome ▸ Option.some_ne_none _
  · intro u rest' reply hm
    rcases List.mem_append.mp hm with hm | hm
    · exact h.replies u rest' reply hm
    · cases congrArg (·.reply?.isSome) (List.mem_singleton.mp hm)

/-- What is kept of the bundled catalogs stays as it was read. -/
theorem Faithful.change (h : w.Faithful source) (hc : Change source stored w w') :
    w'.Faithful source := by
  have hcall {v : Works} (hv : v.Faithful source) (number : Nat) :
      (v.perform (Rebuild.call number)).Faithful source := by
    rw [perform_call]
    split
    · exact hv.first .tab [.request]
    · exact ⟨hv.bundled, hv.loaded, hv.replies⟩
  cases hc with
  | same => exact h
  | begun =>
    rw [perform_begin]
    refine hcall ?_ _
    exact ⟨h.bundled, h.loaded, h.replies⟩
  | called number queued hq =>
    refine hcall ?_ _
    exact ⟨h.bundled, h.loaded, h.replies⟩
  | answered before after rebuild reply hr ht =>
    have hmem {reading : Reading}
        (hm : reading ∈ before ++ ⟨rebuild, some reply⟩ :: after) :
        reading ∈ w.readings ∨ reading = ⟨rebuild, some reply⟩ := by
      rw [hr]
      simp only [List.mem_append, List.mem_cons] at hm ⊢
      tauto
    refine ⟨h.bundled, ?_, ?_⟩
    · intro t rest reply? hm
      rcases hmem hm with hm | he
      · exact h.loaded t rest reply? hm
      · cases he
        exact h.loaded t rest none (hr ▸ List.mem_append_right before List.mem_cons_self)
    · intro t rest answer hm
      rcases hmem hm with hm | he
      · exact h.replies t rest answer hm
      · cases he
        exact ht
  | resumed before after rebuild reply hr =>
    have hin : ⟨rebuild, some reply⟩ ∈ w.readings :=
      hr ▸ List.mem_append_right before List.mem_cons_self
    have hmem {reading : Reading} (hm : reading ∈ before ++ after) : reading ∈ w.readings := by
      rw [hr]
      exact (List.Sublist.append_left (List.sublist_cons_self _ after) before).mem hm
    cases rebuild with
    | bundled t rest =>
      have hreply : reply = source.get t := h.replies t rest reply hin
      obtain ⟨hv, hs⟩ := Rebuild.resume_bundled w.book t rest reply
      rw [perform, hv, hs, put]
      refine ⟨?_, ?_, ?_⟩
      · intro u rules hu
        by_cases htu : u = t
        · subst htu
          rw [PerTrigger.get_set_self] at hu
          rw [← Option.some_inj.mp hu, hreply]
        · rw [PerTrigger.get_set_of_ne _ _ htu] at hu
          exact h.bundled u rules hu
      · intro u rest' reply? hm
        by_cases htu : u = t
        · subst htu
          rw [PerTrigger.get_set_self]
          exact Option.some_ne_none _
        · rw [PerTrigger.get_set_of_ne _ _ htu]
          rcases List.mem_append.mp hm with hm | hm
          · exact h.loaded u rest' reply? (hmem hm)
          · cases List.mem_singleton.mp hm
            exact absurd rfl htu
      · intro u rest' answer hm
        rcases List.mem_append.mp hm with hm | hm
        · exact h.replies u rest' answer (hmem hm)
        · cases List.mem_singleton.mp hm
    | configured t rest =>
      obtain ⟨hv, hs⟩ := Rebuild.resume_configured w.book t rest reply
      have hw : (Works.mk (Rebuild.enforced w.book t reply) (before ++ after) w.queued).Faithful
          source :=
        ⟨h.bundled, fun u rest' reply? hm => h.loaded u rest' reply? (hmem hm),
          fun u rest' answer hm => h.replies u rest' answer (hmem hm)⟩
      rw [perform, hv, hs]
      cases rest with
      | nil =>
        obtain ⟨hv, hs⟩ := Rebuild.next_nil (Rebuild.enforced w.book t reply)
        rw [hv, hs, put]
        exact ⟨hw.bundled, hw.loaded, hw.replies⟩
      | cons u rest =>
        obtain ⟨hv, hs⟩ := Rebuild.next_cons (Rebuild.enforced w.book t reply) u rest
        rw [hv, hs, put]
        exact hw.first u rest

end Changes

/-- What a rebuild has read of the configured catalog of a trigger, and not put in force. -/
def Reading.held? (t : Trigger) : Reading → Option (Except Failure Json)
  | ⟨.configured u _, some reply⟩ => if u = t then some reply else none
  | _ => none

/-- A rebuild has still to read the configured catalog of a trigger. -/
def Reading.Awaits (t : Trigger) : Reading → Prop
  | ⟨.bundled u rest, _⟩ => t = u ∨ t ∈ rest
  | ⟨.configured u rest, none⟩ => t = u ∨ t ∈ rest
  | ⟨.configured _ rest, some _⟩ => t ∈ rest

/-- What the rebuild that runs has read of the configured catalog of a trigger. -/
def held? (t : Trigger) (w : Works) : Option (Except Failure Json) :=
  w.readings.findSome? (·.held? t)

/-- Some rebuild has still to read the configured catalog of a trigger. -/
def Awaits (t : Trigger) (w : Works) : Prop :=
  w.queued ≠ [] ∨ ∃ reading ∈ w.readings, reading.Awaits t

/-- The rules of a trigger are those of the bundled catalog and of what was read of the configured
one. -/
def InForce (source : PerTrigger (Except Failure Json)) (t : Trigger)
    (configured : Except Failure Json) (w : Works) : Prop :=
  w.book.rules.get t = Rule.ofReply (source.get t) ++ Rule.ofReply configured

/-- What was read of a configured catalog is in force, or the rebuild that runs has read it. -/
def Current (source : PerTrigger (Except Failure Json)) (t : Trigger)
    (configured : Except Failure Json) (w : Works) : Prop :=
  match w.held? t with
  | some reply => reply = configured
  | none => w.InForce source t configured

section Reads

variable {source : PerTrigger (Except Failure Json)} {stored : Trigger → Json} {w : Works}
  {t : Trigger} {configured : Except Failure Json}

private theorem awaits_first (book : RuleBook) (u : Trigger) (rest : List Trigger) :
    Reading.Awaits t { rebuild := Rebuild.first book u rest } ↔ t = u ∨ t ∈ rest := by
  rw [Rebuild.first]
  cases book.bundled.get u <;> exact Iff.rfl

/-- A rebuild that is called has still to read every catalog. -/
theorem awaits_call (w : Works) (number : Nat) (t : Trigger) :
    (w.perform (Rebuild.call number)).Awaits t := by
  rw [perform_call]
  split
  · refine .inr ⟨_, List.mem_append_right _ (List.mem_singleton_self _), ?_⟩
    rw [awaits_first]
    cases t with
    | tab => exact .inl rfl
    | request => exact .inr (List.mem_singleton_self _)
  · exact .inl (List.append_ne_nil_of_right_ne_nil _ (List.cons_ne_nil _ _))

/-- A rebuild that is called changes no rules and has read nothing. -/
theorem unread_call (w : Works) (number : Nat) (t : Trigger) :
    (w.perform (Rebuild.call number)).book.rules = w.book.rules ∧
      (w.perform (Rebuild.call number)).held? t = w.held? t := by
  rw [perform_call]
  split
  · have hfirst : Reading.held? t { rebuild := Rebuild.first w.book .tab [.request] } = none := by
      rw [Rebuild.first]
      cases w.book.bundled.get .tab <;> rfl
    refine ⟨rfl, ?_⟩
    simp only [held?, List.findSome?_append, List.findSome?_cons, hfirst, List.findSome?_nil,
      Option.or_none]
  · exact ⟨rfl, rfl⟩

/-- A rebuild that begins has still to read every catalog. -/
theorem awaits_begin (w : Works) (t : Trigger) : (w.perform Rebuild.begin).Awaits t := by
  rw [perform_begin]
  exact awaits_call _ _ t

/-- What the one rebuild that runs has read of a configured catalog. -/
theorem held?_of_configured {u : Trigger} {rest : List Trigger} {reply : Except Failure Json}
    (hr : w.readings = [⟨.configured u rest, some reply⟩]) :
    w.held? t = if u = t then some reply else none := by
  rw [held?, hr]
  by_cases hu : u = t <;> simp [Reading.held?, hu]

/-- A rebuild that was not given the configured catalog of a trigger has read as much of it as
before. -/
private theorem held?_answered {rebuild : Rebuild} (reply : rebuild.query.Reply)
    (hr : w.readings = [⟨rebuild, none⟩]) (hne : ∀ rest, rebuild ≠ .configured t rest) :
    (Works.mk w.book [⟨rebuild, some reply⟩] w.queued).held? t = none ∧ w.held? t = none := by
  rw [held?, held?, hr]
  cases rebuild with
  | bundled u rest => exact ⟨rfl, rfl⟩
  | configured u rest =>
    have hu : u ≠ t := fun he => hne rest (he ▸ rfl)
    simp [Reading.held?, hu]

/-- A catalog is still to be read when another one was. -/
theorem awaits_answered {rebuild : Rebuild} {reply : rebuild.query.Reply}
    (hr : w.readings = [⟨rebuild, none⟩]) (hne : ∀ rest, rebuild ≠ .configured t rest)
    (h : w.Awaits t) : (Works.mk w.book [⟨rebuild, some reply⟩] w.queued).Awaits t := by
  rcases h with hq | ⟨reading, hm, ha⟩
  · exact .inl hq
  · rw [hr, List.mem_singleton] at hm
    subst hm
    refine .inr ⟨_, List.mem_singleton_self _, ?_⟩
    cases rebuild with
    | bundled u rest => exact ha
    | configured u rest => exact ha.resolve_left fun he => hne rest (he ▸ rfl)

/-- What is current of a catalog stays so when another one was read. -/
theorem current_answered {rebuild : Rebuild} {reply : rebuild.query.Reply}
    (hr : w.readings = [⟨rebuild, none⟩]) (hne : ∀ rest, rebuild ≠ .configured t rest)
    (h : w.Current source t configured) :
    (Works.mk w.book [⟨rebuild, some reply⟩] w.queued).Current source t configured := by
  obtain ⟨hafter, hbefore⟩ := held?_answered reply hr hne
  rw [Current, hbefore] at h
  rw [Current, hafter]
  exact h

/-- What a rebuild reads of a catalog is what is stored, unless reading fails. -/
theorem fine_answered {rebuild : Rebuild} {reply : rebuild.query.Reply}
    (hr : w.readings = [⟨rebuild, none⟩]) (ht : Truthful source stored rebuild reply)
    (hok : ∀ rest cause, (⟨rebuild, some reply⟩ : Reading) ≠
      ⟨.configured t rest, some (.error cause)⟩)
    (h : w.Awaits t ∨ w.Current source t (.ok (stored t))) :
    (Works.mk w.book [⟨rebuild, some reply⟩] w.queued).Awaits t ∨
      (Works.mk w.book [⟨rebuild, some reply⟩] w.queued).Current source t (.ok (stored t)) := by
  by_cases hne : ∀ rest, rebuild ≠ .configured t rest
  · exact h.imp (awaits_answered hr hne) (current_answered hr hne)
  · push Not at hne
    obtain ⟨rest, rfl⟩ := hne
    cases reply with
    | error cause => exact absurd rfl (hok rest cause)
    | ok catalog =>
      have hheld : (Works.mk w.book [⟨.configured t rest, some (.ok catalog)⟩] w.queued).held? t =
          some (.ok catalog) := (held?_of_configured rfl).trans (if_pos rfl)
      refine .inr ?_
      rw [Current, hheld]
      exact congrArg Except.ok (ht catalog rfl)

/-- A rebuild that goes on to further triggers has read none of their catalogs. -/
theorem perform_next (book : RuleBook) (queued : List Nat) (rest : List Trigger) (t : Trigger) :
    ((Works.mk book [] queued).perform (Rebuild.next rest)).book.rules = book.rules ∧
      ((Works.mk book [] queued).perform (Rebuild.next rest)).held? t = none ∧
      ((Works.mk book [] queued).perform (Rebuild.next rest)).queued = queued ∧
      (t ∈ rest → ((Works.mk book [] queued).perform (Rebuild.next rest)).Awaits t) := by
  cases rest with
  | nil => exact ⟨rfl, rfl, rfl, fun h => absurd h List.not_mem_nil⟩
  | cons u rest =>
    obtain ⟨hv, hs⟩ := Rebuild.next_cons book u rest
    rw [perform, hv, hs, put, Rebuild.first]
    refine ⟨rfl, ?_, rfl, ?_⟩
    · cases book.bundled.get u <;> rfl
    · intro hm
      exact .inr ⟨_, List.mem_singleton_self _,
        (awaits_first book u rest).mpr (List.mem_cons.mp hm)⟩

/-- A rebuild that goes on with a configured catalog puts it in force first. -/
theorem perform_configured (book : RuleBook) (queued : List Nat) (u : Trigger)
    (rest : List Trigger) (reply : Except Failure Json) :
    (Works.mk book [] queued).perform (Rebuild.resume (.configured u rest) reply) =
      (Works.mk (Rebuild.enforced book u reply) [] queued).perform (Rebuild.next rest) := by
  obtain ⟨hv, hs⟩ := Rebuild.resume_configured book u rest reply
  rw [perform, hv, hs]
  rfl

/-- What is current of a configured catalog is in force once the rebuild that runs has put in force
what it has read. -/
theorem rules_enforced {u : Trigger} {rest : List Trigger} {reply : Except Failure Json}
    (hf : w.Faithful source) (hr : w.readings = [⟨.configured u rest, some reply⟩])
    (h : w.Current source t configured) :
    (Rebuild.enforced w.book u reply).rules.get t =
      Rule.ofReply (source.get t) ++ Rule.ofReply configured := by
  rw [Current, held?_of_configured hr] at h
  rw [Rebuild.rules_enforced]
  by_cases hu : u = t
  · -- It is the catalog that the rebuild has read.
    subst hu
    rw [if_pos rfl] at h
    obtain ⟨rules, hkept⟩ := Option.ne_none_iff_exists'.mp
      (hf.loaded u rest (some reply) (hr ▸ List.mem_singleton_self _))
    rw [PerTrigger.get_set_self, hkept, Option.getD_some, hf.bundled u rules hkept,
      show reply = configured from h]
  · rw [if_neg hu] at h
    rw [PerTrigger.get_set_of_ne _ _ (Ne.symm hu)]
    exact h

/-- A catalog is still to be read when a rebuild goes on. -/
theorem awaits_resumed {rebuild : Rebuild} {reply : rebuild.query.Reply}
    (hr : w.readings = [⟨rebuild, some reply⟩]) (h : w.Awaits t) :
    ((Works.mk w.book [] w.queued).perform (rebuild.resume reply)).Awaits t := by
  cases rebuild with
  | configured u rest =>
    obtain ⟨-, -, hqueued, hawaits⟩ :=
      perform_next (Rebuild.enforced w.book u reply) w.queued rest t
    have hp := perform_configured w.book w.queued u rest reply
    rw [hp]
    rcases h with hq | ⟨reading, hm, ha⟩
    · refine .inl ?_
      rwa [hqueued]
    · rw [hr, List.mem_singleton] at hm
      subst hm
      exact hawaits ha
  | bundled u rest =>
    obtain ⟨hv, hs⟩ := Rebuild.resume_bundled w.book u rest reply
    rw [perform, hv, hs, put]
    rcases h with hq | ⟨reading, hm, ha⟩
    · exact .inl hq
    · rw [hr, List.mem_singleton] at hm
      subst hm
      exact .inr ⟨_, List.mem_singleton_self _, ha⟩

/-- What is current of a configured catalog is in force when the rebuild that has read it goes
on. -/
theorem current_resumed {rebuild : Rebuild} {reply : rebuild.query.Reply} (hf : w.Faithful source)
    (hr : w.readings = [⟨rebuild, some reply⟩]) (h : w.Current source t configured) :
    ((Works.mk w.book [] w.queued).perform (rebuild.resume reply)).Current source t
      configured := by
  cases rebuild with
  | configured u rest =>
    obtain ⟨hrules, hheld, -, -⟩ :=
      perform_next (Rebuild.enforced w.book u reply) w.queued rest t
    have hp := perform_configured w.book w.queued u rest reply
    rw [hp, Current, hheld]
    change _ = _
    rw [hrules]
    exact rules_enforced hf hr h
  | bundled u rest =>
    obtain ⟨hv, hs⟩ := Rebuild.resume_bundled w.book u rest reply
    rw [perform, hv, hs, put]
    have hnone : w.held? t = none := by
      rw [held?, hr]
      rfl
    rw [Current, hnone] at h
    exact h

/-- A rebuild that goes on leaves the catalogs that it has read in force. -/
theorem fine_resumed {rebuild : Rebuild} {reply : rebuild.query.Reply} (hf : w.Faithful source)
    (hr : w.readings = [⟨rebuild, some reply⟩])
    (h : w.Awaits t ∨ w.Current source t configured) :
    ((Works.mk w.book [] w.queued).perform (rebuild.resume reply)).Awaits t ∨
      ((Works.mk w.book [] w.queued).perform (rebuild.resume reply)).Current source t
        configured :=
  h.imp (awaits_resumed hr) (current_resumed hf hr)

end Reads

end Works

end BreakageAdvisor
