import BreakageAdvisor.Proofs.Bureau.Basic
import BreakageAdvisor.Proofs.Bureau.Rebuilds

/-!
# Rebuilds that overlap

Any number of rebuilds that begin at any time, while the configured catalogs change. A rebuild gets
the configured catalog as it is at some moment between its question and its next step; any catalog
may fail to be read, and may be any value. Rebuilds run one at a time, so an event changes the state
in one of a few ways, and no rebuild gets lost.
-/

namespace BreakageAdvisor

/-- A rebuild that waits for a catalog, with the number of changes when it asked. -/
structure Overlap.Waiting where
  rebuild : Rebuild
  since : Nat
  reply? : Option rebuild.query.Reply := none

/-- A configured catalog as it was read, with the number of changes when it was asked for. -/
structure Overlap.Read where
  trigger : Trigger
  since : Nat
  result : Except Failure Json

/-- Rebuilds that overlap, with an account of what they ask for and read. -/
structure Overlap where
  book : RuleBook := {}
  /-- The configured catalogs. -/
  configured : PerTrigger Json := .both (.list [])
  /-- How often a configured catalog changed. -/
  changes : Nat := 0
  /-- For each rebuild that began, the number of changes before. -/
  begun : List Nat := []
  /-- How many rebuilds have ended. -/
  ended : Nat := 0
  /-- The numbers of the rebuilds that wait until they are called. -/
  queued : List Nat := []
  /-- The rebuilds that wait for catalogs. -/
  waiting : List Overlap.Waiting := []
  /-- The triggers whose bundled catalogs were asked for. -/
  loads : List Trigger := []
  /-- The bundled catalogs as they were loaded. -/
  loaded : List (Trigger × Except Failure Json) := []
  /-- The configured catalogs as they were read. -/
  reads : List Overlap.Read := []

namespace Overlap

/-- What may happen. -/
inductive Event where
  /-- A rebuild begins. -/
  | began
  /-- The number at a place of the queue is called. -/
  | called (place : Nat)
  /-- A catalog is read for the rebuild at a place, or fails to be read. -/
  | answered (place : Nat) (reply : (query : Query) → query.Reply)
  /-- The rebuild at a place goes on with the catalog that it was given. -/
  | resumed (place : Nat)
  /-- A configured catalog changes. -/
  | changed (t : Trigger) (catalog : Json)

/-- A rebuild that has come so far takes its place. -/
def put (o : Overlap) : Rebuild.Progress → Overlap
  | .ended => { o with ended := o.ended + 1 }
  | .queued number => { o with queued := o.queued ++ [number] }
  | .waiting (.bundled t rest) =>
    { o with
      waiting := o.waiting ++ [⟨.bundled t rest, o.changes, none⟩]
      loads := o.loads ++ [t] }
  | .waiting (.configured t rest) =>
    { o with waiting := o.waiting ++ [⟨.configured t rest, o.changes, none⟩] }

/-- A rebuild that waits for a catalog comes last. -/
theorem put_waiting (o : Overlap) (rebuild : Rebuild) :
    ∃ loads, o.put (.waiting rebuild) =
      { o with waiting := o.waiting ++ [⟨rebuild, o.changes, none⟩], loads } := by
  cases rebuild with
  | bundled t rest => exact ⟨_, rfl⟩
  | configured t rest => exact ⟨o.loads, rfl⟩

/-- A rebuild begins or goes on. -/
def perform (o : Overlap) (act : Act RuleBook Rebuild.Progress) : Overlap :=
  { o with book := act.state o.book }.put (act.value o.book)

/-- What a rebuild is given: a configured catalog is given as it is, unless it fails to be read. -/
def offer (o : Overlap) (reply : (query : Query) → query.Reply) :
    (rebuild : Rebuild) → rebuild.query.Reply
  | .bundled t _ => reply (.bundled t)
  | .configured t _ => (reply (.configured t)).map fun _ => o.configured.get t

/-- What a rebuild is given enters the account. -/
def note (o : Overlap) (since : Nat) : (rebuild : Rebuild) → rebuild.query.Reply → Overlap
  | .bundled t _, (reply : Except Failure Json) => { o with loaded := o.loaded ++ [(t, reply)] }
  | .configured t _, reply => { o with reads := o.reads ++ [⟨t, since, reply⟩] }

/-- The state after an event. What cannot happen changes nothing. -/
def step (o : Overlap) : Event → Overlap
  | .began => { o with begun := o.begun ++ [o.changes] }.perform Rebuild.begin
  | .called place =>
    match o.queued[place]? with
    | none => o
    | some number => { o with queued := o.queued.eraseIdx place }.perform (Rebuild.call number)
  | .answered place reply =>
    match o.waiting[place]? with
    | some ⟨rebuild, since, none⟩ =>
      { o.note since rebuild (o.offer reply rebuild) with
        waiting := o.waiting.set place ⟨rebuild, since, some (o.offer reply rebuild)⟩ }
    | _ => o
  | .resumed place =>
    match o.waiting[place]? with
    | some ⟨rebuild, _, some reply⟩ =>
      { o with waiting := o.waiting.eraseIdx place }.perform (rebuild.resume reply)
    | _ => o
  | .changed t catalog =>
    { o with configured := o.configured.set t catalog, changes := o.changes + 1 }

/-- The state after events, one after the other. -/
def run (o : Overlap) (events : List Event) : Overlap := events.foldl step o

/-- A rebuild that waits, without the time of its question. -/
def Waiting.reading (w : Waiting) : Works.Reading := ⟨w.rebuild, w.reply?⟩

/-- The rebuilds at work. -/
def works (o : Overlap) : Works := ⟨o.book, o.waiting.map Waiting.reading, o.queued⟩

/-- The account does not matter for the rebuilds at work. -/
theorem works_perform (o : Overlap) (act : Act RuleBook Rebuild.Progress) :
    (o.perform act).works = o.works.perform act := by
  change ({ o with book := act.state o.book }.put (act.value o.book)).works =
    (Works.mk (act.state o.book) (o.waiting.map Waiting.reading) o.queued).put (act.value o.book)
  generalize act.state o.book = book
  cases act.value o.book with
  | ended => rfl
  | queued number => rfl
  | waiting rebuild =>
    obtain ⟨loads, hp⟩ := put_waiting { o with book } rebuild
    rw [hp]
    exact congrArg (Works.mk book · _) List.map_append

/-- A rebuild may be given a reply: a configured catalog as it is, unless it fails to be read. -/
def Offers (o : Overlap) : (rebuild : Rebuild) → rebuild.query.Reply → Prop
  | .bundled _ _, _ => True
  | .configured t _, reply => ∀ catalog, reply = .ok catalog → catalog = o.configured.get t

/-- What an event does while rebuilds run one at a time. -/
inductive Change (o : Overlap) : Overlap → Prop where
  | same : Change o o
  | begun : Change o ({ o with begun := o.begun ++ [o.changes] }.perform Rebuild.begin)
  | called (number : Nat) (queued : List Nat) (hq : o.queued.Perm (number :: queued)) :
    Change o ({ o with queued }.perform (Rebuild.call number))
  | answered (rebuild : Rebuild) (since : Nat) (reply : rebuild.query.Reply)
      (hw : o.waiting = [⟨rebuild, since, none⟩]) (hr : o.Offers rebuild reply) :
    Change o { o.note since rebuild reply with waiting := [⟨rebuild, since, some reply⟩] }
  | resumed (rebuild : Rebuild) (since : Nat) (reply : rebuild.query.Reply)
      (hw : o.waiting = [⟨rebuild, since, some reply⟩]) :
    Change o ({ o with waiting := [] }.perform (rebuild.resume reply))
  | changed (t : Trigger) (catalog : Json) :
    Change o { o with configured := o.configured.set t catalog, changes := o.changes + 1 }

private theorem place_of_locked {o : Overlap} (h : o.works.Locked) {place : Nat} {w : Waiting}
    (hw : o.waiting[place]? = some w) :
    o.waiting = [w] ∧ o.waiting.eraseIdx place = [] ∧ ∀ w', o.waiting.set place w' = [w'] := by
  obtain ⟨before, after, hsplit, herase, hset⟩ := exists_around hw
  have hreadings : o.works.readings =
      before.map Waiting.reading ++ w.reading :: after.map Waiting.reading := by
    rw [works, hsplit, List.map_append, List.map_cons]
  obtain ⟨hb, ha⟩ := h.eq_singleton hreadings
  rw [List.map_eq_nil_iff] at hb ha
  subst hb ha
  exact ⟨hsplit, herase, hset⟩

/-- Every event is a change. -/
theorem change_step {o : Overlap} (h : o.works.Locked) (e : Event) : Change o (o.step e) := by
  cases e with
  | began => exact .begun
  | called place =>
    simp only [step]
    split
    · exact .same
    · next number hp =>
      obtain ⟨before, after, hsplit, herase, _⟩ := exists_around hp
      refine .called number _ ?_
      rw [herase, hsplit]
      exact List.perm_middle
  | answered place reply =>
    simp only [step]
    split
    · next rebuild since hp =>
      obtain ⟨hw, _, hset⟩ := place_of_locked h hp
      rw [hset]
      refine .answered rebuild since _ hw ?_
      cases rebuild with
      | bundled t rest => trivial
      | configured t rest =>
        intro catalog hc
        change (reply (.configured t)).map (fun _ => o.configured.get t) = .ok catalog at hc
        cases hr : reply (.configured t) with
        | error cause =>
          rw [hr] at hc
          cases hc
        | ok given =>
          rw [hr] at hc
          cases hc
          rfl
    · exact .same
  | resumed place =>
    simp only [step]
    split
    · next rebuild since reply hp =>
      obtain ⟨hw, herase, _⟩ := place_of_locked h hp
      rw [herase]
      exact .resumed rebuild since reply hw
    · exact .same
  | changed t catalog => exact .changed t catalog

section Performed

variable (o : Overlap)

/-- A rebuild that is called runs or goes back to the queue. -/
theorem perform_call (number : Nat) :
    o.perform (Rebuild.call number) =
      if o.book.turn = number then o.put (.waiting (Rebuild.first o.book .tab [.request]))
      else o.put (.queued number) := by
  split
  · next h =>
    obtain ⟨hv, hs⟩ := Rebuild.call_of_eq o.book h
    rw [perform, hv, hs]
  · next h =>
    obtain ⟨hv, hs⟩ := Rebuild.call_of_ne o.book h
    rw [perform, hv, hs]

/-- A rebuild that begins takes a number and is called at once. -/
theorem perform_begin :
    o.perform Rebuild.begin =
      { o with book := { o.book with numbers := o.book.numbers + 1 } }.perform
        (Rebuild.call o.book.numbers) := rfl

/-- A rebuild that has come through all triggers ends. -/
theorem perform_next_nil :
    o.perform (Rebuild.next []) =
      { o with book := { o.book with turn := o.book.turn + 1 } }.put .ended := rfl

/-- A rebuild that comes to a trigger waits for a catalog. -/
theorem perform_next_cons (t : Trigger) (rest : List Trigger) :
    o.perform (Rebuild.next (t :: rest)) = o.put (.waiting (Rebuild.first o.book t rest)) := by
  obtain ⟨hv, hs⟩ := Rebuild.next_cons o.book t rest
  rw [perform, hv, hs]

/-- A rebuild keeps a bundled catalog and waits for the configured one. -/
theorem resumed_bundled (t : Trigger) (rest : List Trigger) (reply : Except Failure Json) :
    { o with waiting := [] }.perform (Rebuild.resume (.bundled t rest) reply) =
      { o with waiting := [], book := Rebuild.retained o.book t reply }.put
        (.waiting (.configured t rest)) := by
  obtain ⟨hv, hs⟩ := Rebuild.resume_bundled o.book t rest reply
  rw [perform, hv, hs]
  rfl

/-- A rebuild puts a configured catalog in force and goes on. -/
theorem resumed_configured (t : Trigger) (rest : List Trigger) (reply : Except Failure Json) :
    { o with waiting := [] }.perform (Rebuild.resume (.configured t rest) reply) =
      { o with waiting := [], book := Rebuild.enforced o.book t reply }.perform
        (Rebuild.next rest) := by
  obtain ⟨hv, hs⟩ := Rebuild.resume_configured o.book t rest reply
  rw [perform, hv, hs]
  rfl

end Performed

section Lock

variable {o o' : Overlap}

/-- A change is one of the rebuilds at work, where the bundled catalogs are as they were loaded. -/
theorem Change.works (source : PerTrigger (Except Failure Json)) (h : Change o o')
    (hs : ∀ t rest since (reply : Except Failure Json),
      o'.waiting = [⟨.bundled t rest, since, some reply⟩] → source.get t = reply) :
    Works.Change source o.configured.get o.works o'.works := by
  cases h with
  | same => exact .same
  | begun => exact works_perform _ _ ▸ .begun
  | called number queued hq => exact works_perform _ _ ▸ .called number queued hq
  | answered rebuild since reply hw hr =>
    have hreadings : o.works.readings = [⟨rebuild, none⟩] := congrArg (List.map _) hw
    cases rebuild with
    | bundled t rest => exact .answered [] [] _ reply hreadings (hs t rest since reply rfl).symm
    | configured t rest => exact .answered [] [] _ reply hreadings hr
  | resumed rebuild since reply hw =>
    have hreadings : o.works.readings = [⟨rebuild, some reply⟩] := congrArg (List.map _) hw
    exact works_perform _ _ ▸ .resumed [] [] rebuild reply hreadings
  | changed t catalog => exact .same

/-- Rebuilds go on one at a time. -/
theorem Change.locked (h : Change o o') (hl : o.works.Locked) : o'.works.Locked := by
  by_cases hb : ∃ t rest since, ∃ reply : Except Failure Json,
      o'.waiting = [⟨.bundled t rest, since, some reply⟩]
  · obtain ⟨t, rest, since, reply, hw⟩ := hb
    refine hl.change (h.works (.both reply) ?_)
    intro u rest' since' reply' hw'
    cases hw.symm.trans hw'
    cases t <;> rfl
  · refine hl.change (h.works (.both (.error .port)) ?_)
    intro t rest since reply hw
    exact absurd ⟨t, rest, since, reply, hw⟩ hb

/-- Rebuilds run one at a time throughout. -/
theorem locked_start (configured : PerTrigger Json) :
    ({ configured } : Overlap).works.Locked :=
  ⟨Nat.zero_le 1, fun h => absurd rfl h, Nat.le_refl 0, nofun, List.nodup_nil⟩

end Lock

/-- The tally of rebuilds, with some that have no place. -/
structure Tally (o : Overlap) (homeless : Nat) : Prop where
  numbers : o.book.numbers = o.begun.length
  turn : o.book.turn = o.ended
  total : o.begun.length = o.ended + o.waiting.length + o.queued.length + homeless

namespace Tally

variable {o o' : Overlap}

/-- A rebuild that goes on takes a place. -/
theorem put (h : o.Tally 1) {progress : Rebuild.Progress} (hp : progress ≠ .ended) :
    (o.put progress).Tally 0 := by
  have ht := h.total
  cases progress with
  | ended => exact absurd rfl hp
  | queued number =>
    refine ⟨h.numbers, h.turn, ?_⟩
    simp only [Overlap.put, List.length_append, List.length_singleton]
    omega
  | waiting rebuild =>
    obtain ⟨loads, hput⟩ := o.put_waiting rebuild
    rw [hput]
    refine ⟨h.numbers, h.turn, ?_⟩
    simp only [List.length_append, List.length_singleton]
    omega

theorem call (h : o.Tally 1) (number : Nat) : (o.perform (Rebuild.call number)).Tally 0 := by
  rw [perform_call]
  split
  · exact h.put nofun
  · exact h.put nofun

theorem next (h : o.Tally 1) (rest : List Trigger) : (o.perform (Rebuild.next rest)).Tally 0 := by
  cases rest with
  | nil =>
    rw [perform_next_nil]
    refine ⟨h.numbers, congrArg (· + 1) h.turn, ?_⟩
    have ht := h.total
    simp only [Overlap.put]
    omega
  | cons t rest =>
    rw [perform_next_cons]
    exact h.put nofun

/-- Every rebuild that began has a place. -/
theorem change (h : o.Tally 0) (hc : Change o o') : o'.Tally 0 := by
  have htotal := h.total
  cases hc with
  | same => exact h
  | begun =>
    have ht : Tally { o with
        begun := o.begun ++ [o.changes]
        book := { o.book with numbers := o.book.numbers + 1 } } 1 := by
      refine ⟨?_, h.turn, ?_⟩
      · simp only [List.length_append, List.length_singleton, h.numbers]
      · simp only [List.length_append, List.length_singleton]
        omega
    exact ht.call o.book.numbers
  | called number queued hq =>
    have hlen := hq.length_eq
    rw [List.length_cons] at hlen
    have ht : Tally { o with queued } 1 := by
      refine ⟨h.numbers, h.turn, ?_⟩
      dsimp only
      omega
    exact ht.call number
  | answered rebuild since reply hw hr =>
    rw [hw, List.length_singleton] at htotal
    cases rebuild with
    | bundled t rest => exact ⟨h.numbers, h.turn, htotal⟩
    | configured t rest => exact ⟨h.numbers, h.turn, htotal⟩
  | resumed rebuild since reply hw =>
    rw [hw, List.length_singleton] at htotal
    have ht (book : RuleBook) (hn : book.numbers = o.book.numbers)
        (ht : book.turn = o.book.turn) : Tally { o with waiting := [], book } 1 := by
      refine ⟨hn.trans h.numbers, ht.trans h.turn, ?_⟩
      simp only [List.length_nil]
      omega
    cases rebuild with
    | bundled t rest =>
      rw [resumed_bundled o t rest reply]
      exact (ht (Rebuild.retained o.book t reply) rfl rfl).put nofun
    | configured t rest =>
      rw [resumed_configured o t rest reply]
      exact (ht (Rebuild.enforced o.book t reply) rfl rfl).next rest
  | changed t catalog => exact ⟨h.numbers, h.turn, h.total⟩

end Tally

end Overlap

end BreakageAdvisor
