import BreakageAdvisor.Proofs.Bureau.Following
import BreakageAdvisor.Proofs.Bureau.Overlooked
import BreakageAdvisor.Proofs.Frame.RoundTrip
import BreakageAdvisor.Proofs.Json.Decoded

/-!
# Updates of the configured catalogs

The browser sets the configured catalog of a trigger, or removes it. A catalog that was read from a
frame is stored as a document and read again when the rules are rebuilt, and comes out as it was. So
once the rebuilds have ended, the rules of a trigger are those of its bundled catalog and of the
catalog that was set last for it, whatever was set for the other trigger.
-/

namespace BreakageAdvisor

namespace Preferences

variable (preferences : Preferences) (kind : Text)

private theorem catalog_setCatalog {entries : List Json}
    (h : (Json.list entries).Everywhere (Json.Plain Text.Unpaired)) :
    (preferences.setCatalog kind (.list entries)).catalog kind = (.list entries, []) := by
  have hread : Json.read ((Json.list entries).write .spaced) = .ok (.list entries) :=
    Json.read_write Json.Form.readable_spaced (fun t ht => ht) h
  simp only [catalog, setCatalog, set, List.lookup_cons, beq_self_eq_true, hread, Json.items]

private theorem catalog_clearCatalog :
    (preferences.clearCatalog kind).catalog kind = (.list [], []) := by
  have hl : (preferences.clearCatalog kind).lookup (catalogKey kind) = none := by
    apply List.lookup_eq_none_iff.mpr
    intro entry hm
    have hne := (List.mem_filter.mp hm).2
    simp only [bne_iff_ne] at hne
    simpa using Ne.symm hne
  simp only [catalog, hl]

end Preferences

private theorem Trigger.ofName?_eq_some_iff {name : Text} {t : Trigger} :
    ofName? name = some t ↔ name = t.name := by
  constructor
  · intro h
    rw [ofName?] at h
    have hfound := List.find?_some h
    exact (eq_of_beq hfound).symm
  · rintro rfl
    cases t <;> decide

namespace Inbound

variable {message : Fields}

private theorem ofFields_of_type (h : typeOf message = "setDynamicBreakages") :
    ofFields message = .ok (catalogOf message) := by
  simp only [ofFields, h]
  rfl

/-- A message about a catalog that is refused: it is for what is no trigger, or holds neither a list
nor null. -/
def Refused (message : Fields) : Prop :=
  (∀ t : Trigger, Fields.getD message "kind" ≠ .text t.name) ∨
    Fields.getD message "breakages" ≠ .null ∧
      ∀ entries, Fields.getD message "breakages" ≠ .list entries

/-- A message about a catalog sets or removes the catalog of the trigger that it names, or it is
refused. -/
private theorem catalogOf_cases (message : Fields) :
    (∃ (t : Trigger) (entries? : Option (List Json)),
      Fields.getD message "kind" = .text t.name ∧
        Fields.getD message "breakages" = entries?.elim .null .list ∧
        catalogOf message = .catalog t entries?) ∨
      Refused message ∧ ((∃ kind, catalogOf message = .unknownCatalog kind) ∨
        ∃ t, catalogOf message = .catalogNotList t) := by
  dsimp only [catalogOf]
  split
  · next hnone =>
    refine .inr ⟨.inl fun t hkind => ?_, .inl ⟨_, rfl⟩⟩
    rw [hkind] at hnone
    exact Option.some_ne_none t ((Trigger.ofName?_eq_some_iff.mpr rfl).symm.trans hnone)
  · next t htrigger =>
    obtain ⟨name, hname, ht⟩ := Option.bind_eq_some_iff.mp htrigger
    have hkind : Fields.getD message "kind" = .text t.name := by
      rw [← Trigger.ofName?_eq_some_iff.mp ht]
      cases hvalue : Fields.getD message "kind" with
      | text s =>
        rw [hvalue] at hname
        exact congrArg Json.text (Option.some.inj hname)
      | _ =>
        rw [hvalue] at hname
        cases hname
    split
    · next hnull => exact .inl ⟨t, none, hkind, hnull, rfl⟩
    · next entries hlist => exact .inl ⟨t, some entries, hkind, hlist, rfl⟩
    · next hnull hlist => exact .inr ⟨.inr ⟨hnull, hlist⟩, .inr ⟨t, rfl⟩⟩

private theorem getD_of_catalogOf {t : Trigger} {entries : List Json}
    (h : catalogOf message = .catalog t (some entries)) :
    Fields.getD message "breakages" = .list entries := by
  obtain ⟨u, entries?, -, hbreakages, hcatalog⟩ | ⟨-, ⟨kind, hcatalog⟩ | ⟨u, hcatalog⟩⟩ :=
    catalogOf_cases message
  · cases h.symm.trans hcatalog
    exact hbreakages
  · cases h.symm.trans hcatalog
  · cases h.symm.trans hcatalog

private theorem catalogOf_of_ofFields {t : Trigger} {entries : List Json}
    (h : ofFields message = .ok (.catalog t (some entries))) :
    catalogOf message = .catalog t (some entries) := by
  dsimp only [ofFields] at h
  split at h
  · dsimp only [replyOf] at h
    split at h
    · cases h
    · split at h <;> cases h
  split at h
  · cases h
  split at h
  · cases h
  split at h
  · obtain ⟨tab, -, h⟩ := ok_of_bind h
    cases h
  split at h
  · rw [tabActivatedOf] at h
    split at h
    · cases h
    · next value _ =>
      cases hid : tabIdOf value with
      | error cause => cases hid ▸ h
      | ok tab => cases hid ▸ h
  split at h
  · obtain ⟨tab, -, h⟩ := ok_of_bind h
    cases h
  split at h
  · exact Except.ok.inj h
  · split at h <;> cases h

/-- A message of a frame sets a catalog, in which there is no floating-point number. -/
structure Sets (t : Trigger) (entries : List Json) : Prop where
  frame : ∃ body message, Frame.decode body = .ok message ∧
    ofFields message = .ok (.catalog t (some entries))
  exact : (Json.list entries).Everywhere fun value => ∀ x, value ≠ .float x

/-- A catalog that a message of a frame sets is fit to be stored and read again. -/
theorem Sets.plain {t : Trigger} {entries : List Json} (h : Sets t entries) :
    (Json.list entries).Everywhere (Json.Plain Text.Unpaired) := by
  obtain ⟨body, message, hdecode, hmessage⟩ := h.frame
  have hlist := getD_of_catalogOf (catalogOf_of_ofFields hmessage)
  have hfield : (Text.ofString "breakages", Json.list entries) ∈ message := by
    apply Fields.mem_of_get?
    rw [Fields.getD] at hlist
    cases hget : Fields.get? message "breakages" with
    | none =>
      rw [hget] at hlist
      cases hlist
    | some value =>
      rw [hget] at hlist
      exact congrArg some hlist
  obtain ⟨-, hparts⟩ := Frame.regular_of_decode hdecode
  apply Json.plain_of_regular _ h.exact
  exact hparts _ (List.mem_map.mpr ⟨_, hfield, rfl⟩)

end Inbound

namespace Works

/-- The rules of a trigger are those of a configured catalog, and what the rebuild that runs has
read of that catalog is the same. -/
structure Rests (source : PerTrigger (Except Failure Json)) (t : Trigger) (catalog : Json)
    (w : Works) : Prop where
  inForce : w.InForce source t (.ok catalog)
  held : ∀ reply, w.held? t = some reply → reply = .ok catalog

section Rests

variable {source : PerTrigger (Except Failure Json)} {w w' : Works} {t : Trigger} {catalog : Json}

theorem Rests.current (h : w.Rests source t catalog) : w.Current source t (.ok catalog) := by
  rw [Current]
  cases hheld : w.held? t with
  | none => exact h.inForce
  | some reply => exact h.held reply hheld

private theorem Rests.of_eq (h : w.Rests source t catalog) (hr : w'.book.rules = w.book.rules)
    (hh : w'.held? t = w.held? t) : w'.Rests source t catalog := by
  refine ⟨?_, fun reply hreply => h.held reply (hh ▸ hreply)⟩
  rw [InForce, hr]
  exact h.inForce

/-- What rests stays so when a rebuild is called. -/
theorem Rests.call (h : w.Rests source t catalog) (number : Nat) :
    (w.perform (Rebuild.call number)).Rests source t catalog :=
  h.of_eq (w.unread_call number t).1 (w.unread_call number t).2

/-- A rebuild that goes on puts in force what is in force. -/
theorem Rests.resumed (h : w.Rests source t catalog) (hf : w.Faithful source) {rebuild : Rebuild}
    {reply : rebuild.query.Reply} (hr : w.readings = [⟨rebuild, some reply⟩]) :
    ((Works.mk w.book [] w.queued).perform (rebuild.resume reply)).Rests source t catalog := by
  cases rebuild with
  | bundled u rest =>
    obtain ⟨hv, hs⟩ := Rebuild.resume_bundled w.book u rest reply
    rw [perform, hv, hs]
    exact ⟨h.inForce, fun _ hheld => absurd hheld.symm (Option.some_ne_none _)⟩
  | configured u rest =>
    obtain ⟨hrules, hheld, -, -⟩ :=
      perform_next (Rebuild.enforced w.book u reply) w.queued rest t
    have hp := perform_configured w.book w.queued u rest reply
    rw [hp]
    refine ⟨?_, ?_⟩
    · rw [InForce, hrules]
      exact rules_enforced hf hr h.current
    · rw [hheld]
      exact fun _ hnone => absurd hnone.symm (Option.some_ne_none _)

end Rests

end Works

namespace Bureau

/-- The catalog of a trigger that a step sets, if it sets one. A catalog that is removed is
empty. -/
def Step.catalog? (t : Trigger) : Step → Option Json
  | received (.catalog u entries) => if u = t then some (.list (entries.getD [])) else none
  | _ => none

private theorem Step.catalog?_of_ne {t : Trigger} {s : Step}
    (h : ∀ entries, s ≠ .received (.catalog t entries)) : s.catalog? t = none := by
  cases s with
  | received inbound =>
    cases inbound with
    | catalog u entries =>
      apply if_neg
      rintro rfl
      exact h entries rfl
    | _ => rfl
  | _ => rfl

/-- The catalog of a trigger that was set last. -/
def lastCatalog (t : Trigger) (first : Json) (steps : List Step) : Json :=
  (steps.filterMap (·.catalog? t)).getLastD first

/-- A start of the activator is completed. -/
structure Completed (b : Bureau) : Prop where
  current : b.activator.current ≠ none
  starts : b.starts = []

section Steps

variable {b : Bureau} {s : Step} {t : Trigger}

/-- A start that is completed stays so until the activator is stopped. -/
theorem Completed.step (h : b.Completed) (hs : s ≠ .stopped) : (b.step s).Completed := by
  have hcurrent : (b.step s).activator.current ≠ none := current_step_ne_none hs h.current
  have hnone (n : Nat) : n ∉ b.starts := h.starts ▸ List.not_mem_nil
  refine ⟨hcurrent, List.eq_nil_iff_forall_not_mem.mpr fun n hm => ?_⟩
  cases effect_step b s with
  | idle _ _ _ hn _ => exact hnone n ((hn n).mp hm)
  | started _ _ hn => exact ((hn n).mp hm).elim (hnone n) fun hfirst => h.current hfirst.1
  | stopped he _ _ => exact hs he
  | completed number _ _ _ hn _ => exact hnone n ((hn n).mpr (.inl hm))
  | switched _ _ _ _ _ hn _ => exact hnone n ((hn n).mp hm)

private theorem stored_step (h : ∀ entries, s = .received (.catalog t (some entries)) →
    (Json.list entries).Everywhere (Json.Plain Text.Unpaired)) :
    (b.step s).stored t = (s.catalog? t).getD (b.stored t) := by
  by_cases hs : ∃ entries, s = .received (.catalog t entries)
  · obtain ⟨entries, rfl⟩ := hs
    simp only [Step.catalog?, if_true, Option.getD_some]
    cases entries with
    | none => exact congrArg Prod.fst (Preferences.catalog_clearCatalog _ t.name)
    | some entries =>
      exact congrArg Prod.fst (Preferences.catalog_setCatalog _ t.name (h entries rfl))
  · have hne : ∀ entries, s ≠ .received (.catalog t entries) := fun entries he => hs ⟨entries, he⟩
    rw [stored_step_of_ne hne, Step.catalog?_of_ne hne]
    rfl

private theorem step_refused (b : Bureau) {inbound : Inbound}
    (h : (∃ kind, inbound = .unknownCatalog kind) ∨ ∃ t, inbound = .catalogNotList t) :
    b.step (.received inbound) = b := by
  have hdue : b.due ++ [] = b.due := List.append_nil b.due
  obtain ⟨kind, rfl⟩ | ⟨t, rfl⟩ := h
  · exact congrArg (fun due => { b with due }) hdue
  · exact congrArg (fun due => { b with due }) hdue

private theorem rests_step (ho : b.Orderly) (h : b.works.Rests b.host.bundled t (b.stored t))
    (hs : s ≠ .stopped) (hf : ¬ b.Fails t s) :
    (b.step s).works.Rests b.host.bundled t (b.stored t) := by
  cases passage_step b hs with
  | idle _ hw => exact hw ▸ h
  | begun hw =>
    rw [hw, Works.perform_begin]
    apply Works.Rests.call
    exact h.of_eq rfl rfl
  | called number queued hq hw =>
    rw [hw]
    apply Works.Rests.call
    exact h.of_eq rfl rfl
  | answered before after rebuild reply _ hr ht hreads hw =>
    obtain ⟨rfl, rfl⟩ := ho.locked.eq_singleton hr
    rw [hw]
    refine ⟨h.inForce, fun held hheld => ?_⟩
    cases rebuild with
    | bundled u rest => cases hheld
    | configured u rest =>
      rw [Works.held?_of_configured rfl] at hheld
      split at hheld
      · next hu =>
        subst hu
        cases hheld
        cases held with
        | error cause => exact absurd ⟨cause, hreads u rest _ rfl⟩ hf
        | ok catalog => exact congrArg Except.ok (ht catalog rfl)
      · cases hheld
  | resumed before after rebuild reply _ hr hw =>
    obtain ⟨rfl, rfl⟩ := ho.locked.eq_singleton hr
    rw [hw]
    exact h.resumed ho.faithful hr

end Steps

section Runs

variable {b : Bureau} {steps : List Step} {t : Trigger}

theorem Completed.run (h : b.Completed) (hs : .stopped ∉ steps) : (b.run steps).Completed := by
  induction steps generalizing b with
  | nil => exact h
  | cons s rest ih =>
    obtain ⟨hne, hrest⟩ := List.ne_and_not_mem_of_not_mem_cons hs
    exact ih (h.step hne.symm) hrest

private theorem Working.not_fails {s : Step} (h : Working steps) (hm : s ∈ steps) :
    ¬ b.Fails t s := by
  rintro ⟨cause, place, replies, rest, purpose, rfl, -, hreply⟩
  have hok := h place replies hm t
  cases hread : replies (.configured t) with
  | error cause' =>
    rw [hread] at hok
    cases hok
  | ok value =>
    rw [hread] at hreply
    cases hreply

/-- The catalog of a trigger that is stored is the one that was set last. -/
theorem stored_run (h : ∀ entries, .received (.catalog t (some entries)) ∈ steps →
    (Json.list entries).Everywhere (Json.Plain Text.Unpaired)) :
    (b.run steps).stored t = lastCatalog t (b.stored t) steps := by
  induction steps generalizing b with
  | nil => rfl
  | cons s rest ih =>
    have hstep : (b.step s).stored t = (s.catalog? t).getD (b.stored t) :=
      stored_step fun entries he => h entries (he ▸ List.mem_cons_self)
    refine (ih fun entries hm => h entries (List.mem_cons_of_mem s hm)).trans ?_
    rw [hstep, lastCatalog, lastCatalog, List.filterMap_cons]
    cases s.catalog? t with
    | none => rfl
    | some catalog => exact List.getLastD_cons.symm

private theorem rests_run (ho : b.Orderly) (h : b.works.Rests b.host.bundled t (b.stored t))
    (hs : .stopped ∉ steps) (hw : Working steps)
    (hn : ∀ entries, .received (.catalog t entries) ∉ steps) :
    (b.run steps).works.Rests b.host.bundled t (b.stored t) := by
  induction steps generalizing b with
  | nil => exact h
  | cons s rest ih =>
    obtain ⟨hne, hrest⟩ := List.ne_and_not_mem_of_not_mem_cons hs
    have hstored : (b.step s).stored t = b.stored t :=
      stored_step_of_ne fun entries he => hn entries (he ▸ List.mem_cons_self)
    have hstep := rests_step ho h hne.symm (hw.not_fails List.mem_cons_self)
    have hbundled := bundled_step b s
    rw [← hstored, ← hbundled] at hstep ⊢
    refine ih (ho.step hne.symm) hstep hrest ?_ fun entries hm => ?_
    · exact fun place reply hm => hw place reply (List.mem_cons_of_mem s hm)
    · exact hn entries (List.mem_cons_of_mem s hm)

/-- No change of a catalog is missed once a start of the activator is completed. -/
private theorem not_missed_of_completed (hs : .stopped ∉ steps)
    (hc : Throughout (fun past s => (∃ entries, s = .received (.catalog t entries)) →
      (b.run past).Completed) steps) : ¬b.Missed t steps := by
  rintro ⟨past, entries, rest, rfl, ⟨before, s, after, rfl, htells⟩, hstarts⟩
  have hbefore : .stopped ∉ before := fun hm =>
    hs (List.mem_append_right _ (List.mem_cons_of_mem _ (List.mem_append_left _ hm)))
  have hchanged := (hc past _ _ rfl ⟨entries, rfl⟩).step (s := .received (.catalog t entries)) nofun
  exact hstarts before s after rfl htells (hchanged.run hbefore).starts

/-- If every catalog can be read, and none changes before a start of the activator is completed,
the rules are those of the catalogs that are stored once no rebuild is at work. -/
private theorem rests_of_idle (host : Host) (t : Trigger) {starting : List Step}
    (hs : .stopped ∉ starting ++ steps) (hw : Working (starting ++ steps))
    (hearly : ∀ entries, .received (.catalog t entries) ∉ starting)
    (hc : ((opened host).run starting).Completed)
    (hi : ((opened host).run (starting ++ steps)).Idle) :
    ((opened host).run (starting ++ steps)).works.Rests host.bundled t
      (((opened host).run (starting ++ steps)).stored t) := by
  have hsteps : .stopped ∉ steps := fun hm => hs (List.mem_append_right _ hm)
  have hcurrent : ((opened host).run (starting ++ steps)).activator.current ≠ none := by
    rw [run_append]
    exact (hc.run hsteps).current
  have hcompleted : Throughout (fun past s => (∃ entries, s = .received (.catalog t entries)) →
      ((opened host).run past).Completed) (starting ++ steps) := by
    rw [Throughout.append_iff]
    constructor
    · rintro past s rest rfl ⟨entries, rfl⟩
      exact absurd (List.mem_append_right _ List.mem_cons_self) (hearly entries)
    · rintro past s rest rfl -
      rw [run_append]
      exact hc.run fun hm => hsteps (List.mem_append_left _ hm)
  obtain ⟨before, s, after, reply, hsplit, hlast⟩ := exists_lastRead host t hs hcurrent hi
  rw [hsplit] at hs hw hi hcompleted ⊢
  have hread : reply = .ok (((opened host).run (before ++ s :: after)).stored t) := by
    by_contra hne
    rcases hlast.error_or_missed host hs hi hne with ⟨cause, rfl⟩ | hmissed
    · exact hw.not_fails (List.mem_append_right _ List.mem_cons_self) ⟨cause, hlast.reads⟩
    · have hafter : .stopped ∉ after := fun hm =>
        hs (List.mem_append_right _ (List.mem_cons_of_mem s hm))
      have hlater := throughout_after
        (P := fun b s => (∃ entries, s = .received (.catalog t entries)) → b.Completed) hcompleted
      rw [run_append] at hmissed
      exact not_missed_of_completed hafter hlater hmissed
  have hrules := hlast.rules_eq host hs hi
  rw [hread] at hrules
  refine ⟨hrules, fun held hheld => ?_⟩
  rw [Works.held?, hi.readings] at hheld
  cases hheld

end Runs

/-- Once a start of the activator is completed, messages of frames set and remove catalogs, without
floating-point numbers, and every catalog can be read. When the rebuilds have ended, the catalog
that is stored for a trigger is the one that was set last, or that which was stored when the
activator was started, and the rules are those of the bundled catalog and of this one. They stay so,
at any time, while messages are about the other trigger. A message about a catalog sets or removes
the one that it names; if it is for what is no trigger, or has neither a list nor null, it changes
nothing, and no rebuild follows. -/
theorem rules_of_lastCatalog (host : Host) {starting steps : List Step}
    (hs : .stopped ∉ starting ++ steps) (hw : Working (starting ++ steps))
    (hearly : ∀ u entries, .received (.catalog u entries) ∉ starting)
    (hc : ((opened host).run starting).Completed)
    (hsets : ∀ u entries, .received (.catalog u (some entries)) ∈ steps → Inbound.Sets u entries)
    (hi : ((opened host).run (starting ++ steps)).Idle) :
    (∀ t, ((opened host).run (starting ++ steps)).stored t =
          lastCatalog t ((opened host).stored t) steps ∧
        ((opened host).run (starting ++ steps)).host.advisor.book.rules.get t =
          Rule.ofReply (host.bundled.get t) ++
            Rule.ofCatalog (lastCatalog t ((opened host).stored t) steps).items ∧
        ∀ more, .stopped ∉ more → Working more →
          (∀ entries, .received (.catalog t entries) ∉ more) →
          ((opened host).run (starting ++ steps ++ more)).stored t =
              ((opened host).run (starting ++ steps)).stored t ∧
            ((opened host).run (starting ++ steps ++ more)).host.advisor.book.rules.get t =
              ((opened host).run (starting ++ steps)).host.advisor.book.rules.get t) ∧
      ∀ message, Inbound.typeOf message = "setDynamicBreakages" →
        (∃ (t : Trigger) (entries? : Option (List Json)),
          Fields.getD message "kind" = .text t.name ∧
            Fields.getD message "breakages" = entries?.elim .null .list ∧
            Inbound.ofFields message = .ok (.catalog t entries?)) ∨
          Inbound.Refused message ∧ ∃ inbound, Inbound.ofFields message = .ok inbound ∧
            ∀ b : Bureau, b.step (.received inbound) = b := by
  have hsteps : .stopped ∉ steps := fun hm => hs (List.mem_append_right _ hm)
  have horderly := (orderly_opened host).run hs
  refine ⟨fun t => ?_, fun message htype => ?_⟩
  · have hstored : ((opened host).run (starting ++ steps)).stored t =
        lastCatalog t ((opened host).stored t) steps := by
      have hstart : ((opened host).run starting).stored t = (opened host).stored t :=
        stored_run_of_not_mem (hearly t)
      rw [run_append, stored_run fun entries hm => (hsets t entries hm).plain, hstart]
    have hrests := rests_of_idle host t hs hw (hearly t) hc hi
    have hinForce := hrests.inForce
    have hbundled : ((opened host).run (starting ++ steps)).host.bundled = host.bundled :=
      bundled_run (opened host) (starting ++ steps)
    refine ⟨hstored, ?_, fun more hmore hworking hother => ?_⟩
    · rw [hstored] at hinForce
      exact hinForce
    · rw [run_append]
      rw [← hbundled] at hrests hinForce
      constructor
      · exact stored_run_of_not_mem hother
      · exact (rests_run horderly hrests hmore hworking hother).inForce.trans hinForce.symm
  · rw [Inbound.ofFields_of_type htype]
    refine (Inbound.catalogOf_cases message).imp ?_ ?_
    · rintro ⟨t, entries?, hkind, hbreakages, hcatalog⟩
      exact ⟨t, entries?, hkind, hbreakages, congrArg Except.ok hcatalog⟩
    · rintro ⟨hrefused, hcases⟩
      exact ⟨hrefused, _, rfl, fun b => step_refused b hcases⟩

/-- The message that sets a catalog of one site. -/
def sitesMessage (t : Trigger) : Fields :=
  [("type", .text "setDynamicBreakages"), ("kind", .text t.name), ("breakages", .list sites)]

private theorem sets_sites (t : Trigger) : Inbound.Sets t sites := by
  have hsendable : Frame.Sendable (sitesMessage t) := by
    have hplain : (Json.object (sitesMessage t)).Everywhere
        (Json.Plain fun text => text.isScalar = true) := by
      cases t <;> simp [sitesMessage, sites, Trigger.name, Json.Plain, -Prod.forall] <;> decide
    cases t with
    | tab => exact .of_length hplain rfl (by decide)
    | request => exact .of_length hplain rfl (by decide)
  obtain ⟨body, -, -, hdecode⟩ := hsendable.exists_body
  refine ⟨⟨body, sitesMessage t, hdecode, ?_⟩, by simp [sites]⟩
  cases t <;> rfl

/-- The activator is started, and its rebuild reads all catalogs. -/
def settling : List Step := [.started] ++ reads true ++ reads true ++ reads true ++ reads true

/-- A message is carried out, and the rebuild that follows reads the configured catalogs. -/
def round (inbound : Inbound) : List Step :=
  [.received inbound, .told, .began 0] ++ reads true ++ reads true

/-- The catalogs of both triggers are set, and that for requests is removed. -/
def alternation : List Step :=
  round (.catalog .tab (some sites)) ++ round (.catalog .request (some sites)) ++
    round (.catalog .request none)

/-- The catalog for tabs is in force, and there is none for requests. -/
theorem rules_of_lastCatalog_alternation :
    ((opened plain).run (settling ++ alternation)).host.advisor.book.rules.get .tab =
        Rule.ofCatalog sites ∧
      ((opened plain).run (settling ++ alternation)).host.advisor.book.rules.get .request = [] := by
  have hs : Step.stopped ∉ settling ++ alternation := by
    simp [settling, alternation, round, reads]
  have hw : Working (settling ++ alternation) := by
    have hreads : ∀ t, (readable true (.configured t)).isOk = true := fun _ => rfl
    simpa [Working, settling, alternation, round, reads] using hreads
  have hearly : ∀ u entries, .received (.catalog u entries) ∉ settling := by
    simp [settling, reads]
  have hc : ((opened plain).run settling).Completed := ⟨Option.some_ne_none _, rfl⟩
  have hsets : ∀ u entries, .received (.catalog u (some entries)) ∈ alternation →
      Inbound.Sets u entries := by
    intro u entries hm
    have hcases : u = .tab ∧ entries = sites ∨ u = .request ∧ entries = sites := by
      simpa [alternation, round, reads] using hm
    obtain ⟨rfl, rfl⟩ | ⟨rfl, rfl⟩ := hcases
    · exact sets_sites .tab
    · exact sets_sites .request
  have hi : ((opened plain).run (settling ++ alternation)).Idle :=
    ⟨rfl, rfl, fun _ => List.not_mem_nil, fun _ => List.not_mem_nil⟩
  obtain ⟨hrules, -⟩ := rules_of_lastCatalog plain hs hw hearly hc hsets hi
  exact ⟨(hrules .tab).2.1.trans rfl, (hrules .request).2.1.trans rfl⟩

end Bureau

end BreakageAdvisor
