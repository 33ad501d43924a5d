import BreakageAdvisor.CommandLine.Workplace
import BreakageAdvisor.Proofs.Bureau.Rebuilds
import BreakageAdvisor.Proofs.Host.Standing
import Mathlib.Data.List.Lex
import Mathlib.Order.Fin.Basic

/-!
# Shown rules

The rules that the command line shows are loaded on another way than those that a host puts in
force: the command line reads the files and the database itself, one trigger after the other, while
a host asks for the catalogs through a rebuild. Both come to the same rules in the same order,
whatever the files and the database hold.
-/

namespace BreakageAdvisor

/-- The order of texts is that of their code points. -/
private theorem Text.before_iff {s t : Text} : s.before t = true ↔ s < t := by
  induction s generalizing t with
  | nil => cases t <;> simp [before]
  | cons a s ih =>
    cases t with
    | nil => simp [before]
    | cons b t =>
      rw [before, List.cons_lt_cons_iff]
      by_cases h : a = b <;> simp [h, ih]

/-- The rules in force for a trigger, each with its origin: first the bundled ones, then the
configured ones. -/
def RuleBook.marked (book : RuleBook) (t : Trigger) : List (Text × Rule) :=
  let bundled := (book.bundled.get t).getD []
  bundled.map (("static" : Text), ·) ++
    ((book.rules.get t).drop bundled.length).map (("dynamic" : Text), ·)

namespace Host

/-- A host with a rule book. -/
def withBook (host : Host) (book : RuleBook) : Host :=
  { host with advisor := { host.advisor with book } }

/-- What a host gives a rebuild to read. -/
def given (host : Host) : (rebuild : Rebuild) → rebuild.query.Reply
  | .bundled t _ => host.bundled.get t
  | .configured t _ => .ok (host.preferences.catalog t.name).1

/-- A task that rebuilds the rules and has come so far. -/
def rebuilding : Rebuild.Progress → Task.Progress
  | .ended => .ended .done
  | .queued number => .queued number .rules
  | .waiting rebuild => .waiting (.rebuilding rebuild .rules)

section Rebuilding

variable (host : Host) (book : RuleBook)

private theorem ask_rebuilding (rebuild : Rebuild) :
    (ask (.rebuilding rebuild .rules)).value host = some (host.given rebuild) ∧
      (ask (.rebuilding rebuild .rules)).state host = host := by
  cases rebuild with
  | bundled t rest => exact ⟨rfl, rfl⟩
  | configured t rest => exact ⟨rfl, Act.state_forM_report _ host⟩

private theorem rebuilt_rules (setting : Setting) (progress : Rebuild.Progress) :
    Advisor.rebuilt setting .rules progress = pure (rebuilding progress) := by
  cases progress <;> rfl

private theorem proceed_rebuilding (rebuild : Rebuild) :
    (proceed (rebuilding (.waiting rebuild))).state (host.withBook book) =
      (proceed (rebuilding ((rebuild.resume (host.given rebuild)).value book))).state
        (host.withBook ((rebuild.resume (host.given rebuild)).state book)) := by
  obtain ⟨hv, hs⟩ := ask_rebuilding (host.withBook book) rebuild
  have hgiven : (host.withBook book).given rebuild = host.given rebuild := by
    cases rebuild <;> rfl
  have hresume (setting : Setting) :
      Advisor.resume setting (.rebuilding rebuild .rules) (host.given rebuild) =
        Advisor.onBook (rebuild.resume (host.given rebuild)) >>= fun progress =>
          pure (rebuilding progress) := by
    simp only [Advisor.resume, rebuilt_rules]
  rw [rebuilding, proceed_waiting, Act.state_bind, hv, hs, hgiven]
  simp only [hresume]
  rfl

private theorem proceed_bundled (t : Trigger) (rest : List Trigger) :
    (proceed (rebuilding (.waiting (.bundled t rest)))).state (host.withBook book) =
      (proceed (rebuilding (.waiting (.configured t rest)))).state
        (host.withBook (Rebuild.retained book t (host.bundled.get t))) := by
  obtain ⟨hv, hs⟩ := Rebuild.resume_bundled book t rest (host.bundled.get t)
  exact (proceed_rebuilding host book _).trans
    (congrArg₂ (fun progress book => (proceed (rebuilding progress)).state (host.withBook book))
      hv hs)

private theorem proceed_configured (t : Trigger) (rest : List Trigger) :
    let book' := Rebuild.enforced book t (.ok (host.preferences.catalog t.name).1)
    (proceed (rebuilding (.waiting (.configured t rest)))).state (host.withBook book) =
      (proceed (rebuilding ((Rebuild.next rest).value book'))).state
        (host.withBook ((Rebuild.next rest).state book')) := by
  obtain ⟨hv, hs⟩ := Rebuild.resume_configured book t rest
    (.ok (host.preferences.catalog t.name).1)
  exact (proceed_rebuilding host book _).trans
    (congrArg₂ (fun progress book => (proceed (rebuilding progress)).state (host.withBook book))
      hv hs)

/-- The rule book after the catalogs of a trigger were read. -/
def renewed (t : Trigger) : RuleBook :=
  Rebuild.enforced (Rebuild.retained book t (host.bundled.get t)) t
    (.ok (host.preferences.catalog t.name).1)

private theorem proceed_next (rest : List Trigger) (hd : rest.Nodup)
    (hn : ∀ t ∈ rest, book.bundled.get t = none) :
    (proceed (rebuilding ((Rebuild.next rest).value book))).state
        (host.withBook ((Rebuild.next rest).state book)) =
      let last := rest.foldl host.renewed book
      host.withBook { last with turn := last.turn + 1 } := by
  induction rest generalizing book with
  | nil =>
    obtain ⟨hv, hs⟩ := Rebuild.next_nil book
    have hended : proceed (.ended .done) = pure () := proceed_of_ne nofun
    rw [hv, hs, rebuilding, hended]
    rfl
  | cons t rest ih =>
    obtain ⟨hnew, hrest⟩ := List.nodup_cons.mp hd
    obtain ⟨hv, hs⟩ := Rebuild.next_cons book t rest
    have hfirst : Rebuild.first book t rest = .bundled t rest := by
      rw [Rebuild.first, hn t List.mem_cons_self]
    rw [hv, hs, hfirst, proceed_bundled, proceed_configured]
    refine ih (host.renewed book t) hrest fun u hu => ?_
    have hne : u ≠ t := fun he => hnew (he ▸ hu)
    exact (PerTrigger.get_set_of_ne _ _ hne).trans (hn u (List.mem_cons_of_mem t hu))

/-- The rules of the configured catalog of a trigger. -/
def configuredRules (t : Trigger) : List Rule :=
  Rule.ofCatalog (host.preferences.catalog t.name).1.items

/-- A host that rebuilds its rules for the first time has those of its bundled catalogs in force,
and behind them those of the configured ones. -/
private theorem book_rebuild (hb : host.advisor.book = {}) (t : Trigger) :
    let book := ((run Advisor.rebuild).state host).advisor.book
    book.bundled.get t = some (Rule.ofReply (host.bundled.get t)) ∧
      book.rules.get t = Rule.ofReply (host.bundled.get t) ++ host.configuredRules t := by
  have hrun : (run Advisor.rebuild).state host =
      (proceed (rebuilding (Rebuild.begin.value host.advisor.book))).state
        (host.withBook (Rebuild.begin.state host.advisor.book)) := by
    have hrebuild (setting : Setting) : Advisor.rebuild setting =
        Advisor.onBook Rebuild.begin >>= fun progress => pure (rebuilding progress) := by
      simp only [Advisor.rebuild, rebuilt_rules]
    simp only [run, hrebuild]
    rfl
  have hnext := proceed_next host { numbers := 1 } Trigger.all (by decide) (by
    intro u _
    cases u <;> rfl)
  rw [hb] at hrun
  rw [hrun.trans hnext]
  cases t <;> exact ⟨rfl, rfl⟩

end Rebuilding

end Host

namespace Workplace

variable (workplace : Workplace)

private theorem rules_bundled (t : Trigger) :
    Rule.ofCatalog ((bundled t).value workplace).items =
      Rule.ofReply (workplace.catalogs.load workplace.files t.name) := by
  rw [bundled, Act.value_get_bind]
  cases workplace.catalogs.load workplace.files t.name <;> rfl

private theorem state_bundled (t : Trigger) : (bundled t).state workplace = workplace := by
  rw [bundled, Act.state_get_bind]
  cases workplace.catalogs.load workplace.files t.name <;> rfl

private theorem onDatabase_catalog (hp : workplace.database.prepared = true) (t : Trigger) :
    (onDatabase (Database.catalog t.name)).value workplace =
        .ok (workplace.database.preferences.catalog t.name).1 ∧
      (onDatabase (Database.catalog t.name)).state workplace = workplace := by
  obtain ⟨bytes, hbytes⟩ : ∃ bytes, (Preferences.catalogKey t.name).encode = .ok bytes := by
    cases t <;> exact ⟨_, rfl⟩
  have haccess {α : Type} (act : Act Database α) :
      (Database.access Database.preferencesTable (Preferences.catalogKey t.name) act).value
          workplace.database = .ok (act.value workplace.database) ∧
        (Database.access Database.preferencesTable (Preferences.catalogKey t.name) act).state
          workplace.database = act.state workplace.database := by
    simp only [Database.access, Act.value_get_bind, Act.state_get_bind, hp, hbytes]
    exact ⟨rfl, rfl⟩
  refine ⟨(haccess _).1, ?_⟩
  rw [onDatabase, Act.state_onPart, Database.catalog, (haccess _).2]
  exact congrArg (fun database => { workplace with database }) (Act.state_forM_report _ _)

private theorem ruleLines_eq (t : Trigger) (origin : Text) (catalog : Json) :
    (ruleLines t origin catalog).value workplace =
        (Rule.ofCatalog catalog.items).map (ruleLine t origin) ∧
      (ruleLines t origin catalog).state workplace = workplace :=
  ⟨rfl, Act.state_forM_report _ workplace⟩

/-- A line shows a rule: in brackets the trigger and the origin of the rule, then its id or a dash
if it has none, in parentheses its domains in their order, and the text of its message. -/
def Shows (t : Trigger) (origin : Text) (rule : Rule) (line : Text) : Prop :=
  ∃ label domains message : Text,
    (rule.id = some label ∧ label ≠ [] ∨ (rule.id = none ∨ rule.id = some []) ∧ label = "-") ∧
    (∃ sorted : List Text, sorted.Perm rule.domains ∧ sorted.Pairwise (· ≤ ·) ∧
      domains = List.intercalate ", " sorted) ∧
    (rule.message = .plain message ∨
      ∃ parts, rule.message = .rich parts ∧ message = parts.flatMap (·.text)) ∧
    line = "[" ++ t.name ++ "/" ++ origin ++ "] " ++ label ++ " (" ++ domains ++ "): " ++ message

private theorem value_showRules (hp : workplace.database.prepared = true)
    (triggers : List Trigger) :
    (showRules triggers).value workplace = .ok (triggers.flatMap fun t =>
      (Rule.ofReply (workplace.catalogs.load workplace.files t.name)).map (ruleLine t "static") ++
        (workplace.host.configuredRules t).map (ruleLine t "dynamic")) := by
  induction triggers with
  | nil => rfl
  | cons t rest ih =>
    obtain ⟨hv, hs⟩ := onDatabase_catalog workplace hp t
    have hlines (origin : Text) (catalog : Json) := ruleLines_eq workplace t origin catalog
    simp only [showRules, Act.value_bind, state_bundled, hv, hs, (hlines _ _).1,
      (hlines _ _).2, ih, rules_bundled]
    rfl

private theorem marked_rebuild (t : Trigger) :
    let book := ((Host.run Advisor.rebuild).state workplace.host).advisor.book
    book.rules.get t = (book.marked t).map (·.2) ∧
      book.marked t =
        (Rule.ofReply (workplace.catalogs.load workplace.files t.name)).map
            (("static" : Text), ·) ++
          (workplace.host.configuredRules t).map (("dynamic" : Text), ·) := by
  intro book
  obtain ⟨hbundled, hrules⟩ := Host.book_rebuild workplace.host rfl t
  have hload : workplace.host.bundled.get t =
      workplace.catalogs.load workplace.files t.name := by cases t <;> rfl
  have hmarked : book.marked t =
      (Rule.ofReply (workplace.host.bundled.get t)).map (("static" : Text), ·) ++
        (workplace.host.configuredRules t).map (("dynamic" : Text), ·) := by
    simp only [RuleBook.marked, book, hbundled, hrules, Option.getD_some, List.drop_left]
  refine ⟨?_, hload ▸ hmarked⟩
  rw [hmarked]
  simp only [book, hrules, List.map_append, List.map_map, Function.comp_def, List.map_id']

/-- Texts are joined as lists are. -/
private theorem join_eq_intercalate (separator : Text) (texts : List Text) :
    Text.join separator texts = List.intercalate separator texts := by
  induction texts with
  | nil => rfl
  | cons t rest ih =>
    cases rest with
    | nil => simp [Text.join]
    | cons u rest => simp [Text.join, ih]

private theorem sorted_domains (domains : List Text) :
    (domains.mergeSort fun a b => !Text.before b a).Pairwise (· ≤ ·) := by
  have hle (a b : Text) : (!Text.before b a) = decide (a ≤ b) := by
    rw [Bool.eq_iff_iff, Bool.not_eq_true', ← Bool.not_eq_true, Text.before_iff,
      decide_eq_true_iff, not_lt]
  have hsorted : (domains.mergeSort fun a b => decide (a ≤ b)).Pairwise
      fun a b => decide (a ≤ b) = true :=
    List.pairwise_mergeSort
      (fun a b c hab hbc => decide_eq_true ((of_decide_eq_true hab).trans (of_decide_eq_true hbc)))
      (fun a b => by simpa using le_total a b) domains
  simp only [hle]
  exact hsorted.imp of_decide_eq_true

private theorem shows_ruleLine (t : Trigger) (origin : Text) (rule : Rule) :
    Shows t origin rule (ruleLine t origin rule) := by
  refine ⟨rule.labelOr "-", Text.join ", " (rule.domains.mergeSort fun a b => !Text.before b a),
    rule.message.toText, ?_, ⟨_, List.mergeSort_perm _ _, sorted_domains _,
      join_eq_intercalate _ _⟩, ?_, rfl⟩
  · cases hid : rule.id with
    | none => exact .inr ⟨.inl rfl, by rw [Rule.labelOr, hid]⟩
    | some id =>
      cases id with
      | nil => exact .inr ⟨.inr rfl, by rw [Rule.labelOr, hid]; rfl⟩
      | cons c id => exact .inl ⟨by rw [Rule.labelOr, hid]; rfl, by rw [Rule.labelOr, hid]; simp⟩
  · cases hmessage : rule.message with
    | plain text => exact .inl (by simp [Message.toText, Message.parts])
    | rich parts => exact .inr ⟨parts, rfl, by simp [Message.toText, Message.parts]⟩

private theorem Shows.eq_ruleLine {t : Trigger} {origin : Text} {rule : Rule} {line : Text}
    (h : Shows t origin rule line) : line = ruleLine t origin rule := by
  obtain ⟨label, domains, message, hlabel, ⟨sorted, hperm, hsorted, rfl⟩, hmessage, rfl⟩ := h
  obtain rfl : label = rule.labelOr "-" := by
    rcases hlabel with ⟨hid, hne⟩ | ⟨hid | hid, rfl⟩
    · simp [Rule.labelOr, hid, hne]
    · simp [Rule.labelOr, hid]
    · simp [Rule.labelOr, hid]
  obtain rfl : message = rule.message.toText := by
    rcases hmessage with hplain | ⟨parts, hrich, rfl⟩
    · simp [Message.toText, Message.parts, hplain]
    · simp [Message.toText, Message.parts, hrich]
  have hdomains : sorted = rule.domains.mergeSort fun a b => !Text.before b a :=
    List.Perm.eq_of_pairwise (fun _ _ _ _ => le_antisymm) hsorted (sorted_domains _)
      (hperm.trans (List.mergeSort_perm _ _).symm)
  rw [ruleLine, hdomains, ← join_eq_intercalate]

/-- The command that shows rules succeeds and writes, trigger by trigger, one line for each rule
that a host with the same files and database has in force once it has rebuilt its rules, in the
order of the host: with one mark as far as the host has them from the bundled catalog, and with
another behind. -/
theorem shows_rules_in_force (workplace : Workplace) (stream : ByteStream) :
    let book := ((Host.run Advisor.rebuild).state workplace.host).advisor.book
    (∀ t, book.rules.get t = (book.marked t).map (·.2)) ∧
      (∀ words triggers, Command.read words = .ok (.showRules triggers) →
        ∃ lines, (main words stream).value workplace =
            .ok { exit := 0, output := lines.flatMap (· ++ "\n"), complaint := none } ∧
          List.Forall₂ (fun shown line => Shows shown.1 shown.2.1 shown.2.2 line)
            (triggers.flatMap fun t => (book.marked t).map (t, ·)) lines) ∧
      Command.read ["breakages", "show", "--kind", "tab"] = .ok (.showRules [.tab]) ∧
      Command.read ["breakages", "show", "--kind", "request"] = .ok (.showRules [.request]) ∧
      Command.read ["breakages", "show"] = .ok (.showRules [.tab, .request]) := by
  intro book
  refine ⟨fun t => (marked_rebuild workplace t).1, ?_, rfl, rfl, rfl⟩
  intro words triggers hread
  have hprepared : ((onDatabase Database.prepare).state workplace).database.prepared = true := rfl
  have hshown := value_showRules _ hprepared triggers
  let lines := (triggers.flatMap fun t => (book.marked t).map (t, ·)).map
    fun shown => ruleLine shown.1 shown.2.1 shown.2.2
  have hlines : lines = triggers.flatMap fun t =>
      (Rule.ofReply (workplace.catalogs.load workplace.files t.name)).map (ruleLine t "static") ++
        (workplace.host.configuredRules t).map (ruleLine t "dynamic") := by
    simp only [lines, List.map_flatMap, List.map_map]
    refine congrArg (List.flatMap · triggers) (funext fun t => ?_)
    simp only [book, (marked_rebuild workplace t).2, List.map_append, List.map_map,
      Function.comp_def]
  refine ⟨lines, ?_, List.forall₂_map_right_iff.mpr (List.forall₂_same.mpr fun _ _ =>
    shows_ruleLine _ _ _)⟩
  rw [hlines]
  simp only [main, hread, carryOut, Act.value_bind, hshown]
  rfl

/-- A workplace with a bundled catalog and a configured one for tabs. -/
def library : Workplace where
  files := [("tab.json",
    "[\x7b\"id\":\"r\",\"domains\":[\"a.com\"],\"message\":\"m\"\x7d]".toList.map fun c =>
      c.toNat.toUInt8)]
  catalogs := [("tab", "tab.json")]
  database := { preferences := [(Preferences.catalogKey "tab",
    "[\x7b\"domains\":[\"b.com\"],\"message\":[\x7b\"text\":\"n\"\x7d]\x7d]")] }

/-- Both rules are shown, the bundled one first. -/
theorem shows_rules_in_force_library :
    (main ["breakages", "show", "--kind", "tab"] { rest := [] }).value library =
      .ok { output := "[tab/static] r (a.com): m\n[tab/dynamic] - (b.com): n\n" } := by
  obtain ⟨-, hshows, htab, -, -⟩ := shows_rules_in_force library { rest := [] }
  obtain ⟨lines, hmain, hlines⟩ := hshows _ _ htab
  have hmarked : (((Host.run Advisor.rebuild).state library.host).advisor.book.marked .tab).map
        (fun marked => (marked.1, marked.2.id, marked.2.domains, marked.2.message)) =
      [(("static" : Text), some ("r" : Text), [("a.com" : Text)], .plain "m"),
        (("dynamic" : Text), none, [("b.com" : Text)], .rich [⟨"n", false⟩])] := by
    rw [(marked_rebuild library .tab).2]
    decide +kernel
  obtain ⟨bundled, rest, heq, hbundled, hrest⟩ := List.map_eq_cons_iff.mp hmarked
  obtain ⟨configured, last, rfl, hconfigured, hlast⟩ := List.map_eq_cons_iff.mp hrest
  rw [List.flatMap_singleton, heq, List.map_eq_nil_iff.mp hlast] at hlines
  simp only [Prod.mk.injEq] at hbundled hconfigured
  obtain ⟨horigin, hid, hdomains, hmessage⟩ := hbundled
  obtain ⟨horigin', hid', hdomains', hmessage'⟩ := hconfigured
  cases hlines with
  | cons hfirst hlines =>
    cases hlines with
    | cons hsecond hlines =>
      cases hlines
      rw [hmain, hfirst.eq_ruleLine, hsecond.eq_ruleLine]
      simp only [ruleLine, Rule.labelOr, horigin, hid, hdomains, hmessage, horigin', hid',
        hdomains', hmessage', List.mergeSort_singleton]
      rfl

end Workplace

end BreakageAdvisor
