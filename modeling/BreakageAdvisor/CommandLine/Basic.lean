import BreakageAdvisor.CommandLine.Grammar
import BreakageAdvisor.Trigger

/-!
# Commands

The commands of the program: serving the browser, the ledger of domains that were told of, and the
catalogs of known breakages.
-/

namespace BreakageAdvisor

/-- A command. -/
inductive Command where
  | run
  | listLedger
  | clearLedger
  /-- Shows the rules for some triggers. -/
  | showRules (triggers : List Trigger)
  /-- Stores the catalog in a file as the configured one for a trigger. -/
  | setCatalog (trigger : Trigger) (file : Text)
  /-- Removes the configured catalogs for some triggers. -/
  | clearCatalogs (triggers : List Trigger)
  deriving Repr

namespace Command

/-- The name of the program. -/
def program : Text := "breakwatch"

/-- The grammar of the whole program. -/
def grammar : Grammar where
  program := program
  positionals := [⟨"command", .command, some ["run", "ledger", "breakages"]⟩]

/-- The grammar of the command that serves the browser. -/
def runGrammar : Grammar where
  program := program ++ " run"

/-- The grammar of the command for the ledger. -/
def ledgerGrammar : Grammar where
  program := program ++ " ledger"
  positionals := [⟨"action", .one, some ["list", "clear"]⟩]

/-- The grammar of the command for catalogs. -/
def breakagesGrammar : Grammar where
  program := program ++ " breakages"
  options := [⟨"--kind", Trigger.all.map (·.name)⟩]
  positionals :=
    [⟨"action", .one, some ["show", "set", "clear"]⟩, ⟨"file", .optional, none⟩]

/-- Refuses words that nothing takes. -/
def refuseExtra (extra : List Text) : Except CommandLineStop Unit :=
  if extra.isEmpty then .ok ()
  else .error (.usage program ("unrecognized arguments: " ++ Text.join " " extra))

/-- The command for catalogs that was found. -/
def ofBreakages (found : Grammar.Found) : Except CommandLineStop Command :=
  let trigger? := (found.values.lookup (Text.ofString "--kind")).bind Trigger.ofName?
  let triggers := match trigger? with
    | some trigger => [trigger]
    | none => Trigger.all
  let action := (found.word? "action").getD []
  if action = "set" then
    match trigger?, found.word? "file" with
    | some trigger, some (c :: rest) => .ok (.setCatalog trigger (c :: rest))
    | _, _ => .error (.usage program "breakages set requires --kind and a file")
  else if action = "clear" then .ok (.clearCatalogs triggers)
  else .ok (.showRules triggers)

/-- Reads the words behind the name of a command, by a grammar. Words that nothing takes are
refused, those in front of the name first. -/
def readBehind (g : Grammar) (extra words : List Text) :
    Except CommandLineStop Grammar.Found := do
  let found ← g.read words
  refuseExtra (extra ++ found.extra)
  return found

/-- Reads a command line. Without a command the browser is served. -/
def read (words : List Text) : Except CommandLineStop Command := do
  let found ← grammar.read words
  match found.wordsOf "command" with
  | [] => do
    refuseExtra found.extra
    return .run
  | name :: rest =>
    if name = "ledger" then do
      let inner ← readBehind ledgerGrammar found.extra rest
      return if inner.word? "action" = some (Text.ofString "clear") then .clearLedger
        else .listLedger
    else if name = "breakages" then do
      ofBreakages (← readBehind breakagesGrammar found.extra rest)
    else do
      let _ ← readBehind runGrammar found.extra rest
      return .run

end Command

end BreakageAdvisor
