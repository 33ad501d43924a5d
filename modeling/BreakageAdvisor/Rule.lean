import BreakageAdvisor.Log
import BreakageAdvisor.Message

/-!
# Rules

A rule says that some domains are known to break, under a condition, and with which message the
user is told. Rules are built from the entries of catalogs; entries that can match nothing are
skipped with a report.
-/

namespace BreakageAdvisor

/-- A known breakage. The condition is kept as it was written and read when it is needed. -/
structure Rule where
  id : Option Text
  domains : List Text
  message : Message
  condition : Json

namespace Rule

/-- The texts that are true values, each once. -/
def domainsOf (items : List Json) : List Text :=
  ((items.filter (·.truthy)).map (·.display)).eraseDups

/-- The rule of a catalog entry, or the report why there is none. -/
def ofEntry : Json → Except LogEntry Rule
  | .object fields =>
    match Fields.getD fields "domains" with
    | .list domains =>
      let id := match Fields.getD fields "id" with
        | .null => none
        | value => some value.display
      .ok ⟨id, domainsOf domains, .ofJson (Fields.getD fields "message"),
        Fields.getD fields "condition"⟩
    | _ => .error (.domainsMissing (Fields.getD fields "id"))
  | entry => .error (.entryNotObject entry)

/-- The rules of a catalog in order, and the reports on the entries that were skipped. -/
def build : List Json → List Rule × List LogEntry
  | [] => ([], [])
  | entry :: rest =>
    let (rules, reports) := build rest
    match ofEntry entry with
    | .ok rule => (rule :: rules, reports)
    | .error report => (rules, report :: reports)

/-- The rules and reports of a value with entries: a list, the keys of an object, or the code points
of a text. -/
def ofValue : Json → Except Failure (List Rule × List LogEntry)
  | .list entries => .ok (build entries)
  | .object fields => .ok (build (fields.map fun field => .text field.1))
  | .text t => .ok (build (t.map fun c => .text [c]))
  | value => .error (.notIterable value.kind)

/-- The rules of a catalog. -/
def ofCatalog (entries : List Json) : List Rule := (build entries).1

/-- Whether a rule lists a domain. -/
def lists (rule : Rule) (domain : Text) : Bool := rule.domains.contains domain

/-- The first rule that lists a domain. -/
def find? (rules : List Rule) (domain : Text) : Option Rule := rules.find? (·.lists domain)

/-- The id of a rule, or another text for a rule without one. -/
def labelOr (rule : Rule) (other : Text) : Text :=
  match rule.id with
  | some id => if id.isEmpty then other else id
  | none => other

end Rule

end BreakageAdvisor
