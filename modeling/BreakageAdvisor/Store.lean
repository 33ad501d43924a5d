import BreakageAdvisor.Journal
import BreakageAdvisor.Json.Reader
import BreakageAdvisor.Json.Writer

/-!
# The durable store

Domains whose users were told of a known breakage, and the ids of breakages that a user asked not
to be told of again. Either list keeps the order in which its members came. Any call may fail; a
call that fails changes nothing.
-/

namespace BreakageAdvisor

/-- The durable store. -/
structure Store where
  /-- The domains already told of, oldest first. -/
  notified : List Text := []
  /-- The ids of ignored breakages, oldest first. -/
  ignored : List Text := []
  /-- How many calls were made. -/
  calls : Nat := 0
  /-- Which calls fail, by their number and kind. -/
  fails : Nat → StoreCall → Bool := fun _ _ => false

namespace Store

/-- A list with a new member at its end; a member that it has keeps its place. -/
def adjoin (members : List Text) (t : Text) : List Text :=
  if t ∈ members then members else members ++ [t]

/-- A call to the store: it is entered in the journal, and then fails or takes effect. -/
def call {α : Type} (what : StoreCall) (answer : Store → α) (effect : Store → Store) :
    Act Store (Option α) := fun store =>
  let counted := { store with calls := store.calls + 1 }
  if store.fails store.calls what then ((none, counted), [.stored what])
  else ((some (answer store), effect counted), [.stored what])

/-- Whether a domain was told of. -/
def isNotified (domain : Text) : Act Store (Option Bool) :=
  call (.isNotified domain) (fun store => store.notified.contains domain) id

/-- Adds a domain that was told of. -/
def addNotified (domain : Text) : Act Store (Option Unit) :=
  call (.addNotified domain) (fun _ => ())
    fun store => { store with notified := adjoin store.notified domain }

/-- Removes all domains and counts them. -/
def clearNotified : Act Store (Option Nat) :=
  call .clearNotified (fun store => store.notified.length)
    fun store => { store with notified := [] }

/-- The ids of ignored breakages. -/
def listIgnored : Act Store (Option (List Text)) :=
  call .listIgnored (fun store => store.ignored) id

/-- Adds the id of an ignored breakage. -/
def addIgnored (id : Text) : Act Store (Option Unit) :=
  call (.addIgnored id) (fun _ => ())
    fun store => { store with ignored := adjoin store.ignored id }

end Store

/-!
## Preferences

Preferences keep one document for each key. The configured catalogs are kept among them.
-/

/-- The preferences: documents by key. -/
abbrev Preferences := List (Text × Text)

namespace Preferences

/-- Sets the document of a key. -/
def set (preferences : Preferences) (key document : Text) : Preferences :=
  (key, document) :: preferences.filter (·.1 != key)

/-- Removes the document of a key. -/
def erase (preferences : Preferences) (key : Text) : Preferences :=
  preferences.filter (·.1 != key)

/-- The key of the configured catalog of a kind. -/
def catalogKey (kind : Text) : Text := "dynamic_breakages." ++ kind

/-- The configured catalog of a kind, with reports. A document that is none or holds no list is an
empty catalog. -/
def catalog (preferences : Preferences) (kind : Text) : Json × List LogEntry :=
  match preferences.lookup (catalogKey kind) with
  | none => (.list [], [])
  | some document =>
    match Json.read document with
    | .ok value => (.list value.items, [])
    | .error _ => (.list [], [.storedMalformed kind])

/-- Sets the configured catalog of a kind. -/
def setCatalog (preferences : Preferences) (kind : Text) (catalog : Json) : Preferences :=
  preferences.set (catalogKey kind) (catalog.write .spaced)

/-- Removes the configured catalog of a kind. -/
def clearCatalog (preferences : Preferences) (kind : Text) : Preferences :=
  preferences.erase (catalogKey kind)

end Preferences

end BreakageAdvisor
