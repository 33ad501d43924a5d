import BreakageAdvisor.Store

/-!
# The database

The database keeps the domains that were told of, each with its time, the ignored breakages, and
the preferences. It has no tables until it is prepared. Its texts are encoded, so a text that has no
encoding cannot be looked up or stored.
-/

namespace BreakageAdvisor

/-- A database, with the clock that gives the times of its entries. -/
structure Database where
  /-- Whether the tables are there. -/
  prepared : Bool := false
  /-- The domains that were told of, and when. -/
  notified : List (Text × Nat) := []
  ignored : List Text := []
  preferences : Preferences := []
  clock : Nat := 0
  /-- Whether the clock stands still. -/
  frozen : Bool := false

namespace Database

/-- Accesses a table with a text as argument. A table that is missing is found out first. -/
def access {α : Type} (table : Text) (argument : Text) (act : Act Database α) :
    Act Database (Except Failure α) := do
  if !(← Act.get).prepared then return .error (.missingTable table)
  match argument.encode with
  | .error error => return .error (.encoding error)
  | .ok _ => return .ok (← act)

/-- Makes the tables. -/
def prepare : Act Database Unit := Act.modify fun db => { db with prepared := true }

/-- The time of an entry: later than all before, unless the clock stands still. -/
def tick : Act Database Nat := do
  let db ← Act.get
  let now := if db.frozen then db.clock else db.clock + 1
  Act.set { db with clock := now }
  return now

/-- The table of the domains that were told of. -/
def notifiedTable : Text := "notified_domains"

/-- The table of ignored breakages. -/
def ignoredTable : Text := "ignored_breakages"

/-- The table of preferences. -/
def preferencesTable : Text := "prefs"

/-- Whether a domain was told of. -/
def isNotified (domain : Text) : Act Database (Except Failure Bool) :=
  access notifiedTable domain (Act.read fun db => db.notified.any (·.1 == domain))

/-- Adds a domain that was told of; the empty domain is passed over. -/
def addNotified (domain : Text) : Act Database (Except Failure Unit) := do
  if domain.isEmpty then return .ok ()
  let now ← tick
  access notifiedTable domain do
    Act.modify fun db =>
      if db.notified.any (·.1 == domain) then db
      else { db with notified := db.notified ++ [(domain, now)] }

/-- Whether one entry comes before another: by time, then by domain. -/
def entryBefore (a b : Text × Nat) : Bool :=
  a.2 < b.2 || a.2 == b.2 && !Text.before b.1 a.1

/-- The domains that were told of, oldest first. -/
def notifiedDomains (db : Database) : List Text :=
  (db.notified.mergeSort entryBefore).map (·.1)

/-- The domains that were told of, oldest first. -/
def listNotified : Act Database (Except Failure (List Text)) :=
  access notifiedTable [] (Act.read notifiedDomains)

/-- Removes all domains and counts them. -/
def clearNotified : Act Database (Except Failure Nat) := do
  let count := (← Act.get).notified.length
  access notifiedTable [] do
    Act.modify fun db => { db with notified := [] }
    return count

/-- The ids of ignored breakages. -/
def listIgnored : Act Database (Except Failure (List Text)) :=
  access ignoredTable [] (Act.read (·.ignored))

/-- Adds the id of an ignored breakage. -/
def addIgnored (id : Text) : Act Database (Except Failure Unit) :=
  access ignoredTable id (Act.modify fun db => { db with ignored := Store.adjoin db.ignored id })

/-- The configured catalog of a kind. -/
def catalog (kind : Text) : Act Database (Except Failure Json) :=
  access preferencesTable (Preferences.catalogKey kind) do
    let (catalog, reports) := (← Act.get).preferences.catalog kind
    reports.forM Act.report
    return catalog

/-- Changes the preferences at a key. -/
def changePreferences (key : Text) (change : Preferences → Preferences) :
    Act Database (Except Failure Unit) :=
  access preferencesTable key
    (Act.modify fun db => { db with preferences := change db.preferences })

/-- Sets the document of a key of the preferences. -/
def setPreference (key document : Text) : Act Database (Except Failure Unit) :=
  changePreferences key (·.set key document)

/-- Sets the configured catalog of a kind. -/
def setCatalog (kind : Text) (catalog : Json) : Act Database (Except Failure Unit) :=
  changePreferences (Preferences.catalogKey kind) (·.setCatalog kind catalog)

/-- Removes the configured catalog of a kind. -/
def clearCatalog (kind : Text) : Act Database (Except Failure Unit) :=
  changePreferences (Preferences.catalogKey kind) (·.clearCatalog kind)

/-- The argument of a call to the store. -/
def argument : StoreCall → Text
  | .isNotified domain => domain
  | .addNotified domain => domain
  | .addIgnored id => id
  | .clearNotified => []
  | .listIgnored => []

/-- The database as the durable store of a ledger. Calls fail whose argument has no encoding. -/
def toStore (db : Database) : Store where
  notified := db.notifiedDomains
  ignored := db.ignored
  fails _ call := !(argument call).isScalar

/-- The database after a ledger changed the store. -/
def withStore (db : Database) (store : Store) : Database :=
  { db with
    notified := store.notified.zipIdx
    ignored := store.ignored
    clock := store.notified.length }

end Database

end BreakageAdvisor
