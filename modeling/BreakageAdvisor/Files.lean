import BreakageAdvisor.Failure

/-!
# Files

The files of a directory, and documents read from them.
-/

namespace BreakageAdvisor

/-- The files of a directory, by name. -/
abbrev Files := List (Text × Bytes)

namespace Files

/-- The names that a path goes through, without those that stay in place. -/
def names (path : Text) : List Text :=
  (Text.splitWhere (fun c : CodePoint => c == '/') path).filter
    fun name => !name.isEmpty && name != Text.ofString "."

/-- The bytes of the file at a path. -/
def bytes (files : Files) (path : Text) : Except Failure Bytes :=
  let names := names path
  match files.find? (fun file => Files.names file.1 == names) with
  | some file => .ok file.2
  | none =>
    if !path.isEmpty && files.any (fun file => names.isPrefixOf (Files.names file.1))
        || !path.isEmpty && names.isEmpty then .error (.isDirectory path)
    else .error (.missingFile path)

/-- The text of the file at a path. Every kind of line end counts as a line feed. -/
def text (files : Files) (path : Text) : Except Failure Text := do
  match Text.decode (← files.bytes path) with
  | .ok text => return text.unifyNewlines
  | .error error => throw (.decoding error)

/-- The JSON document in the file at a path. -/
def document (files : Files) (path : Text) : Except Failure Json := do
  match Json.read (← files.text path) with
  | .ok value => return value
  | .error error => throw (.document error)

end Files

/-- The paths of catalogs, by kind. -/
abbrev CatalogPaths := List (Text × Text)

namespace CatalogPaths

/-- The catalog of a kind: a list, and empty if the kind has no path or its document is no
list. -/
def load (paths : CatalogPaths) (files : Files) (kind : Text) : Except Failure Json :=
  match paths.lookup kind with
  | none => .ok (.list [])
  | some [] => .ok (.list [])
  | some path => (files.document path).map fun value => .list value.items

end CatalogPaths

end BreakageAdvisor
