import LinkedSheets.Settings.Basic
import LinkedSheets.Toml.Reader

/-!
# Settings files

A settings file is a TOML document with the directory for the pages and the settings of the report.
The settings are a table, under a header or not, or an array of the first few fields.
-/

namespace LinkedSheets

structure SettingsFile where
  output : Option String
  settings : Settings
deriving DecidableEq

namespace Settings

def string? : Toml → Option String
  | .string s => some s
  | _ => none

def strings? : Toml → Option (List String)
  | .array items => items.mapM string?
  | _ => none

def putToml? (s : Settings) : String × Toml → Option Settings
  | (name, v) =>
      match name with
      | "title" => (string? v).map fun x => { s with title := x }
      | "stylesheet" => (string? v).map fun x => { s with stylesheet := some x }
      | "scripts" => (strings? v).map fun xs => { s with scripts := xs }
      | "attribution_text" => (string? v).map fun x => { s with attributionText := x }
      | "attribution_url" => (string? v).map fun x => { s with attributionUrl := some x }
      | "timestamp_format" => (string? v).map fun x => { s with timestampFormat := x }
      | _ => none

/-- A field may be given under its name alone. -/
def putEntry? (s : Settings) : List String × Toml → Option Settings
  | ([name], v) => s.putToml? (name, v)
  | _ => none

/-- In an array, items beyond the last field mean nothing. -/
def ofToml? : Toml → Option Settings
  | .table entries => entries.foldlM putEntry? standard
  | .array items => (fieldNames.zip items).foldlM putToml? standard
  | _ => none

end Settings

namespace SettingsFile

/-- A file without anything in it. -/
def standard : SettingsFile := ⟨none, .standard⟩

inductive FileError where
  | toml
  | format (cause : Settings.FormatError)
deriving DecidableEq

/-- What is said about a settings file that is refused. For a document that is no settings file this
is only how it begins: the place, an excerpt and the words of whatever reads TOML come after it. -/
def FileError.message : FileError → String
  | .toml => "TOML parse error"
  | .format cause => cause.message

/-- The assignments of a document with their full paths. The only table with a header is `report`;
it has one header at most, and none if it is assigned to before. -/
def assignments? (inReport : Bool) (found : List (List String × Toml)) :
    List Toml.Statement → Option (List (List String × Toml))
  | [] => some found.reverse
  | .header path :: rest =>
      if path = ["report"] ∧ inReport = false ∧ found.all (fun e => e.1.head? ≠ some "report") then
        assignments? true found rest
      else none
  | .arrayHeader _ :: _ => none
  | .assign path value :: rest =>
      assignments? inReport ((if inReport then "report" :: path else path, value) :: found) rest

def put? (f : SettingsFile) : List String × Toml → Option SettingsFile
  | (["output"], v) => (Settings.string? v).map fun x => { f with output := some x }
  | (["report"], v) => (Settings.ofToml? v).map fun s => { f with settings := s }
  | (["report", name], v) => (f.settings.putToml? (name, v)).map fun s => { f with settings := s }
  | _ => none

def ofStatements? (statements : List Toml.Statement) : Option SettingsFile := do
  let entries ← assignments? false [] statements
  if Toml.areDisjoint (entries.map Prod.fst) then entries.foldlM put? standard else none

def read (content : String) : Except FileError SettingsFile :=
  match (Toml.read? content).bind ofStatements? with
  | none => .error .toml
  | some file =>
      match file.settings.validate with
      | .error cause => .error (.format cause)
      | .ok () => .ok file

end SettingsFile

end LinkedSheets
