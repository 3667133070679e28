import LinkedSheets.Json.Shape
import LinkedSheets.Settings.Basic

/-!
# Settings from JSON

Settings are an object, in which any field may be missing, or an array of the first few fields. A
field that is not given has its standard value.
-/

namespace LinkedSheets.Settings

open Json

def shape : Shape := .struct "ReportConfig"

def putField (s : Settings) : String × Json → Except ShapeError Settings
  | (name, j) =>
      match name with
      | "title" => do return { s with title := ← j.asString }
      | "stylesheet" => do return { s with stylesheet := ← j.asOptionalString }
      | "scripts" => do return { s with scripts := ← j.asStrings }
      | "attribution_text" => do return { s with attributionText := ← j.asString }
      | "attribution_url" => do return { s with attributionUrl := ← j.asOptionalString }
      | "timestamp_format" => do return { s with timestampFormat := ← j.asString }
      | name => throw (.unknownField name fieldNames)

def ofJson : Json → Except ShapeError Settings
  | .object fields => fields.foldlM putField standard
  | .array items => do
      let settings ← (fieldNames.zip items).foldlM putField standard
      if items.length ≤ fieldNames.length then return settings else throw (.tooLong items.length)
  | j => j.wrongType shape

end LinkedSheets.Settings
