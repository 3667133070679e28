import LinkedSheets.Text.Quoted
import LinkedSheets.Time.Format

/-!
# Report settings

What all pages of a report have in common besides the workbook.
-/

namespace LinkedSheets

structure Settings where
  /-- The heading of a workbook that has no title of its own. -/
  title : String
  stylesheet : Option String
  scripts : List String
  attributionText : String
  attributionUrl : Option String
  timestampFormat : String
deriving DecidableEq

namespace Settings

def standard : Settings where
  title := "Spreadsheet"
  stylesheet := some "application.css"
  scripts := ["jquery.min.js", "application.js"]
  attributionText := "gridview"
  attributionUrl := none
  timestampFormat := "%Y-%m-%d %H:%M:%S %z"

/-- The fields as they are written, in their order. -/
def fieldNames : List String :=
  ["title", "stylesheet", "scripts", "attribution_text", "attribution_url", "timestamp_format"]

/-- A format with an unknown directive. -/
structure FormatError where
  format : String
deriving DecidableEq

def FormatError.message (e : FormatError) : String :=
  "Invalid configuration: invalid timestamp_format " ++ Text.quoted e.format

/-- Refuses a timestamp format with an unknown directive. -/
def validate (s : Settings) : Except FormatError Unit :=
  if TimeFormat.isValid s.timestampFormat then .ok () else .error ⟨s.timestampFormat⟩

end Settings

end LinkedSheets
