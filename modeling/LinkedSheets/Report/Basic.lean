import LinkedSheets.Dimensions
import LinkedSheets.Formula.Rendering
import LinkedSheets.Log
import LinkedSheets.Markup.Escape
import LinkedSheets.Settings.Basic
import LinkedSheets.Workbook

/-!
# Reports

A report is a workbook with all that its pages show besides it: settings, a title, a time, and the
recorded dimensions, which give the order of the sheets in the navigation if there are any. What is
recorded about the extent of a sheet never changes its page; it is only compared with the data.
-/

namespace LinkedSheets

open Text

structure Report where
  workbook : Workbook
  dimensions : Dimensions
  settings : Settings
  title : String
  moment : Moment

/-- Why a page cannot be made. -/
inductive ReportError where
  | unknownSheet (name : String)
  | reference (sheet : String) (cause : RefError)
  | gridTooLarge (sheet : String) (cells : UInt64)
  | format (cause : Settings.FormatError)
  | fileName (sheet : String)
deriving DecidableEq

namespace ReportError

def message : ReportError → String
  | .unknownSheet name => "Unknown sheet: " ++ name
  | .reference sheet _ => "Bad cell reference in sheet '" ++ sheet ++ "'"
  | .gridTooLarge sheet cells =>
      "Sheet '" ++ sheet ++ "' spans " ++ natText cells.toNat ++
        " cells, more than a report can hold"
  | .format cause => cause.message
  | .fileName sheet =>
      "Invalid workbook: sheet name " ++ quoted sheet ++ " cannot be used as a file name"

/-- The message with that of what caused it. -/
def fullMessage : ReportError → String
  | .reference sheet cause => (reference sheet cause).message ++ ": " ++ cause.message
  | e => e.message

end ReportError

namespace Report

/-- A workbook with a title of its own goes by that. -/
def ofWorkbook (w : Workbook) (settings : Settings) (moment : Moment) : Report where
  workbook := w
  dimensions := .empty
  settings := settings
  title := w.title.getD settings.title
  moment := moment

/-- The names that the navigation lists. -/
def navigation (r : Report) : List String :=
  if r.dimensions.keys.isEmpty then r.workbook.names else r.dimensions.keys

def warning (message : String) : LogEntry := ⟨.warn, message⟩

def noValues (sheet : String) : LogEntry :=
  warning ("Sheet '" ++ sheet ++ "' has no values; rendering a single empty cell")

/-- What there is to say about a recorded area, given the one that the data has. -/
def hintWarnings (sheet : String) (area : Area) (hint : String) : List LogEntry :=
  match Area.parse hint with
  | .ok recorded =>
      if recorded = area then []
      else
        [warning ("Sheet '" ++ sheet ++ "': recorded dimensions " ++ recorded.text ++
          " differ from its data, using " ++ area.text)]
  | .error e =>
      [warning ("Sheet '" ++ sheet ++ "': ignoring unreadable dimensions " ++ quoted hint ++ ": " ++
        e.message)]

/-- The area of an empty sheet's page. -/
def emptyArea : Area := .ofCorners Area.origin Area.origin

/-- The area that a sheet's page covers. -/
def area (r : Report) (s : Sheet) : Logged (Except ReportError Area) :=
  match s.extent with
  | .error e => ⟨[], .error (.reference s.name e)⟩
  | .ok extent =>
      let area := extent.getD emptyArea
      let unused := if extent.isNone then [noValues s.name] else []
      let hints := match r.dimensions.get? s.name with
        | some hint => hintWarnings s.name area hint
        | none => []
      ⟨unused ++ hints, .ok area⟩

/-- Stands for the formula of a cell that has none. -/
def noFormula : String := "&nbsp;"

/-- The formula of a cell as the value of an attribute. -/
def formulaText (s : Sheet) (cell : CellRef) : String :=
  match s.formula? cell with
  | some n => Markup.escape n.render
  | none => noFormula

/-- The text that is shown for a cell, if it has a value. -/
def valueText? (s : Sheet) (cell : CellRef) : Option String := (s.value? cell).map CellValue.shown

/-- The time of the report in its format. -/
def stamp (r : Report) : Except ReportError String :=
  match TimeFormat.write? r.settings.timestampFormat r.moment with
  | some text => .ok text
  | none => .error (.format ⟨r.settings.timestampFormat⟩)

end Report

end LinkedSheets
