import LinkedSheets.Files.Path
import LinkedSheets.Report.Page

/-!
# Writing reports

What is to be done to write the pages of a report is worked out first, as a list of steps. Carrying
them out is up to whoever has the files; if a step fails, those after it are not taken.
-/

namespace LinkedSheets

open Markup

inductive Step where
  | log (entry : LogEntry)
  /-- Makes a directory and those on the way to it (`Path.ancestors`), where they are missing. -/
  | makeDirectory (path : String)
  /-- Makes an empty file, or empties it. -/
  | createFile (path : String)
  | writeFile (path content : String)
deriving DecidableEq

/-- Steps, and the result if all of them succeed. -/
structure Plan (ε α : Type) where
  steps : List Step
  outcome : Except ε α

namespace Report

/-- The file for a sheet's page. Names that would lead out of the directory are refused. -/
def fileFor (sheet : String) : Except ReportError String :=
  if sheet = "" ∨ sheet = "." ∨ sheet = ".." ∨ '/' ∈ sheet.toList ∨ '\\' ∈ sheet.toList then
    .error (.fileName sheet)
  else .ok (Markup.pageFile sheet)

/-- The file of each sheet is created before its page is compiled. If that fails, what has been
written by then is all that is in it. -/
def planSheets (r : Report) (dir : String) : List Sheet → Plan ReportError (List String)
  | [] => ⟨[], .ok []⟩
  | s :: rest =>
      match fileFor s.name with
      | .error e => ⟨[], .error e⟩
      | .ok file =>
          let path := joinPath dir file
          let page := r.draft s.name
          let steps := .createFile path :: page.entries.map .log ++ [.writeFile path page.text]
          match page.failure with
          | some e => ⟨steps, .error e⟩
          | none =>
              let others := planSheets r dir rest
              ⟨steps ++ others.steps, others.outcome.map (path :: ·)⟩

def unlisted (name : String) : LogEntry :=
  warning ("Sheet '" ++ name ++ "' is listed for navigation but has no data")

/-- All sheets, or those that `only` names, in the order of the workbook. -/
def selected (r : Report) (only : List String) : List Sheet :=
  r.workbook.sheets.filter fun s => only.isEmpty || only.contains s.name

/-- Writes the pages of the selected sheets. The result lists the files. -/
def plan (r : Report) (dir : String) (only : List String) : Plan ReportError (List String) :=
  match only.find? fun name => (r.workbook.sheet? name).isNone with
  | some name => ⟨[], .error (.unknownSheet name)⟩
  | none =>
      let ghosts := r.navigation.filter fun name => (r.workbook.sheet? name).isNone
      let pages := planSheets r dir (r.selected only)
      ⟨ghosts.map (fun name => .log (unlisted name)) ++ .makeDirectory dir :: pages.steps,
        pages.outcome⟩

end Report

end LinkedSheets
