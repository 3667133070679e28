import LinkedSheets.Report.Basic
import LinkedSheets.Sink

/-!
# Pages

The page of a sheet is a table of its cells below a heading and above the navigation. A cell shows
its value and carries its formula in an attribute; its identifier is its reference, so that links in
formulae lead to it.
-/

namespace LinkedSheets.Report

open Text Markup

/-- No page has more cells. -/
def maxCells : UInt64 := 10000000

def stylesheetLines : Option String → List String
  | some href => ["<link href='" ++ escape href ++ "' rel='stylesheet' type='text/css' />"]
  | none => []

def scriptLine (src : String) : String :=
  "<script type='text/javascript' src='" ++ escape src ++ "'></script>"

/-- The head of the page and the line that shows the selected cell. -/
def headingLines (r : Report) (sheet : String) : List String :=
  ["<html>",
    "<head>",
    "<meta charset='utf-8' />",
    "<title>" ++ escape r.title ++ " - " ++ escape sheet ++ "</title>"] ++
  stylesheetLines r.settings.stylesheet ++
  r.settings.scripts.map scriptLine ++
  ["</head>",
    "<body>",
    "<div id='top'>",
    "<h1>" ++ escape r.title ++ "</h1>",
    "<table>",
    "<tr>",
    "<td id='sheetref'>'" ++ escape sheet ++ "'!<span id='selectedcell'></span></td>",
    "<td id='functionof'>&fnof;<i>x</i></td>",
    "<td id='selectedformula'>&nbsp;</td>",
    "</tr>",
    "</table>",
    "</div>",
    "<div id='worksheet'>"]

/-- A cell of the table. -/
def cellLine (s : Sheet) (cell : CellRef) : String :=
  "<td id='c" ++ cell.text ++ "' class='c" ++ cell.text ++ "' data-formula='" ++
    formulaText s cell ++ "'>" ++ escape ((valueText? s cell).getD "") ++ "</td>"

def rowLines (s : Sheet) (row : GridRow) : List String :=
  ["<tr>", "<th>" ++ natText row.row.toNat ++ "</th>"] ++ row.cells.map (cellLine s) ++ ["</tr>"]

def tableLines (s : Sheet) (grid : Grid) : List String :=
  ["<table class='cells'>", "<tr>", "<th></th>"] ++
  grid.columns.map (fun column => "<th>" ++ column ++ "</th>") ++
  ["</tr>"] ++
  grid.rows.flatMap (rowLines s) ++
  ["</table>"]

def attribution (settings : Settings) : String :=
  match settings.attributionUrl with
  | some url =>
      "<a href='" ++ escape url ++ "'>" ++ escape settings.attributionText ++ "</a></p>"
  | none => escape settings.attributionText ++ "</p>"

def footerLines (r : Report) (stamp : String) : List String :=
  ["<p>Generated on " ++ escape stamp ++ " by " ++ attribution r.settings, "</div>"]

/-- An entry of the navigation; that of the page itself is marked. -/
def navigationLine (current name : String) : String :=
  (if name = current then "<td class='current'>" else "<td>") ++
    "<a href='" ++ escape (pageHref name) ++ "'>" ++ escape name ++ "</a></td>"

def navigationLines (r : Report) (current : String) : List String :=
  ["<div id='jumpbar'><table><tr>"] ++ r.navigation.map (navigationLine current) ++
    ["</tr></table></div>"]

def pageLines (r : Report) (s : Sheet) (area : Area) (stamp : String) : List String :=
  headingLines r s.name ++ tableLines s area.grid ++ footerLines r stamp ++
    navigationLines r s.name ++ ["</body>", "</html>"]

def page (r : Report) (s : Sheet) (area : Area) (stamp : String) : String :=
  unlines (pageLines r s area stamp)

def compiling (s : Sheet) (area : Area) : LogEntry :=
  ⟨.debug, "Compiling sheet '" ++ s.name ++ "' over " ++ area.text ++ " (" ++
    natText s.values.size ++ " values, " ++ natText s.formulae.size ++ " formulae)"⟩

/-- Why a page is not written to its end: it cannot be made, or the sink has refused a piece. -/
inductive WriteError (ε : Type) where
  | report (cause : ReportError)
  | sink (cause : ε)

/-- A sink that a page is being written to, with what has been logged. -/
structure Progress (σ : Type) where
  out : σ
  entries : List LogEntry

/-- Steps of writing a page. What has been done before an error stays done. -/
abbrev Writing (σ ε α : Type) := EStateM (WriteError ε) (Progress σ) α

section

variable {σ ε α : Type}

def log (entries : List LogEntry) : Writing σ ε Unit :=
  modify fun p => { p with entries := p.entries ++ entries }

/-- What has been found out about the report, unless it is an error. -/
def take (found : Logged (Except ReportError α)) : Writing σ ε α := do
  log found.entries
  match found.result with
  | .ok a => return a
  | .error e => throw (.report e)

def put (k : Sink σ ε) (piece : String) : Writing σ ε Unit := fun ⟨out, entries⟩ =>
  match k.put out piece with
  | (out, none) => .ok () ⟨out, entries⟩
  | (out, some e) => .error (.sink e) ⟨out, entries⟩

def putLine (k : Sink σ ε) (line : String) : Writing σ ε Unit := do
  put k line
  put k "\n"

def putLines (k : Sink σ ε) : List String → Writing σ ε Unit
  | [] => return
  | line :: rest => do
      putLine k line
      putLines k rest

/-- Writes the page of the sheet with a given name. -/
def writePage (r : Report) (k : Sink σ ε) (name : String) : Writing σ ε Unit := do
  let s ← take ⟨[], ((r.workbook.sheet? name).elim (.error (.unknownSheet name)) .ok)⟩
  let area ← take (r.area s)
  if maxCells < area.cellCount then throw (.report (.gridTooLarge s.name area.cellCount))
  let stamp ← take ⟨[], r.stamp⟩
  log [compiling s area]
  putLines k (headingLines r s.name)
  putLines k (tableLines s area.grid)
  putLines k (footerLines r stamp)
  putLines k (navigationLines r s.name)
  putLines k ["</body>", "</html>"]

end

/-- What has been written of a page when no more can be, with the error if there was one. -/
structure Draft where
  text : String
  entries : List LogEntry
  failure : Option ReportError

/-- The page of the sheet with a given name as a text, as far as it gets. -/
def draft (r : Report) (name : String) : Draft :=
  match r.writePage .text name ⟨"", []⟩ with
  | .ok () done => ⟨done.out, done.entries, none⟩
  | .error (.report e) done => ⟨done.out, done.entries, some e⟩
  | .error (.sink e) _ => nomatch e

/-- The page of the sheet with a given name. -/
def compile (r : Report) (name : String) : Logged (Except ReportError String) :=
  let d := r.draft name
  ⟨d.entries, match d.failure with
    | none => .ok d.text
    | some e => .error e⟩

end LinkedSheets.Report
