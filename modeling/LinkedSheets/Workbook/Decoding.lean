import LinkedSheets.Json.Reader
import LinkedSheets.Workbook

/-!
# Values, formulae and sheets from JSON

A value is a pair of a kind and a literal. A formula is a tree of arrays: one that begins with a
string is an operator with its arguments, any other is a sequence. Objects are in no formula.
-/

namespace LinkedSheets

namespace CellValue

def ofJson? : Json → Option CellValue
  | .array [.string kind, literal] =>
      if literal.isContainer then none else some ⟨.ofName kind, literal.literal⟩
  | _ => none

/-- What is said about a value that is no pair of a kind and a literal. -/
def refusal (j : Json) : String := "expected [kind, literal], got " ++ j.write

end CellValue

namespace Node

mutual

def ofJson? : Json → Option Node
  | .array (.string tag :: args) => (ofItems? args).map (.tagged tag)
  | .array items => (ofItems? items).map .sequence
  | .object _ => none
  | j => some (.leaf j.literal)

def ofItems? : List Json → Option (List Node)
  | [] => some []
  | j :: rest =>
      match ofJson? j with
      | none => none
      | some n => (ofItems? rest).map (n :: ·)

end

/-- What is said about a formula that holds an object. -/
def refusal : String := "objects are not valid formula nodes"

end Node

/-- A sheet as it is written: entries for its values and for its formulae. -/
structure SheetEntries where
  values : List (String × Json)
  formulae : List (String × Json)

namespace SheetEntries

def shape : Json.Shape := .struct "SheetFile"

def putField (e : SheetEntries) : String × Json → Except Json.ShapeError SheetEntries
  | (name, j) =>
      if name = "values" then do return { e with values := ← j.asMap }
      else if name = "formulae" then do return { e with formulae := ← j.asMap }
      else throw (.unknownField name ["values", "formulae"])

/-- Both fields may be missing. An array lists them without their names. -/
def ofJson : Json → Except Json.ShapeError SheetEntries
  | .object fields => fields.foldlM putField ⟨[], []⟩
  | .array [] => return ⟨[], []⟩
  | .array [values] => return ⟨← values.asMap, []⟩
  | .array (values :: formulae :: more) => do
      let values ← values.asMap
      let formulae ← formulae.asMap
      if more.isEmpty then return ⟨values, formulae⟩ else throw (.tooLong (more.length + 2))
  | j => j.wrongType shape

end SheetEntries

/-- Why a workbook cannot be loaded. -/
inductive LoadError where
  | json (cause : Json.ReadError)
  | badSheet (problem : Json.ShapeError)
  | badValue (sheet key : String) (found : Json)
  | badFormula (sheet key : String)

namespace Sheet

/-- Puts in what an entry is decoded to, unless that is nothing. -/
def putEntry {α : Type} (decode? : Json → Option α) (put : Sheet → String → α → Sheet)
    (refusal : String → Json → LoadError) (s : Sheet) :
    String × Json → Except LoadError Sheet
  | (key, j) =>
      match decode? j with
      | none => .error (refusal key j)
      | some a => .ok (put s key a)

def putValues (s : Sheet) (entries : List (String × Json)) : Except LoadError Sheet :=
  entries.foldlM (putEntry CellValue.ofJson? putValue (.badValue s.name)) s

def putFormulae (s : Sheet) (entries : List (String × Json)) : Except LoadError Sheet :=
  entries.foldlM (putEntry Node.ofJson? putFormula fun key _ => .badFormula s.name key) s

/-- A sheet is checked for its shape first, then its values are read and then its formulae. -/
def ofJson (name : String) (j : Json) : Except LoadError Sheet :=
  match SheetEntries.ofJson j with
  | .error problem => .error (.badSheet problem)
  | .ok entries =>
      match (ofName name).putValues entries.values with
      | .error e => .error e
      | .ok s => s.putFormulae entries.formulae

end Sheet

namespace Workbook

def pushJson (w : Workbook) : String × Json → Except LoadError Workbook
  | (name, j) => (Sheet.ofJson name j).map w.push

/-- The workbook with a title and the sheets of an object. -/
def ofSheets (title : Option String) (sheets : List (String × Json)) : Except LoadError Workbook :=
  sheets.foldlM pushJson (titled title)

end Workbook

namespace LoadError

/-- What is said about a workbook that cannot be loaded. If the document as a whole is at fault,
this is only how it begins: the place in its text comes after it, and before that the words of
whatever reads JSON if it is no JSON at all. -/
def message : LoadError → String
  | .json (.shape problem) => "JSON error: " ++ problem.message
  | .json _ => "JSON error"
  | .badSheet problem => "JSON error: " ++ problem.message
  | .badValue sheet key found =>
      "Invalid workbook: sheet '" ++ sheet ++ "' value " ++ key ++ ": " ++ CellValue.refusal found
  | .badFormula sheet key =>
      "Invalid workbook: sheet '" ++ sheet ++ "' formula " ++ key ++ ": " ++ Node.refusal

/-- The message with that of what caused it, as far as it is known. -/
def fullMessage : LoadError → String
  | .badSheet problem => (badSheet problem).message ++ ": " ++ problem.message
  | e => e.message

end LoadError

end LinkedSheets
