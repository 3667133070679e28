import LinkedSheets.Workbook.Decoding

/-!
# Workbook documents

A workbook is a JSON object with an optional `title` and with `sheets`, or an array of these two.
The text is read up to the first thing that is wrong with it, be it the JSON or a field.
-/

namespace LinkedSheets

open Json

/-- The fields of a workbook that have been read. -/
structure WorkbookFields where
  title : Option (Option String)
  sheets : Option (List (String × Json))

namespace WorkbookFields

def shape : Shape := .struct "WorkbookFile"

def names : List String := ["title", "sheets"]

def readTitle (cs : List Char) : Except ReadError (Option String × List Char) :=
  match skipSpace cs with
  | [] => .error .incomplete
  | c :: rest =>
      if c = 'n' then (readWord "ull".toList rest).map fun (_, rest) => (none, rest)
      else if c = '"' then (readString rest).map fun (s, rest) => (some s, rest)
      else refuse .string (c :: rest)

/-- The sheets, which lie inside the workbook's own container. -/
def readSheets (fuel : Nat) (cs : List Char) :
    Except ReadError (List (String × Json) × List Char) :=
  match skipSpace cs with
  | [] => .error .incomplete
  | c :: rest =>
      if c = '\x7b' then readFields fuel (depthLimit - 2) true [] rest
      else refuse .map (c :: rest)

/-- The fields of an object. Every field comes once at most, so `steps` are few. -/
def readObject (fuel : Nat) :
    (steps : Nat) → (first : Bool) → WorkbookFields → Reader WorkbookFields
  | 0, _, _, _ => .error .malformed
  | steps + 1, first, found, cs => do
      let (key, rest) ← nextKey first cs
      match key with
      | none => return (found, rest)
      | some "title" =>
          if found.title.isSome then throw (.shape (.duplicateField "title"))
          let (title, rest) ← readTitle (← readColon rest)
          readObject fuel steps false { found with title := some title } rest
      | some "sheets" =>
          if found.sheets.isSome then throw (.shape (.duplicateField "sheets"))
          let (sheets, rest) ← readSheets fuel (← readColon rest)
          readObject fuel steps false { found with sheets := some sheets } rest
      | some name => throw (.shape (.unknownField name names))

/-- The two elements of an array. -/
def readArray (fuel : Nat) (cs : List Char) : Except ReadError (WorkbookFields × List Char) := do
  let (more, rest) ← nextElement true cs
  if !more then throw (.shape (.tooShort 0 shape 2))
  let (title, rest) ← readTitle rest
  let (more, rest) ← nextElement false rest
  if !more then throw (.shape (.tooShort 1 shape 2))
  let (sheets, rest) ← readSheets fuel rest
  match skipSpace rest with
  | [] => throw .incomplete
  | c :: rest => if c = ']' then return (⟨some title, some sheets⟩, rest) else throw .malformed

/-- The fields of a workbook, be it written as an object or as an array. -/
def readContainer (fuel : Nat) (cs : List Char) : Except ReadError (WorkbookFields × List Char) :=
  match skipSpace cs with
  | [] => .error .incomplete
  | c :: rest =>
      if c = '[' then readArray fuel rest
      else if c = '\x7b' then readObject fuel 4 true ⟨none, none⟩ rest
      else refuse shape (c :: rest)

def readFrom (fuel : Nat) (cs : List Char) :
    Except ReadError ((Option String × List (String × Json)) × List Char) := do
  let (found, rest) ← readContainer fuel cs
  match found.sheets with
  | none => throw (.shape (.missingField "sheets"))
  | some sheets => return ((found.title.join, sheets), rest)

end WorkbookFields

namespace Workbook

/-- The title and the sheets that a document holds. -/
def readDocument (content : String) : Except ReadError (Option String × List (String × Json)) :=
  let cs := content.toList
  atEnd (WorkbookFields.readFrom (enoughFuel cs)) cs

def load (content : String) : Except LoadError Workbook :=
  match readDocument content with
  | .error e => .error (.json e)
  | .ok (title, sheets) => ofSheets title sheets

end Workbook

end LinkedSheets
