import LinkedSheets.Table
import LinkedSheets.Text.Blank
import LinkedSheets.Text.Digits
import LinkedSheets.Text.Lines

/-!
# Recorded dimensions

A list of sheets with the area that was recorded for each. A file of them has a line with the name,
a tab and the area for each sheet; blank lines and lines starting with `#` are skipped.
-/

namespace LinkedSheets

open Text

abbrev Dimensions := Table String String

namespace Dimensions

inductive LineProblem where
  | noTab
  | noName
deriving DecidableEq

/-- What is wrong with a line; lines count from 1. -/
structure LineError where
  line : Nat
  problem : LineProblem
deriving DecidableEq

def LineProblem.message : LineProblem → String
  | .noTab => "Expected 'SHEET<TAB>AREA' format"
  | .noName => "Missing sheet name"

def LineError.message (e : LineError) : String :=
  "Parse error at line " ++ natText e.line ++ ": " ++ e.problem.message

def isSkipped (line : List Char) : Bool :=
  match trimStart line with
  | [] => true
  | c :: _ => c = '#'

/-- The name and the area on a line. -/
def readLine (line : List Char) : Except LineProblem (String × String) :=
  match splitOnce '\t' line with
  | none => .error .noTab
  | some (before, after) =>
      let name := trim before
      if name.isEmpty then .error .noName
      else .ok (String.ofList name, String.ofList (trim after))

def readFrom (number : Nat) (d : Dimensions) : List (List Char) → Except LineError Dimensions
  | [] => .ok d
  | line :: rest =>
      if isSkipped line then readFrom (number + 1) d rest
      else match readLine line with
        | .error problem => .error ⟨number, problem⟩
        | .ok (name, area) => readFrom (number + 1) (d.put name area) rest

def read (content : String) : Except LineError Dimensions :=
  readFrom 1 .empty (lines content.toList)

end Dimensions

end LinkedSheets
