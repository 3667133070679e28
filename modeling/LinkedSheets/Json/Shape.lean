import LinkedSheets.Json.Basic
import LinkedSheets.Text.Quoted

/-!
# Values of the wrong shape
-/

namespace LinkedSheets.Json

open Text

inductive Shape where
  | string
  | map
  | sequence
  | struct (name : String)
deriving DecidableEq

/-- What was found in place of a shape: a scalar with its value, or a container. -/
inductive Found where
  | null
  | bool (value : Bool)
  | number (value : JsonNumber)
  | string (value : String)
  | sequence
  | map
deriving DecidableEq

inductive ShapeError where
  | missingField (name : String)
  | unknownField (name : String) (known : List String)
  | duplicateField (name : String)
  | wrongType (found : Found) (expected : Shape)
  | tooShort (length : Nat) (expected : Shape) (elements : Nat)
  | tooLong (length : Nat)
deriving DecidableEq

def Shape.name : Shape → String
  | .string => "a string"
  | .map => "a map"
  | .sequence => "a sequence"
  | .struct name => "struct " ++ name

def found : Json → Found
  | .null => .null
  | .bool b => .bool b
  | .number n => .number n
  | .string s => .string s
  | .array _ => .sequence
  | .object _ => .map

def backquoted (s : String) : String := "`" ++ s ++ "`"

def Found.description : Found → String
  | .null => "null"
  | .bool b => "boolean " ++ backquoted (if b then "true" else "false")
  | .number (.integer i) => "integer " ++ backquoted (intText i)
  | .number (.float x) => "floating point " ++ backquoted (JsonNumber.float x).text
  | .string s => "string " ++ quoted s
  | .sequence => "sequence"
  | .map => "map"

-- The known fields as a choice.
def choice : List String → String
  | [a] => backquoted a
  | [a, b] => backquoted a ++ " or " ++ backquoted b
  | names => "one of " ++ String.intercalate ", " (names.map backquoted)

def ShapeError.message : ShapeError → String
  | .missingField name => "missing field " ++ backquoted name
  | .unknownField name known => "unknown field " ++ backquoted name ++ ", expected " ++ choice known
  | .duplicateField name => "duplicate field " ++ backquoted name
  | .wrongType found expected =>
      "invalid type: " ++ found.description ++ ", expected " ++ expected.name
  | .tooShort length expected elements =>
      "invalid length " ++ natText length ++ ", expected " ++ expected.name ++ " with " ++
        natText elements ++ " elements"
  | .tooLong length =>
      "invalid length " ++ natText length ++ ", expected fewer elements in array"

def wrongType {α : Type} (j : Json) (expected : Shape) : Except ShapeError α :=
  .error (.wrongType j.found expected)

def asString : Json → Except ShapeError String
  | .string s => .ok s
  | j => j.wrongType .string

def asOptionalString : Json → Except ShapeError (Option String)
  | .null => .ok none
  | j => some <$> j.asString

def asMap : Json → Except ShapeError (List (String × Json))
  | .object fields => .ok fields
  | j => j.wrongType .map

def asStrings : Json → Except ShapeError (List String)
  | .array items => items.mapM asString
  | j => j.wrongType .sequence

end LinkedSheets.Json
