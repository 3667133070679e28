import LinkedSheets.Json.Shape
import LinkedSheets.Table

/-!
# Reading JSON

A reader takes a value from the beginning of a text and returns the rest. Whatever is wrong first in
the text decides on the error: the text ends too early, it is not JSON, or a value does not have the
shape that is asked for.
-/

namespace LinkedSheets.Json

open Text

inductive ReadError where
  | incomplete
  | malformed
  | shape (problem : ShapeError)
deriving DecidableEq

abbrev Reader (α : Type) := List Char → Except ReadError (α × List Char)

-- How deep arrays and objects may be nested.
def depthLimit : Nat := 127

def isSpace (c : Char) : Bool := c = ' ' || c = '\n' || c = '\t' || c = '\r'

def skipSpace (cs : List Char) : List Char := cs.dropWhile isSpace

-- Takes the characters of `word`.
def readWord : (word : List Char) → Reader Unit
  | [], cs => .ok ((), cs)
  | _ :: _, [] => .error .incomplete
  | w :: ws, c :: cs => if c = w then readWord ws cs else .error .malformed

-- Takes one digit or more.
def readDigits (cs : List Char) : Except ReadError (List Char × List Char) :=
  match cs with
  | [] => .error .incomplete
  | c :: _ =>
      if c.isDigit then .ok (cs.takeWhile Char.isDigit, cs.dropWhile Char.isDigit)
      else .error .malformed

-- The digits before the point: a zero stands alone.
def readWhole (cs : List Char) : Except ReadError (List Char × List Char) := do
  let (digits, rest) ← readDigits cs
  if digits.head? = some '0' ∧ digits ≠ ['0'] then throw .malformed
  return (digits, rest)

def readFraction : Reader (Option (List Char))
  | '.' :: cs => do
      let (digits, rest) ← readDigits cs
      return (some digits, rest)
  | cs => .ok (none, cs)

def readScale (cs : List Char) : Except ReadError (Option Int × List Char) :=
  match cs with
  | [] => .ok (none, [])
  | c :: rest =>
      if c = 'e' ∨ c = 'E' then
        match rest with
        | '-' :: rest => do
            let (digits, rest) ← readDigits rest
            return (some (-(ofDigits digits : Int)), rest)
        | '+' :: rest => do
            let (digits, rest) ← readDigits rest
            return (some (ofDigits digits : Int), rest)
        | rest => do
            let (digits, rest) ← readDigits rest
            return (some (ofDigits digits : Int), rest)
      else .ok (none, cs)

-- A number after its sign.
def readNumber (negative : Bool) (cs : List Char) : Except ReadError (JsonNumber × List Char) := do
  let (whole, rest) ← readWhole cs
  let (fraction, rest) ← readFraction rest
  let (scale, rest) ← readScale rest
  match JsonNumber.ofLiteral? negative whole fraction scale with
  | some n => return (n, rest)
  | none => throw .malformed

/-- Where a string reader stands: between characters, after a backslash, inside the four digits of a
`\u` escape, or between the two escapes of a surrogate pair. -/
inductive StringState where
  | plain
  | escape
  | code (missing value : Nat) (high : Option Nat)
  | afterHigh (high : Nat)
  | afterHighEscape (high : Nat)

-- Four bytes are left in the text; a shorter rest cannot hold the digits of an escape.
def hasCode (cs : List Char) : Bool := 4 ≤ (cs.take 4).foldl (fun n c => n + c.utf8Size) 0

-- The character that a single letter after a backslash stands for.
def escaped? (c : Char) : Option Char :=
  if c = '"' ∨ c = '\\' ∨ c = '/' then some c
  else if c = 'b' then some '\x08'
  else if c = 'f' then some '\x0c'
  else if c = 'n' then some '\n'
  else if c = 'r' then some '\r'
  else if c = 't' then some '\t'
  else none

def isHighSurrogate (n : Nat) : Bool := 0xD800 ≤ n && n ≤ 0xDBFF
def isLowSurrogate (n : Nat) : Bool := 0xDC00 ≤ n && n ≤ 0xDFFF

-- The rest of a string whose characters so far are `before`, in reverse.
def readStringFrom (before : List Char) :
    StringState → List Char → Except ReadError (String × List Char)
  | _, [] => .error .incomplete
  | .plain, c :: cs =>
      if c = '"' then .ok (String.ofList before.reverse, cs)
      else if c = '\\' then readStringFrom before .escape cs
      else if c.toNat < 0x20 then .error .malformed
      else readStringFrom (c :: before) .plain cs
  | .escape, c :: cs =>
      if c = 'u' then
        if hasCode cs then readStringFrom before (.code 4 0 none) cs else .error .incomplete
      else match escaped? c with
        | some e => readStringFrom (e :: before) .plain cs
        | none => .error .malformed
  | .code missing value high, c :: cs =>
      match hexValue? c with
      | none => .error .malformed
      | some digit =>
          let code := value * 16 + digit
          if 1 < missing then readStringFrom before (.code (missing - 1) code high) cs
          else match high with
            | none =>
                if isLowSurrogate code then .error .malformed
                else if isHighSurrogate code then readStringFrom before (.afterHigh code) cs
                else readStringFrom (Char.ofNat code :: before) .plain cs
            | some first =>
                if isLowSurrogate code then
                  let point := (first - 0xD800) * 0x400 + (code - 0xDC00) + 0x10000
                  readStringFrom (Char.ofNat point :: before) .plain cs
                else .error .malformed
  | .afterHigh high, c :: cs =>
      if c = '\\' then readStringFrom before (.afterHighEscape high) cs else .error .malformed
  | .afterHighEscape high, c :: cs =>
      if c = 'u' then
        if hasCode cs then readStringFrom before (.code 4 0 (some high)) cs else .error .incomplete
      else .error .malformed

-- A string after its opening quote.
def readString (cs : List Char) : Except ReadError (String × List Char) :=
  readStringFrom [] .plain cs

-- In an array: whether another element follows, and the text from it on.
def nextElement (first : Bool) (cs : List Char) : Except ReadError (Bool × List Char) :=
  match skipSpace cs with
  | [] => .error .incomplete
  | c :: rest =>
      if c = ']' then .ok (false, rest)
      else if first then .ok (true, c :: rest)
      else if c = ',' then
        match skipSpace rest with
        | [] => .error .incomplete
        | d :: more => if d = ']' then .error .malformed else .ok (true, d :: more)
      else .error .malformed

-- In an object: the next key, if there is one, and the text after it.
def nextKey (first : Bool) (cs : List Char) : Except ReadError (Option String × List Char) :=
  let key (cs : List Char) : Except ReadError (Option String × List Char) :=
    match cs with
    | '"' :: rest => do
        let (k, rest) ← readString rest
        return (some k, rest)
    | [] => .error .incomplete
    | _ => .error .malformed
  match skipSpace cs with
  | [] => .error .incomplete
  | c :: rest =>
      if c = '}' then .ok (none, rest)
      else if first then key (c :: rest)
      else if c = ',' then key (skipSpace rest)
      else .error .malformed

def readColon (cs : List Char) : Except ReadError (List Char) :=
  match skipSpace cs with
  | [] => .error .incomplete
  | c :: rest => if c = ':' then .ok rest else .error .malformed

-- Any value that is no container, at its first character.
def readScalar (cs : List Char) : Except ReadError (Json × List Char) :=
  match cs with
  | [] => .error .incomplete
  | c :: rest =>
      if c = 'n' then (readWord "ull".toList rest).map fun (_, rest) => (.null, rest)
      else if c = 't' then (readWord "rue".toList rest).map fun (_, rest) => (.bool true, rest)
      else if c = 'f' then (readWord "alse".toList rest).map fun (_, rest) => (.bool false, rest)
      else if c = '"' then (readString rest).map fun (s, rest) => (.string s, rest)
      else if c = '-' then (readNumber true rest).map fun (n, rest) => (.number n, rest)
      else if c.isDigit then (readNumber false cs).map fun (n, rest) => (.number n, rest)
      else .error .malformed

mutual

-- A value in which containers may be nested `depth` deep. Each step uses one unit of `fuel`.
def readValue (fuel depth : Nat) (cs : List Char) : Except ReadError (Json × List Char) :=
  match fuel with
  | 0 => .error .malformed
  | fuel + 1 =>
      match skipSpace cs with
      | '[' :: rest =>
          if depth = 0 then .error .malformed
          else
            (readItems fuel (depth - 1) true [] rest).map fun (items, rest) => (.array items, rest)
      | '\x7b' :: rest =>
          if depth = 0 then .error .malformed
          else (readFields fuel (depth - 1) true [] rest).map fun (fs, rest) => (.object fs, rest)
      | rest => readScalar rest

-- The rest of an array whose items so far are `before`, in reverse.
def readItems (fuel depth : Nat) (first : Bool) (before : List Json) (cs : List Char) :
    Except ReadError (List Json × List Char) :=
  match fuel with
  | 0 => .error .malformed
  | fuel + 1 =>
      match nextElement first cs with
      | .error e => .error e
      | .ok (false, rest) => .ok (before.reverse, rest)
      | .ok (true, rest) =>
          match readValue fuel depth rest with
          | .error e => .error e
          | .ok (item, rest) => readItems fuel depth false (item :: before) rest

/-- The rest of an object with the fields `before`. A key that comes again keeps its place and takes
the later value. -/
def readFields (fuel depth : Nat) (first : Bool) (before : List (String × Json)) (cs : List Char) :
    Except ReadError (List (String × Json) × List Char) :=
  match fuel with
  | 0 => .error .malformed
  | fuel + 1 =>
      match nextKey first cs with
      | .error e => .error e
      | .ok (none, rest) => .ok (before, rest)
      | .ok (some key, rest) =>
          match readColon rest with
          | .error e => .error e
          | .ok rest =>
              match readValue fuel depth rest with
              | .error e => .error e
              | .ok (value, rest) => readFields fuel depth false (Table.putIn key value before) rest

end

-- Fuel for a text: no character needs more than two steps.
def enoughFuel (cs : List Char) : Nat := 2 * cs.length + 2

-- Nothing but space may follow a document.
def atEnd {α : Type} (read : Reader α) (cs : List Char) : Except ReadError α := do
  let (a, rest) ← read cs
  if (skipSpace rest).isEmpty then return a else throw .malformed

-- The value of a whole text, nested `depth` deep at most.
def readWithin (depth : Nat) (text : String) : Except ReadError Json :=
  let cs := text.toList
  atEnd (readValue (enoughFuel cs) depth) cs

def read (text : String) : Except ReadError Json := readWithin depthLimit text

/-- The error for a value that does not have the shape `expected`. A scalar is read to its end, so
that what is wrong inside it comes first. -/
def refuse {α : Type} (expected : Shape) (cs : List Char) : Except ReadError α :=
  match cs with
  | '[' :: _ => .error (.shape (.wrongType .sequence expected))
  | '\x7b' :: _ => .error (.shape (.wrongType .map expected))
  | _ =>
      match readScalar cs with
      | .error e => .error e
      | .ok (j, _) => .error (.shape (.wrongType j.found expected))

end LinkedSheets.Json
