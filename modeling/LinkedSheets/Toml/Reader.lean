import LinkedSheets.Toml.Scalar

/-!
# Reading TOML

A document is read into its statements: table headers and assignments of values to keys. A text that
is not TOML has none.
-/

namespace LinkedSheets

/-- Keys are paths, since a key may be dotted. Scalars that are no strings keep no value. -/
inductive Toml where
  | string (value : String)
  | scalar
  | array (items : List Toml)
  | table (entries : List (List String × Toml))

namespace Toml

open Text

inductive Statement where
  | header (path : List String)
  | arrayHeader (path : List String)
  | assign (path : List String) (value : Toml)

-- How deep arrays and tables may be nested, and how many keys a path may have.
def depthLimit : Nat := 79

def isSpace (c : Char) : Bool := c = ' ' || c = '\t'

def skipSpace (cs : List Char) : List Char := cs.dropWhile isSpace

-- Characters that may stand in comments and strings: a tab, or no control character.
def isText (c : Char) : Bool := c = '\t' || (0x20 ≤ c.toNat && c ≠ '\x7f')

def newline? : List Char → Option (List Char)
  | '\n' :: rest => some rest
  | '\r' :: '\n' :: rest => some rest
  | _ => none

-- What follows a comment, if one begins here.
def skipComment : List Char → List Char
  | '#' :: rest => rest.dropWhile isText
  | cs => cs

-- The end of a line, with space and a comment before it.
def lineEnd? (cs : List Char) : Option (List Char) :=
  match skipComment (skipSpace cs) with
  | [] => some []
  | rest => newline? rest

def isBare (c : Char) : Bool := c.isAlphanum || c = '_' || c = '-'

-- The character with the code that hexadecimal digits write.
def ofCode? (ds : List Char) : Option Char := do
  let n ← ofHex? ds
  if n < 0xD800 ∨ 0xDFFF < n ∧ n < 0x110000 then some (Char.ofNat n) else none

-- The character of an escape, after its backslash.
def readEscape? (cs : List Char) : Option (Char × List Char) :=
  match cs with
  | 'b' :: rest => some ('\x08', rest)
  | 't' :: rest => some ('\t', rest)
  | 'n' :: rest => some ('\n', rest)
  | 'f' :: rest => some ('\x0c', rest)
  | 'r' :: rest => some ('\r', rest)
  | '"' :: rest => some ('"', rest)
  | '\\' :: rest => some ('\\', rest)
  | 'u' :: rest =>
      if (rest.take 4).length = 4 then (ofCode? (rest.take 4)).map (·, rest.drop 4) else none
  | 'U' :: rest =>
      if (rest.take 8).length = 8 then (ofCode? (rest.take 8)).map (·, rest.drop 8) else none
  | _ => none

-- Skips lines that hold nothing but space, and the space after them.
def skipBlankLines : Nat → List Char → List Char
  | 0, cs => cs
  | fuel + 1, cs =>
      match newline? (skipSpace cs) with
      | some rest => skipBlankLines fuel rest
      | none => skipSpace cs

-- The space and line ends that a backslash at the end of a line swallows.
def skipContinuation? (cs : List Char) : Option (List Char) := do
  let rest ← newline? (skipSpace cs)
  return skipBlankLines (rest.length + 1) rest

-- How many quotes stand at the beginning of a text.
def countQuotes (quote : Char) (cs : List Char) : Nat := (cs.takeWhile (· = quote)).length

-- A string on one line, after its opening quote. Escapes are read only in double quotes.
def readLineString? (quote : Char) : Nat → List Char → List Char → Option (String × List Char)
  | 0, _, _ => none
  | _, _, [] => none
  | fuel + 1, before, c :: rest =>
      if c = quote then some (String.ofList before.reverse, rest)
      else if c = '\\' ∧ quote = '"' then
        match readEscape? rest with
        | some (e, rest) => readLineString? quote fuel (e :: before) rest
        | none => none
      else if isText c then readLineString? quote fuel (c :: before) rest
      else none

/-- A string over several lines, after its opening quotes. It ends with three quotes, before which
one or two more may stand. -/
def readTextString? (quote : Char) : Nat → List Char → List Char → Option (String × List Char)
  | 0, _, _ => none
  | _, _, [] => none
  | fuel + 1, before, c :: rest =>
      if c = quote then
        let count := min 5 (countQuotes quote (c :: rest))
        let inside (n : Nat) : List Char := List.replicate n quote ++ before
        if 3 ≤ count then some (String.ofList (inside (count - 3)).reverse, rest.drop (count - 1))
        else readTextString? quote fuel (inside count) (rest.drop (count - 1))
      else match newline? (c :: rest) with
        | some rest => readTextString? quote fuel ('\n' :: before) rest
        | none =>
            if c = '\\' ∧ quote = '"' then
              match skipContinuation? rest with
              | some rest => readTextString? quote fuel before rest
              | none =>
                  match readEscape? rest with
                  | some (e, rest) => readTextString? quote fuel (e :: before) rest
                  | none => none
            else if isText c then readTextString? quote fuel (c :: before) rest
            else none

-- A string of any kind, if the text begins with a quote.
def readString? (cs : List Char) : Option (String × List Char) :=
  let fuel := cs.length + 1
  match cs with
  | '"' :: '"' :: '"' :: rest => readTextString? '"' fuel [] ((newline? rest).getD rest)
  | '\'' :: '\'' :: '\'' :: rest => readTextString? '\'' fuel [] ((newline? rest).getD rest)
  | '"' :: rest => readLineString? '"' fuel [] rest
  | '\'' :: rest => readLineString? '\'' fuel [] rest
  | _ => none

def readKey? (cs : List Char) : Option (String × List Char) :=
  match cs with
  | '"' :: rest => readLineString? '"' (cs.length + 1) [] rest
  | '\'' :: rest => readLineString? '\'' (cs.length + 1) [] rest
  | _ =>
      let key := cs.takeWhile isBare
      if key.isEmpty then none else some (String.ofList key, cs.dropWhile isBare)

/-- A number of keys with dots between them, and the text after them and after space. A path of more
keys is refused. -/
def readKeys? : (limit : Nat) → List Char → Option (List String × List Char)
  | 0, _ => none
  | limit + 1, cs => do
      let (key, rest) ← readKey? (skipSpace cs)
      match skipSpace rest with
      | '.' :: rest =>
          let (path, rest) ← readKeys? limit rest
          return (key :: path, rest)
      | rest => return ([key], rest)

def readPath? (cs : List Char) : Option (List String × List Char) := readKeys? depthLimit cs

-- Space, comments and line ends, which may stand anywhere between the items of an array.
def skipLines : Nat → List Char → List Char
  | 0, cs => cs
  | fuel + 1, cs =>
      let rest := skipComment (skipSpace cs)
      match newline? rest with
      | some rest => skipLines fuel rest
      | none => rest

-- A comment has to end before the text goes on.
def skipLines? (cs : List Char) : Option (List Char) :=
  let rest := skipLines (cs.length + 1) cs
  match rest with
  | c :: _ => if isText c then some rest else none
  | [] => none

-- No path is the beginning of another one, so that each key has one value.
def areDisjoint (paths : List (List String)) : Bool :=
  match paths with
  | [] => true
  | path :: rest =>
      rest.all (fun other => !path.isPrefixOf other && !other.isPrefixOf path) && areDisjoint rest

mutual

-- A value in which containers may be nested `depth` deep. Each step uses one unit of `fuel`.
def readValue? (fuel depth : Nat) (cs : List Char) : Option (Toml × List Char) :=
  match fuel with
  | 0 => none
  | fuel + 1 =>
      match cs with
      | [] => none
      | c :: rest =>
          if c = '"' ∨ c = '\'' then (readString? cs).map fun (s, rest) => (.string s, rest)
          else if c = '[' then
            if depth = 0 then none
            else (readItems? fuel (depth - 1) [] rest).map fun (items, rest) => (.array items, rest)
          else if c = '\x7b' then
            if depth = 0 then none
            else match skipSpace rest with
            | '\x7d' :: rest => some (.table [], rest)
            | rest =>
                match readEntries? fuel (depth - 1) [] rest with
                | some (entries, rest) =>
                    if areDisjoint (entries.map Prod.fst) then some (.table entries, rest) else none
                | none => none
          else
            let (token, rest) := spanScalar cs
            if isScalar token then some (.scalar, rest) else none

-- The rest of an array whose items so far are `before`, in reverse.
def readItems? (fuel depth : Nat) (before : List Toml) (cs : List Char) :
    Option (List Toml × List Char) :=
  match fuel with
  | 0 => none
  | fuel + 1 =>
      match skipLines? cs with
      | none => none
      | some (']' :: rest) => some (before.reverse, rest)
      | some rest =>
          match readValue? fuel depth rest with
          | none => none
          | some (item, rest) =>
              match skipLines? rest with
              | some (',' :: rest) => readItems? fuel depth (item :: before) rest
              | some (']' :: rest) => some ((item :: before).reverse, rest)
              | _ => none

-- The rest of a table on one line.
def readEntries? (fuel depth : Nat) (before : List (List String × Toml)) (cs : List Char) :
    Option (List (List String × Toml) × List Char) :=
  match fuel with
  | 0 => none
  | fuel + 1 =>
      match readPath? cs with
      | some (path, '=' :: rest) =>
          match readValue? fuel depth (skipSpace rest) with
          | none => none
          | some (value, rest) =>
              match skipSpace rest with
              | ',' :: rest => readEntries? fuel depth ((path, value) :: before) rest
              | '\x7d' :: rest => some (((path, value) :: before).reverse, rest)
              | _ => none
      | _ => none

end

-- Fuel for a text: no character needs more than two steps.
def enoughFuel (cs : List Char) : Nat := 2 * cs.length + 2

-- A header in single or double brackets, or an assignment.
def readStatement? (cs : List Char) : Option (Statement × List Char) :=
  match cs with
  | '[' :: '[' :: rest =>
      match readPath? rest with
      | some (path, ']' :: ']' :: rest) => some (.arrayHeader path, rest)
      | _ => none
  | '[' :: rest =>
      match readPath? rest with
      | some (path, ']' :: rest) => some (.header path, rest)
      | _ => none
  | _ =>
      match readPath? cs with
      | some (path, '=' :: rest) =>
          (readValue? (enoughFuel cs) depthLimit (skipSpace rest)).map fun (value, rest) =>
          (.assign path value, rest)
      | _ => none

def readStatements? : Nat → List Statement → List Char → Option (List Statement)
  | 0, _, _ => none
  | fuel + 1, before, cs =>
      if cs.isEmpty then some before.reverse
      else match lineEnd? cs with
        | some rest => readStatements? fuel before rest
        | none =>
            match readStatement? (skipSpace cs) with
            | none => none
            | some (statement, rest) =>
                match lineEnd? rest with
                | some rest => readStatements? fuel (statement :: before) rest
                | none => none

-- The statements of a document, which may begin with a byte order mark.
def read? (content : String) : Option (List Statement) :=
  let cs := match content.toList with
    | '\uFEFF' :: rest => rest
    | cs => cs
  readStatements? (cs.length + 1) [] cs

end Toml

end LinkedSheets
