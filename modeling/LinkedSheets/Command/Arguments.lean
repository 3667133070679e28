/-!
# Command line arguments

Options have a long name and a letter. A value follows its option as the next argument or is
attached to it; letters without a value may be put together. All arguments after `--` are names.
-/

namespace LinkedSheets

/-- A request to write the pages of a workbook. -/
structure Command where
  workbook : String
  dimensions : Option String
  output : Option String
  sheets : List String
  title : Option String
  settings : Option String
  verbosity : Nat
deriving DecidableEq

inductive Request where
  | write (command : Command)
  | version
  | help
deriving DecidableEq

namespace Arguments

/-- An option with a value. -/
inductive Opt where
  | dimensions
  | output
  | sheet
  | title
  | settings
deriving DecidableEq

inductive Flag where
  | verbose
  | version
  | help
deriving DecidableEq

inductive Name where
  | opt (o : Opt)
  | flag (f : Flag)
deriving DecidableEq

def ofLetter? : Char → Option Name
  | 'd' => some (.opt .dimensions)
  | 'o' => some (.opt .output)
  | 's' => some (.opt .sheet)
  | 't' => some (.opt .title)
  | 'c' => some (.opt .settings)
  | 'v' => some (.flag .verbose)
  | 'V' => some (.flag .version)
  | 'h' => some (.flag .help)
  | _ => none

def ofLongName? : String → Option Name
  | "dimensions" => some (.opt .dimensions)
  | "output" => some (.opt .output)
  | "sheet" => some (.opt .sheet)
  | "title" => some (.opt .title)
  | "config" => some (.opt .settings)
  | "verbose" => some (.flag .verbose)
  | "version" => some (.flag .version)
  | "help" => some (.flag .help)
  | _ => none

/-- What has been read so far. -/
structure Found where
  workbook : Option String
  dimensions : Option String
  output : Option String
  sheets : List String
  title : Option String
  settings : Option String
  verbosity : Nat

def Found.nothing : Found := ⟨none, none, none, [], none, none, 0⟩

/-- A value for what may be given once. -/
def once? (given : Option String) (value : String) : Option (Option String) :=
  if given.isSome then none else some (some value)

/-- A path for what may be given once; no path is empty. -/
def oncePath? (given : Option String) (path : String) : Option (Option String) :=
  if path.isEmpty then none else once? given path

def put? (f : Found) (value : String) : Opt → Option Found
  | .dimensions => (oncePath? f.dimensions value).map fun x => { f with dimensions := x }
  | .output => (oncePath? f.output value).map fun x => { f with output := x }
  | .sheet => some { f with sheets := f.sheets ++ [value] }
  | .title => (once? f.title value).map fun x => { f with title := x }
  | .settings => (oncePath? f.settings value).map fun x => { f with settings := x }

def putWorkbook? (f : Found) (path : String) : Option Found :=
  (oncePath? f.workbook path).map fun x => { f with workbook := x }

/-- What one argument comes to: more to read, possibly the value of an option first, or an early
answer. -/
inductive Reading where
  | next (found : Found)
  | awaiting (found : Found) (option : Opt)
  | answer (request : Request)

def flagReading (f : Found) : Flag → Reading
  | .verbose => .next { f with verbosity := f.verbosity + 1 }
  | .version => .answer .version
  | .help => .answer .help

/-- Letters after a single dash. The rest after an option with a value is its value, which an equals
sign may precede. -/
def readLetters? (f : Found) : List Char → Option Reading
  | [] => some (.next f)
  | c :: rest =>
      match ofLetter? c with
      | none => none
      | some (.opt o) =>
          match rest with
          | [] => some (.awaiting f o)
          | '=' :: value => (put? f (String.ofList value) o).map .next
          | value => (put? f (String.ofList value) o).map .next
      | some (.flag flag) =>
          match flagReading f flag with
          | .next f => readLetters? f rest
          | reading => some reading

/-- A long name after two dashes, perhaps with an equals sign and a value. -/
def readLong? (f : Found) (cs : List Char) : Option Reading :=
  let name := String.ofList (cs.takeWhile (· ≠ '='))
  let value : Option String := match cs.dropWhile (· ≠ '=') with
    | [] => none
    | _ :: value => some (String.ofList value)
  match ofLongName? name, value with
  | some (.opt o), some v => (put? f v o).map .next
  | some (.opt o), none => some (.awaiting f o)
  | some (.flag flag), none => some (flagReading f flag)
  | _, _ => none

def finish? (f : Found) : Option Request :=
  f.workbook.map fun workbook =>
    .write ⟨workbook, f.dimensions, f.output, f.sheets, f.title, f.settings, f.verbosity⟩

/-- The arguments after `--`. -/
def readNames? (f : Found) : List String → Option Found
  | [] => some f
  | path :: rest => (putWorkbook? f path).bind fun f => readNames? f rest

/-- The arguments from one on, the option `awaited` being still without its value. -/
def readFrom? (f : Found) (awaited : Option Opt) : List String → Option Request
  | [] => if awaited.isSome then none else finish? f
  | arg :: rest =>
      match arg.toList, awaited with
      | ['-', '-'], none => (readNames? f rest).bind finish?
      | '-' :: c :: more, none =>
          let reading := if c = '-' then readLong? f more else readLetters? f (c :: more)
          match reading with
          | none => none
          | some (.next f) => readFrom? f none rest
          | some (.awaiting f o) => readFrom? f (some o) rest
          | some (.answer request) => some request
      | '-' :: _ :: _, some _ => none
      | _, some o => (put? f arg o).bind fun f => readFrom? f none rest
      | _, none => (putWorkbook? f arg).bind fun f => readFrom? f none rest

end Arguments

/-- The request that arguments make, if they make one. -/
def Request.ofArguments? (args : List String) : Option Request :=
  Arguments.readFrom? .nothing none args

end LinkedSheets
