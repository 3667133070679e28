import LinkedSheets.Command.Arguments
import LinkedSheets.Files.Basic
import LinkedSheets.Report.Plan
import LinkedSheets.Settings.File
import LinkedSheets.Workbook.Document

/-!
# Running a command

The inputs of a command are read in order: the settings, the workbook, the recorded dimensions. Only
if all of them are well is anything written.
-/

namespace LinkedSheets

open Text

/-- What a command finds around it: files under their paths, the user's own settings file, and the
time. -/
structure Surroundings where
  find : String → Except FileError FileInfo
  userSettings : Option String
  now : Moment

/-- Where the user's settings are, given the directories for configuration and of the user. A
relative directory for configuration does not count. -/
def userSettingsPath? (configDirectory home : Option String) : Option String :=
  let directory := (configDirectory.filter (·.startsWith "/")).orElse fun _ =>
    (home.filter (· ≠ "")).map fun home => joinPath home ".config"
  directory.map fun directory => joinPath directory "gridview/config.toml"

/-- Why the settings of a command cannot be had. -/
inductive SettingsProblem where
  | unreadable (cause : FileError)
  | tooLarge (size : Nat)
  | malformed (cause : SettingsFile.FileError)

inductive WorkbookProblem where
  | unreadable (cause : FileError)
  | tooLarge (size : Nat)
  | malformed (cause : LoadError)

inductive DimensionsProblem where
  | unreadable (cause : FileError)
  | malformed (cause : Dimensions.LineError)

inductive CommandError where
  | settings (path : String) (problem : SettingsProblem)
  | workbook (path : String) (problem : WorkbookProblem)
  | dimensions (path : String) (problem : DimensionsProblem)
  | report (cause : ReportError)

/-- The most bytes that a settings file may have, a mebibyte. -/
def maxSettingsSize : Nat := 1048576

/-- The most bytes that a workbook may have, 256 mebibytes. -/
def maxWorkbookSize : Nat := 268435456

def refusal (path : String) (size max : Nat) : String :=
  "Refusing to read " ++ path ++ ": file too large (" ++ natText size ++ " bytes, max " ++
    natText max ++ ")"

/-- What is said when a file cannot be used, and after it the error of the system as its cause. -/
def FileError.fullMessage (e : FileError) : String :=
  "IO error: " ++ e.message ++ ": " ++ e.message

namespace CommandError

def settingsMessage (path : String) : SettingsProblem → String
  | .unreadable cause => "Failed to read config " ++ path ++ ": " ++ cause.message
  | .tooLarge size => refusal path size maxSettingsSize
  | .malformed cause => "Failed to parse config " ++ path ++ ": " ++ cause.message

def workbookMessage (path : String) (problem : WorkbookProblem) : String :=
  "Failed to load workbook " ++ path ++ ": " ++ match problem with
    | .unreadable cause => cause.fullMessage
    | .tooLarge size => "Invalid workbook: " ++ refusal path size maxWorkbookSize
    | .malformed cause => cause.fullMessage

def dimensionsMessage (path : String) (problem : DimensionsProblem) : String :=
  "Failed to load dimensions " ++ path ++ ": " ++ match problem with
    | .unreadable cause => cause.fullMessage
    | .malformed cause => cause.message

def message : CommandError → String
  | .settings path problem => settingsMessage path problem
  | .workbook path problem => workbookMessage path problem
  | .dimensions path problem => dimensionsMessage path problem
  | .report cause => cause.fullMessage

end CommandError

/-- A kind of input file: how its text is read, and what is wrong with a file that cannot be used or
whose text is refused. -/
structure InputKind (α ε π : Type) where
  /-- The greatest size in bytes, if there is one, and what is said of a larger file. -/
  limit? : Option (Nat × (Nat → π))
  read : String → Except ε α
  unreadable : FileError → π
  refused : ε → π

namespace InputKind

/-- Reads a file of this kind, as it has been found. A file that is too large is not looked into. -/
def load {α ε π : Type} (k : InputKind α ε π) (found : Except FileError FileInfo) : Except π α :=
  match found with
  | .error e => .error (k.unreadable e)
  | .ok info =>
      match k.limit?.filter fun l => l.1 < info.size with
      | some l => .error (l.2 info.size)
      | none =>
          match info.text with
          | .error e => .error (k.unreadable e)
          | .ok text => (k.read text).mapError k.refused

def settings : InputKind SettingsFile SettingsFile.FileError SettingsProblem where
  limit? := some (maxSettingsSize, .tooLarge)
  read := SettingsFile.read
  unreadable := .unreadable
  refused := .malformed

def workbook : InputKind Workbook LoadError WorkbookProblem where
  limit? := some (maxWorkbookSize, .tooLarge)
  read := Workbook.load
  unreadable := .unreadable
  refused := .malformed

/-- Dimensions are read from files of any size. -/
def dimensions : InputKind Dimensions Dimensions.LineError DimensionsProblem where
  limit? := none
  read := Dimensions.read
  unreadable := .unreadable
  refused := .malformed

end InputKind

namespace Command

/-- The settings file to read: the one that the command names, or else the user's if there is
one. -/
def settingsPath? (c : Command) (s : Surroundings) : Option String :=
  match c.settings with
  | some path => some path
  | none =>
      s.userSettings.filter fun path =>
        match s.find path with
        | .ok info => info.isFile
        | .error _ => false

/-- The files that a command may read. -/
def inputs (c : Command) (userSettings : Option String) : List String :=
  (c.settings.orElse fun _ => userSettings).toList ++ c.workbook :: c.dimensions.toList

def loadSettings (s : Surroundings) (path : String) : Except SettingsProblem SettingsFile :=
  InputKind.settings.load (s.find path)

def loadWorkbook (s : Surroundings) (path : String) : Except WorkbookProblem Workbook :=
  InputKind.workbook.load (s.find path)

def loadDimensions (s : Surroundings) (path : String) : Except DimensionsProblem Dimensions :=
  InputKind.dimensions.load (s.find path)

/-- The settings of a command and, if they come from a file, its path. -/
def findSettings (c : Command) (s : Surroundings) :
    Except CommandError (SettingsFile × Option String) :=
  match c.settingsPath? s with
  | none => .ok (.standard, none)
  | some path =>
      match loadSettings s path with
      | .error problem => .error (.settings path problem)
      | .ok file => .ok (file, some path)

/-- No dimensions are recorded unless the command names a file of them. -/
def findDimensions (c : Command) (s : Surroundings) : Except CommandError Dimensions :=
  match c.dimensions with
  | none => .ok .empty
  | some path =>
      match loadDimensions s path with
      | .error problem => .error (.dimensions path problem)
      | .ok d => .ok d

/-- The report of a command whose inputs have been read. -/
def report (c : Command) (s : Surroundings) (w : Workbook) (d : Dimensions) (settings : Settings) :
    Report :=
  let r := Report.ofWorkbook w settings s.now
  { r with dimensions := d, title := c.title.getD r.title }

/-- The directory for the pages. -/
def directory (c : Command) (file : SettingsFile) : String :=
  (c.output.orElse fun _ => file.output).getD "."

def settingsLoaded (path : String) : Step := .log ⟨.debug, "Loaded config from " ++ path⟩

def workbookLoaded (w : Workbook) (path : String) : Step :=
  .log ⟨.info, "Loaded " ++ natText w.sheets.length ++ " sheet(s) from " ++ path⟩

/-- All steps of a command, with everything that it logs. -/
def plan (c : Command) (s : Surroundings) : Plan CommandError (List String) :=
  match c.findSettings s with
  | .error e => ⟨[], .error e⟩
  | .ok (file, path?) =>
      let first := path?.toList.map settingsLoaded
      match loadWorkbook s c.workbook with
      | .error problem => ⟨first, .error (.workbook c.workbook problem)⟩
      | .ok w =>
          let loaded := first ++ [workbookLoaded w c.workbook]
          match c.findDimensions s with
          | .error e => ⟨loaded, .error e⟩
          | .ok d =>
              let pages := (c.report s w d file.settings).plan (c.directory file) c.sheets
              ⟨loaded ++ pages.steps,
                match pages.outcome with
                | .ok written => .ok written
                | .error e => .error (.report e)⟩

/-- Whether a step shows at a verbosity; all but log entries always do. -/
def isShown (verbosity : Nat) : Step → Bool
  | .log entry => entry.level.detail ≤ verbosity
  | _ => true

/-- A step as it is seen from outside: log entries are printed. -/
def seen : Step → Step
  | .log entry => .log entry.printed
  | s => s

/-- The steps of a command without the log entries that have not been asked for, and the others as
they are printed. -/
def run (c : Command) (s : Surroundings) : Plan CommandError (List String) :=
  let p := c.plan s
  { p with steps := (p.steps.filter (isShown c.verbosity)).map seen }

end Command

def versionText : String := "gridview 0.1.0\n"

def usageText : String := "Usage: gridview [OPTIONS] <WORKBOOK>\n"

def helpText : String :=
  "Render evaluated spreadsheets and their formulae as cross-linked HTML pages.\n\n" ++
  usageText ++ "\n" ++
  "Arguments:\n" ++
  "  <WORKBOOK>  Workbook JSON with each sheet's values and formulae\n\n" ++
  "Options:\n" ++
  "  -d, --dimensions <FILE>  Tab-separated `sheet<TAB>area` list ordering the navigation strip\n" ++
  "  -o, --output <DIR>       Directory to write pages into (default: current directory)\n" ++
  "  -s, --sheet <NAME>       Only compile this sheet (can be repeated)\n" ++
  "  -t, --title <TITLE>      Report title (overrides the workbook and config title)\n" ++
  "  -c, --config <FILE>      Config file " ++
    "(default: <config dir>/gridview/config.toml if present)\n" ++
  "  -v, --verbose...         Increase log verbosity (-v info, -vv debug)\n" ++
  "  -h, --help               Print help\n" ++
  "  -V, --version            Print version\n"

/-- The lines that tell of the files written. -/
def writtenText (paths : List String) : String :=
  String.join (paths.map fun path => "Wrote " ++ path ++ "\n")

/-- How a run ended: its exit code and what it printed. -/
structure Ending where
  code : Nat
  output : String
  error : Option String
deriving DecidableEq

/-- The ending of a plan, given the error that stopped its steps, if one did. -/
def Ending.ofPlan (p : Plan CommandError (List String)) (failure : Option FileError) : Ending :=
  match failure, p.outcome with
  | some e, _ => ⟨1, "", some e.fullMessage⟩
  | none, .error e => ⟨1, "", some e.message⟩
  | none, .ok paths => ⟨0, writtenText paths, none⟩

end LinkedSheets
