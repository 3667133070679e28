import LinkedSheets.Command.Run
import Std.Time.Zoned.Database

/-!
# The program

Looks up what a command needs to know, and carries out its steps.
-/

namespace LinkedSheets.Program

/-- The codes of the system come with either sign. -/
def fileError (e : IO.Error) : FileError :=
  match e with
  | .noFileOrDirectory .. => .missing
  | .alreadyExists .. => .exists
  | .inappropriateType _ code _ =>
      if code = 20 ∨ -code = 20 then .notDirectory
      else if code = 21 ∨ -code = 21 then .isDirectory
      else .other (toString e)
  | _ => .other (toString e)

def lookUp (path : String) : IO (Except FileError FileInfo) := do
  try
    let bytes ← IO.FS.readBinFile path
    let text := match String.fromUTF8? bytes with
      | some text => .ok text
      | none => .error .notText
    return .ok ⟨true, bytes.size, text⟩
  catch e => return .error (fileError e)

/-- How far the local clock is ahead of universal time, in seconds. -/
def localOffset (t : Std.Time.Timestamp) : IO Int := do
  try
    let rules ← Std.Time.Database.defaultGetLocalZoneRules
    return (rules.timezoneAt t).offset.second.val
  catch _ => return 0

def currentMoment : IO Moment := do
  let t ← Std.Time.Timestamp.now
  let nanoseconds : Int := t.toNanosecondsSinceUnixEpoch.val
  return .ofEpoch (nanoseconds / 1000000000) (nanoseconds % 1000000000).toNat (← localOffset t)

def surroundings (command : Command) : IO Surroundings := do
  let userSettings := userSettingsPath? (← IO.getEnv "XDG_CONFIG_HOME") (← IO.getEnv "HOME")
  let found ← (command.inputs userSettings).mapM fun path => return (path, ← lookUp path)
  return {
    find := fun path => (found.lookup path).getD (.error .missing)
    userSettings := userSettings
    now := ← currentMoment
  }

/-- Makes a directory unless it is there. -/
def makeDirectory (path : String) : IO Unit := do
  try IO.FS.createDir path
  catch
    -- Only a directory may be in its place.
    | .alreadyExists .. => IO.FS.createDirAll path
    | e => throw e

/-- Makes the first of some directories, each of which lies in the next one. -/
def makeDirectories : List String → IO Unit
  | [] => return
  | path :: outer => do
      try makeDirectory path
      catch
        | .noFileOrDirectory .. =>
            makeDirectories outer
            makeDirectory path
        | e => throw e

def takeStep : Step → IO Unit
  | .log entry => IO.eprintln (entry.level.name ++ " " ++ entry.message)
  | .makeDirectory path => if path.isEmpty then return else makeDirectories (Path.ancestors path)
  | .createFile path => IO.FS.writeFile path ""
  | .writeFile path content => IO.FS.writeFile path content

/-- Takes steps until one fails. -/
def takeSteps (steps : List Step) : IO (Option FileError) := do
  try
    steps.forM takeStep
    return none
  catch e => return some (fileError e)

def write (command : Command) : IO UInt32 := do
  let plan := command.run (← surroundings command)
  let ending := Ending.ofPlan plan (← takeSteps plan.steps)
  IO.print ending.output
  if let some message := ending.error then IO.eprintln ("Error: " ++ message)
  return UInt32.ofNat ending.code

end LinkedSheets.Program

def main (args : List String) : IO UInt32 := do
  match LinkedSheets.Request.ofArguments? args with
  | none => IO.eprint LinkedSheets.usageText; return 2
  | some .version => IO.print LinkedSheets.versionText; return 0
  | some .help => IO.print LinkedSheets.helpText; return 0
  | some (.write command) => LinkedSheets.Program.write command
