import LinkedSheets.Files.Basic
import LinkedSheets.Report.Plan

/-!
# File trees

Files and directories held in memory, and what steps do to them.
-/

namespace LinkedSheets

/-- A file's text is missing if its bytes are not the text of anything. -/
structure FileContent where
  size : Nat
  text : Option String
deriving DecidableEq

inductive FileNode where
  | directory
  | file (content : FileContent)
deriving DecidableEq

/-- Files and directories under the names that lead to them from the working directory, which is not
listed itself. Names that begin with two dots lead out of it, and a slash as first name is the
root. -/
abbrev FileTree := Table (List String) FileNode

namespace FileTree

-- The greatest number of bytes in a name.
def longestName : Nat := 255

-- The greatest number of bytes in a path.
def longestPath : Nat := 4095

def root : List String := ["/"]

-- The working directory and those that it lies in.
def isOutward (place : List String) : Bool := place.all (· = "..")

def node? (t : FileTree) (names : List String) : Option FileNode :=
  if isOutward names || names = root then some .directory else t.get? names

-- The directory in which another one lies.
def back (place : List String) : List String :=
  if place = root then root
  else if isOutward place then ".." :: place
  else place.dropLast

/-- Where a path leads to from the directory `place`. All but its last name have to be directories;
two dots lead back. -/
def walk (t : FileTree) (place : List String) : List String → Except FileError (List String)
  | [] => .ok place
  | name :: rest =>
      match t.node? place with
      | none => .error .missing
      | some (.file _) => .error .notDirectory
      | some .directory =>
          if name = ".." then walk t (back place) rest
          else if longestName < name.utf8ByteSize then .error .nameTooLong
          else walk t (place ++ [name]) rest

def resolve (t : FileTree) (path : String) : Except FileError (List String) :=
  if '\x00' ∈ path.toList then .error .badName
  else if longestPath < path.utf8ByteSize then .error .nameTooLong
  else if path.isEmpty then .error .missing
  else t.walk (if Path.isAbsolute path then root else []) (Path.names path)

-- The size that is given for a directory.
def directorySize : Nat := 4096

def find (t : FileTree) (path : String) : Except FileError FileInfo :=
  match t.resolve path with
  | .error e => .error e
  | .ok names =>
      match t.node? names with
      | none => .error .missing
      | some .directory => .ok ⟨false, directorySize, .error .isDirectory⟩
      | some (.file content) =>
          if Path.asksForDirectory path then .error .notDirectory
          else
            .ok ⟨true, content.size, match content.text with
              | some text => .ok text
              | none => .error .notText⟩

-- Makes a directory unless it is there. What it lies in has to be there.
def makeDirectory (t : FileTree) (path : String) : Except FileError FileTree :=
  match t.resolve path with
  | .error e => .error e
  | .ok place =>
      match t.node? place with
      | some .directory => .ok t
      | some (.file _) => .error (if Path.endsInDot path then .notDirectory else .exists)
      | none => if Path.endsInDot path then .error .missing else .ok (t.put place .directory)

-- A tree after a change that may have failed, and the error if it has.
def after (t : FileTree) : Except FileError FileTree → FileTree × Option FileError
  | .ok changed => (changed, none)
  | .error e => (t, some e)

/-- Makes the first of some directories, each of which lies in the next one, and before it as many
of the others as are missing. Those stay if it cannot be made after all. -/
def makeDirectories (t : FileTree) : List String → FileTree × Option FileError
  | [] => (t, none)
  | path :: outer =>
      match t.makeDirectory path with
      | .error .missing =>
          match makeDirectories t outer with
          | (t, none) => t.after (t.makeDirectory path)
          | failed => failed
      | result => t.after result

def putFile (t : FileTree) (path content : String) : Except FileError FileTree :=
  match t.resolve path with
  | .error e => .error e
  | .ok names =>
      if t.node? names = some .directory then .error .isDirectory
      else .ok (t.put names (.file ⟨content.utf8ByteSize, some content⟩))

-- The tree after a step, and the error if it failed.
def step (t : FileTree) : Step → FileTree × Option FileError
  | .log _ => (t, none)
  | .makeDirectory path =>
      if path.isEmpty then (t, none) else t.makeDirectories (Path.ancestors path)
  | .createFile path => t.after (t.putFile path "")
  | .writeFile path content => t.after (t.putFile path content)

/-- What has been done when no more can be: the tree, what was logged, and the error that made an
end to it, if there was one. -/
structure Progress where
  tree : FileTree
  entries : List LogEntry
  failure : Option FileError

def carryOut (t : FileTree) : List Step → Progress
  | [] => ⟨t, [], none⟩
  | .log entry :: rest =>
      let p := carryOut t rest
      { p with entries := entry :: p.entries }
  | s :: rest =>
      match t.step s with
      | (t, some e) => ⟨t, [], some e⟩
      | (t, none) => carryOut t rest

end FileTree

end LinkedSheets
