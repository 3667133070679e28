/-!
# Paths

A path is names with slashes between them. It leads on from the working directory, or from the root
if it begins with a slash.
-/

namespace LinkedSheets

-- The path of a file in a directory.
def joinPath (dir file : String) : String :=
  if dir.isEmpty || dir.toList.getLast? = some '/' then dir ++ file else dir ++ "/" ++ file

namespace Path

-- What stands between the slashes of a path.
def segments (path : String) : List String := (path.toList.splitOn '/').map String.ofList

-- The names in a path. Empty ones and single dots mean nothing.
def names (path : String) : List String :=
  (segments path).filter fun name => name ≠ "" && name ≠ "."

def isAbsolute (path : String) : Bool := path.toList.head? = some '/'

-- A single dot at the end stands for the directory before it, which has to be there already.
def endsInDot (path : String) : Bool :=
  ((segments path).filter (· ≠ "")).getLast? = some "."

-- A path that ends in a slash or in a single dot leads to directories only.
def asksForDirectory (path : String) : Bool :=
  path.toList.getLast? = some '/' || endsInDot path

/-- A path, and then the directories on the way to it, from the nearest to the farthest. What is
nearest to a path with a dot at its end is not the directory before the dot, but the one in which
that directory lies. -/
def ancestors (path : String) : List String :=
  let names := names path
  let root := if isAbsolute path then "/" else ""
  path :: (List.range names.length).tail.reverse.map fun n =>
    root ++ String.intercalate "/" (names.take n)

end Path

end LinkedSheets
