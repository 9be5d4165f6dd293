import RecordMarking.Text.Lines
import RecordMarking.Text.Quoted
import RecordMarking.Text.Utf8

/-!
# Source trees

A source tree holds files under paths, the parts of which are separated by slashes. Empty parts
and single periods lead nowhere, so that a path has a plain form without them. A directory is
there as soon as a file lies below it. Texts are UTF-8, and their lines may end in any of the
usual ways.
-/

namespace RecordMarking.Distribution

/-- Why a path cannot be opened as a file. -/
inductive Obstacle where
  | missing
  | notDirectory
  | isDirectory
deriving DecidableEq, Repr

/-- The number and the wording that systems have for an obstacle. -/
def Obstacle.message : Obstacle → String
  | .missing => "[Errno 2] No such file or directory"
  | .notDirectory => "[Errno 20] Not a directory"
  | .isDirectory => "[Errno 21] Is a directory"

/-- Why a source tree cannot be described. The paths are complete. -/
inductive Flaw where
  /-- The interpreter is older than the package supports. -/
  | interpreterTooOld
  /-- A part of the interpreter's version is of a type without numbers. -/
  | versionNotNumeric (typeName : String)
  | unreadable (obstacle : Obstacle) (path : String)
  | undecodable (malformed : Text.Utf8.Malformed)
  /-- A file does not state a version. -/
  | noVersion (path : String)
deriving DecidableEq, Repr

/-- The wording of a flaw. -/
def Flaw.message : Flaw → String
  | .interpreterTooOld => "rpcrm requires Python 3.8+"
  | .versionNotNumeric typeName =>
    "'>=' not supported between instances of '" ++ typeName ++ "' and 'int'"
  | .unreadable obstacle path => obstacle.message ++ ": " ++ Text.quote path
  | .undecodable malformed => malformed.message
  | .noVersion path => "Cannot find __version__ in " ++ path

/-- A path without the parts that lead nowhere. -/
def plainPath (path : String) : String :=
  "/".intercalate ((path.splitOn "/").filter fun part => part != "" && part != ".")

/-- The files below a root directory: their contents by plain path. -/
structure Tree where
  root : String
  files : List (String × Octets)
deriving DecidableEq, Repr

namespace Tree

/-- A tree of files that are given under any of their paths. -/
def ofFiles (root : String) (files : List (String × Octets)) : Tree :=
  ⟨root, files.map fun file => (plainPath file.1, file.2)⟩

/-- A path in the tree as seen from outside. -/
def locate (tree : Tree) (path : String) : String :=
  if path.isEmpty then tree.root else tree.root ++ "/" ++ path

/-- Whether one path lies below another. -/
def liesBelow (path directory : String) : Bool :=
  (directory ++ "/").toList.isPrefixOf path.toList

/-- What hinders the reading of a plain path at which there is no file. -/
def obstacleAt (tree : Tree) (path : String) : Obstacle :=
  if path.isEmpty || tree.files.any fun file => liesBelow file.1 path then .isDirectory
  else if tree.files.any fun file => liesBelow path file.1 then .notDirectory
  else .missing

/-- The contents of a file. -/
def read (tree : Tree) (path : String) : Except Flaw Octets :=
  match tree.files.lookup (plainPath path) with
  | some contents => .ok contents
  | none =>
    .error (.unreadable (tree.obstacleAt (plainPath path)) (tree.locate (plainPath path)))

/-- The contents of a file as text, with a line feed at the end of each line. -/
def readText (tree : Tree) (path : String) : Except Flaw (List Char) := do
  match Text.Utf8.decode (← tree.read path) with
  | .ok text => return Text.normalizeBreaks text.toList
  | .error malformed => throw (.undecodable malformed)

end Tree

end RecordMarking.Distribution
