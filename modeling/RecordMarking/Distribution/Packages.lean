import RecordMarking.Distribution.Tree

/-!
# Packages

A directory below the package root is a package if it holds a marking file and the directory
it lies in is a package or the root. A directory with a period in its name is none, because
the dotted name of a package could not tell it from two directories. The top directory
`ez_setup` and directories with names that end in `__pycache__` hold tools and caches; they
are not listed, but packages in them are.
-/

namespace RecordMarking.Distribution

/-- The directory that holds the packages. -/
def packageRoot : String := "src"

/-- The file that makes a directory a package. -/
def markingFile : String := "__init__.py"

/-- The directory, as the names on the way to it from the package root, that a file marks. -/
def markedDirectory? (path : String) : Option (List String) :=
  match path.splitOn "/" with
  | [] => none
  | root :: names =>
    if root = packageRoot ∧ names.getLast? = some markingFile ∧ names.length ≠ 1 then
      some names.dropLast
    else none

/-- Whether a directory is a package, given all marked directories. -/
def isPackage (marked : List (List String)) (directory : List String) : Bool :=
  directory.all (fun name => !name.toList.contains '.') &&
    (List.range directory.length).all fun depth => marked.contains (directory.take (depth + 1))

/-- The dotted name of a package. -/
def dottedName (directory : List String) : String :=
  ".".intercalate directory

/-- Whether a package is listed. -/
def isListed (name : String) : Bool :=
  name != "ez_setup" && !"__pycache__".toList.isSuffixOf name.toList

/-- The names of the packages in a source tree, in order. -/
def Tree.packages (tree : Tree) : List String :=
  let marked := tree.files.filterMap fun file => markedDirectory? file.1
  (((marked.filter (isPackage marked)).map dottedName).filter isListed).mergeSort
    fun left right => !decide (right < left)

end RecordMarking.Distribution
