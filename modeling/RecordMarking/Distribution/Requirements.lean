import RecordMarking.Distribution.Tree
import RecordMarking.Text.Blank

/-!
# Requirements

A list of requirements is a text with one requirement to a line. Blanks around a requirement
do not count, and neither do empty lines and lines that begin with a number sign.
-/

namespace RecordMarking.Distribution

/-- Whether a stripped line holds a requirement. -/
def isRequirement (line : List Char) : Bool :=
  !line.isEmpty && line.head? != some '#'

/-- The requirements that a text lists. -/
def requirementsIn (text : List Char) : List (List Char) :=
  ((Text.lines text).map Text.strip).filter isRequirement

/-- The requirements that a file of a source tree lists. -/
def Tree.requirements (tree : Tree) (path : String) : Except Flaw (List String) := do
  return (requirementsIn (← tree.readText path)).map .ofList

end RecordMarking.Distribution
