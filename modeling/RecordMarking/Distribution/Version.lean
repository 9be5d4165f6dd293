import RecordMarking.Distribution.Tree
import RecordMarking.Text.Blank

/-!
# Versions

A package states its version in one of its files, as a quoted text that is assigned to the
name `__version__`. The statement is found by its looks alone: one blank behind the name, an
equals sign, at least one blank, and a text between quotes, of which the closing one need not
be like the opening one. Blanks may be line breaks, the quoted text may hold none. Of all
lines in which such statements begin the first counts, and on that line the last statement.
-/

namespace RecordMarking.Distribution

/-- The version of this library. -/
def release : String := "0.1.0"

/-- The name that a version is assigned to. -/
def versionName : List Char := "__version__".toList

/-- Whether a character opens or closes a quoted text. -/
def isQuote (character : Char) : Bool :=
  character == '\'' || character == '"'

/-- What stands between the quote that a text begins with and the next one on its line. -/
def quotedText? : List Char → Option (List Char)
  | [] => none
  | opening :: rest =>
    let continues (character : Char) := !isQuote character && character != '\n'
    match rest.dropWhile continues with
    | closing :: _ =>
      if isQuote opening && isQuote closing then some (rest.takeWhile continues) else none
    | [] => none

/-- The version that a text states where it begins. -/
def statedVersion? (text : List Char) : Option (List Char) :=
  if versionName.isPrefixOf text then
    match text.drop versionName.length with
    | before :: '=' :: after :: rest =>
      if Text.isBlank before && Text.isBlank after then quotedText? (rest.dropWhile Text.isBlank)
      else none
    | _ => none
  else none

/-- The version in the last statement that begins on the first line of a text. -/
def lastVersionOnLine? : List Char → Option (List Char)
  | [] => none
  | character :: rest =>
    if character = '\n' then none
    else (lastVersionOnLine? rest).or (statedVersion? (character :: rest))

/-- What stands behind each line break of a text. -/
def afterBreaks : List Char → List (List Char)
  | [] => []
  | character :: rest =>
    if character = '\n' then rest :: afterBreaks rest else afterBreaks rest

/-- The version that a text states. -/
def findVersion? (text : List Char) : Option (List Char) :=
  (text :: afterBreaks text).findSome? lastVersionOnLine?

/-- The file in which the package states its version. -/
def versionFile : String := "src/rpcrm/__init__.py"

/-- The version of the package in a source tree. -/
def Tree.version (tree : Tree) : Except Flaw String := do
  match findVersion? (← tree.readText versionFile) with
  | some version => return .ofList version
  | none => throw (.noVersion (tree.locate versionFile))

end RecordMarking.Distribution
