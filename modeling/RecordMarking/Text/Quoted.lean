import RecordMarking.Octets
import RecordMarking.Text.Printable

/-!
# Quoted text and quoted octets

The form in which a text or an octet sequence stands inside a message: between quotes, with
a backslash in front of whatever could not be read back otherwise. Single quotes are used
unless the content holds a single quote and no double quote. A buffer of octets differs in that
single quotes inside it are escaped whichever marks are used.
-/

namespace RecordMarking.Text

/-- The mark that encloses a quoted text: a double quote exactly when the text holds a
single quote and no double quote. -/
def quoteMark (text : List Char) : Char :=
  if text.contains '\'' && !text.contains '"' then '"' else '\''

/-- The lowercase hexadecimal digits of a number, with zeros in front up to a width. -/
def hexDigits (width number : Nat) : List Char :=
  let digits := Nat.toDigits 16 number
  List.replicate (width - digits.length) '0' ++ digits

/-- The escape of a code point that is not written as itself: the shortest of `\xNN`,
`\uNNNN` and `\UNNNNNNNN` that holds it. -/
def escapePoint (point : Nat) : List Char :=
  if point < 0x100 then '\\' :: 'x' :: hexDigits 2 point
  else if point < 0x10000 then '\\' :: 'u' :: hexDigits 4 point
  else '\\' :: 'U' :: hexDigits 8 point

/-- One character of a quoted text, when `plain` says which characters stand for themselves and
`guarded` is the quote that does not. -/
def escapeCharacter (plain : Char → Bool) (guarded character : Char) : List Char :=
  if character = guarded ∨ character = '\\' then ['\\', character]
  else if character = '\n' then ['\\', 'n']
  else if character = '\r' then ['\\', 'r']
  else if character = '\t' then ['\\', 't']
  else if plain character then [character]
  else escapePoint character.toNat

/-- A text between marks, every character escaped that is not `plain` or that is the `guarded`
quote. -/
def quoteBetween (plain : Char → Bool) (guarded mark : Char) (text : List Char) : String :=
  String.ofList (mark :: text.flatMap (escapeCharacter plain guarded) ++ [mark])

/-- A quoted text: printable characters stand for themselves. -/
def quote (text : String) : String :=
  let mark := quoteMark text.toList
  quoteBetween isPrintable mark mark text.toList

/-- The characters that octets stand for. -/
def octetCharacters (octets : Octets) : List Char :=
  octets.map fun octet => Char.ofNat octet.toNat

/-- Whether a character is printable and of ASCII. -/
def isPlainOctet (character : Char) : Bool :=
  0x20 ≤ character.toNat && character.toNat < 0x7f

/-- Quoted octets: the letter `b`, then the octets as characters of which only the
printable ones of ASCII stand for themselves. -/
def quoteOctets (octets : Octets) : String :=
  let characters := octetCharacters octets
  let mark := quoteMark characters
  "b" ++ quoteBetween isPlainOctet mark mark characters

/-- A quoted buffer: its octets, quoted but for the quotes inside, of which single ones are
always escaped and double ones never. -/
def quoteOctetBuffer (octets : Octets) : String :=
  let characters := octetCharacters octets
  "bytearray(b" ++ quoteBetween isPlainOctet '\'' (quoteMark characters) characters ++ ")"

end RecordMarking.Text
