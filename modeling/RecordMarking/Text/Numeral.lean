import RecordMarking.Text.Blank
import RecordMarking.Text.Digit

/-!
# Decimal numerals

The integers a person may type: blanks around, a sign, decimal digits of any script, leading
zeros, and single underscores between digits. A numeral has at most 4300 digits.
-/

namespace RecordMarking.Text

/-- The largest number of digits in a numeral. -/
def maxNumeralDigits : Nat := 4300

/-- A character as numerals see it: outside ASCII every blank counts as a space and every
decimal digit as the ASCII digit of its value. -/
def numeralCharacter (character : Char) : Char :=
  if character.toNat < 0x7f then character
  else if isBlank character then ' '
  else match digitValue? character with
    | some value => Nat.digitChar value
    | none => character

/-- The value of an ASCII digit. -/
def asciiDigitValue? (character : Char) : Option Nat :=
  if character.isDigit then some (character.toNat - '0'.toNat) else none

/-- The digits of a numeral without sign and blanks, most significant first. Each
underscore has to stand between two digits, which `separated` tracks. -/
def numeralDigits? (separated : Bool) : List Char → Option (List Nat)
  | [] => if separated then some [] else none
  | character :: rest =>
    match asciiDigitValue? character with
    | some value => (numeralDigits? true rest).map (value :: ·)
    | none =>
      if character = '_' ∧ separated = true then numeralDigits? false rest else none

/-- The value of a nonempty unsigned numeral. -/
def natural? (characters : List Char) : Option Nat :=
  match numeralDigits? false characters with
  | some digits =>
    if digits.length ≤ maxNumeralDigits then
      some (digits.foldl (fun value digit => value * 10 + digit) 0)
    else none
  | none => none

/-- The integer that a numeral denotes, if the text is one. -/
def integer? (text : String) : Option Int :=
  match stripWhere isAsciiBlank (text.toList.map numeralCharacter) with
  | '-' :: digits => (natural? digits).map fun value => -(value : Int)
  | '+' :: digits => (natural? digits).map fun value => (value : Int)
  | digits => (natural? digits).map fun value => (value : Int)

end RecordMarking.Text
