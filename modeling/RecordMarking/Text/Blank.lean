/-!
# Blank characters

The characters with the Unicode property White_Space, together with the four
information separators U+001C to U+001F. `strip` removes them from both ends of a
text. U+200B and U+FEFF are invisible but not blank.
-/

namespace RecordMarking.Text

/-- Whether a character is white space or an information separator. -/
def isBlank (character : Char) : Bool :=
  let point := character.toNat
  (9 ≤ point && point ≤ 13) || (0x1c ≤ point && point ≤ 0x20) || point == 0x85 ||
    point == 0xa0 || point == 0x1680 || (0x2000 ≤ point && point ≤ 0x200a) ||
    point == 0x2028 || point == 0x2029 || point == 0x202f || point == 0x205f || point == 0x3000

/-- Whether a character is one of the six blanks of ASCII: space, tab, line feed,
vertical tab, form feed and carriage return. -/
def isAsciiBlank (character : Char) : Bool :=
  let point := character.toNat
  (9 ≤ point && point ≤ 13) || point == 0x20

/-- Remove from both ends of a text the characters that a class holds. -/
def stripWhere (drop : Char → Bool) (text : List Char) : List Char :=
  ((text.dropWhile drop).reverse.dropWhile drop).reverse

/-- Remove the blank characters from both ends of a text. -/
def strip (text : List Char) : List Char :=
  stripWhere isBlank text

end RecordMarking.Text
