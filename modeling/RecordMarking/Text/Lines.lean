/-!
# Lines

A line ends at a line feed. Texts that come from elsewhere may end their lines with a
carriage return, alone or before a line feed; `normalizeBreaks` turns both into a line feed.
-/

namespace RecordMarking.Text

/-- End every line with a line feed alone. -/
def normalizeBreaks : List Char → List Char
  | [] => []
  | '\r' :: '\n' :: rest => '\n' :: normalizeBreaks rest
  | '\r' :: rest => '\n' :: normalizeBreaks rest
  | character :: rest => character :: normalizeBreaks rest

/-- The lines of a text: the pieces between its line feeds, at least one. -/
def lines : List Char → List (List Char)
  | [] => [[]]
  | '\n' :: rest => [] :: lines rest
  | character :: rest =>
    match lines rest with
    | [] => [[character]]
    | line :: others => (character :: line) :: others

end RecordMarking.Text
