import RecordMarking.Text.Quoted

/-!
# Quoted octets tell the octets

`readEscaped` reads the first character of a quoted text, and by `readEscaped_escapeCharacter` it
finds the character that was escaped, whatever stands behind it. Since the first mark says which
quote is guarded, octets that are quoted alike are the same octets: `quoteOctets_inj`.
-/

namespace RecordMarking.Text

/-- The number that a lowercase hexadecimal digit stands for. -/
def hexValue (digit : Char) : Nat :=
  if digit.isDigit then digit.toNat - '0'.toNat else digit.toNat - 'a'.toNat + 10

theorem hexValue_digitChar : ∀ value < 16, hexValue (Nat.digitChar value) = value := by
  decide

/-- A number of one octet has two hexadecimal digits. -/
theorem hexDigits_two : ∀ number < 256,
    hexDigits 2 number = [Nat.digitChar (number / 16), Nat.digitChar (number % 16)] := by
  decide +kernel

/-- The character that stands first in a quoted text, and what is behind it. -/
def readEscaped : List Char → Option (Char × List Char)
  | '\\' :: 'x' :: high :: low :: rest =>
    some (Char.ofNat (hexValue high * 16 + hexValue low), rest)
  | '\\' :: 'n' :: rest => some ('\n', rest)
  | '\\' :: 'r' :: rest => some ('\r', rest)
  | '\\' :: 't' :: rest => some ('\t', rest)
  | '\\' :: character :: rest => some (character, rest)
  | character :: rest => some (character, rest)
  | [] => none

theorem readEscaped_of_plain {character : Char} (other : character ≠ '\\') (rest : List Char) :
    readEscaped (character :: rest) = some (character, rest) := by
  unfold readEscaped
  split <;> simp_all

theorem readEscaped_escapePoint {point : Nat} (small : point < 256) (rest : List Char) :
    readEscaped (escapePoint point ++ rest) = some (Char.ofNat point, rest) := by
  have high := hexValue_digitChar (point / 16) (by omega)
  have low := hexValue_digitChar (point % 16) (by omega)
  rw [escapePoint, if_pos small, hexDigits_two point small]
  simp only [List.cons_append, List.nil_append, readEscaped, high, low, Nat.div_add_mod']

section Quotes

variable {plain : Char → Bool} {guarded : Char}

/-- A character of one octet that was escaped is read back, with what stands behind it. -/
theorem readEscaped_escapeCharacter {character : Char} (isQuote : guarded = '\'' ∨ guarded = '"')
    (small : character.toNat < 256) (rest : List Char) :
    readEscaped (escapeCharacter plain guarded character ++ rest) = some (character, rest) := by
  unfold escapeCharacter
  split
  · rename_i escaped
    rcases escaped with rfl | rfl
    · rcases isQuote with rfl | rfl <;> rfl
    · rfl
  rename_i unescaped
  split
  · subst character
    rfl
  split
  · subst character
    rfl
  split
  · subst character
    rfl
  split
  · exact readEscaped_of_plain (fun same => unescaped (.inr same)) rest
  · rw [readEscaped_escapePoint small, Char.ofNat_toNat]

/-- Characters of one octet that are escaped alike are the same. -/
theorem flatMap_escapeCharacter_inj (isQuote : guarded = '\'' ∨ guarded = '"')
    {first second : List Char} (firstSmall : ∀ character ∈ first, character.toNat < 256)
    (secondSmall : ∀ character ∈ second, character.toNat < 256)
    (alike : first.flatMap (escapeCharacter plain guarded) =
      second.flatMap (escapeCharacter plain guarded)) :
    first = second := by
  have read (character : Char) (rest : List Char)
      (small : ∀ other ∈ character :: rest, other.toNat < 256) :
      readEscaped ((character :: rest).flatMap (escapeCharacter plain guarded)) =
        some (character, rest.flatMap (escapeCharacter plain guarded)) :=
    readEscaped_escapeCharacter isQuote (small character (.head rest)) _
  induction first generalizing second with
  | nil =>
    cases second with
    | nil => rfl
    | cons character rest =>
      have found := read character rest secondSmall
      rw [← alike] at found
      cases found
  | cons character rest inductionHypothesis =>
    have found := read character rest firstSmall
    cases second with
    | nil =>
      rw [alike] at found
      cases found
    | cons other others =>
      rw [alike, read other others secondSmall, Option.some_inj, Prod.mk.injEq] at found
      obtain ⟨rfl, behind⟩ := found
      rw [inductionHypothesis (fun among inRest => firstSmall among (.tail _ inRest))
        (fun among inOthers => secondSmall among (.tail _ inOthers)) behind.symm]

end Quotes

theorem isQuote_quoteMark (text : List Char) : quoteMark text = '\'' ∨ quoteMark text = '"' := by
  unfold quoteMark
  split
  · exact .inr rfl
  · exact .inl rfl

theorem toNat_ofNat_octet (octet : UInt8) : (Char.ofNat octet.toNat).toNat = octet.toNat := by
  have small := octet.toNat_lt
  rw [Char.ofNat, dif_pos (.inl (by omega))]
  rfl

theorem small_of_mem_octetCharacters {octets : Octets} {character : Char}
    (among : character ∈ octetCharacters octets) : character.toNat < 256 := by
  obtain ⟨octet, _, rfl⟩ := List.mem_map.1 among
  rw [toNat_ofNat_octet]
  exact octet.toNat_lt

theorem octetCharacters_inj {first second : Octets}
    (alike : octetCharacters first = octetCharacters second) : first = second := by
  refine (List.map_inj_right ?_).1 alike
  intro octet other same
  rw [← UInt8.toNat_inj, ← toNat_ofNat_octet octet, same, toNat_ofNat_octet]

/-- Octets that are quoted alike are the same. -/
theorem quoteOctets_inj {first second : Octets} (alike : quoteOctets first = quoteOctets second) :
    first = second := by
  simp only [quoteOctets, quoteBetween, String.append_right_inj, String.ofList_inj,
    List.cons_append, List.cons.injEq] at alike
  obtain ⟨sameMark, sameBody⟩ := alike
  rw [sameMark] at sameBody
  exact octetCharacters_inj (flatMap_escapeCharacter_inj (isQuote_quoteMark _)
    (fun _ => small_of_mem_octetCharacters) (fun _ => small_of_mem_octetCharacters)
    (List.append_cancel_right sameBody))

end RecordMarking.Text
