import RecordMarking.Text.Utf8

/-!
# ASCII texts in UTF-8

In UTF-8 a character of ASCII is the single octet of its number. So a text of such characters has
as many octets as characters (`encode_of_ascii`), and decoding gives the text back
(`decode_encode_of_ascii`).
-/

namespace RecordMarking.Text.Utf8

/-- A text of characters below 128. -/
def Ascii (text : String) : Prop :=
  ∀ character ∈ text.toList, character.toNat < 128

-- The characters of the text are checked, and not all characters that there are.
instance (text : String) : Decidable (Ascii text) :=
  List.decidableBAll (fun character : Char => character.toNat < 128) text.toList

/-- The octet of a character of ASCII. -/
def octetOf (character : Char) : UInt8 :=
  UInt8.ofNat character.toNat

/-- Listing the octets of an array from a place on puts them behind those that were listed. -/
theorem loop_toList_eq (array : ByteArray) (place : Nat) (listed : Octets) :
    ByteArray.toList.loop array place listed =
      listed.reverse ++ array.data.toList.drop place := by
  fun_induction ByteArray.toList.loop array place listed with
  | case1 place listed inside inductionHypothesis =>
    have within : place < array.data.toList.length := by simpa using inside
    rw [inductionHypothesis, List.drop_eq_getElem_cons within]
    simp [ByteArray.get!, inside]
  | case2 place listed outside =>
    rw [List.drop_eq_nil_of_le (by simpa using Nat.le_of_not_lt outside), List.append_nil]

/-- The octets of a text are those of its characters. -/
theorem encode_eq (text : String) :
    encode text = text.toList.flatMap String.utf8EncodeChar := by
  have whole : text.toUTF8 = text.toList.utf8Encode := by
    rw [String.toUTF8_eq_toByteArray, ← String.toByteArray_ofList, String.ofList_toList]
  rw [encode, whole, ByteArray.toList, loop_toList_eq]
  simp [List.utf8Encode, List.data_toByteArray]

theorem utf8EncodeChar_of_ascii {character : Char} (ascii : character.toNat < 128) :
    String.utf8EncodeChar character = [octetOf character] := by
  have single : character.utf8Size = 1 := by
    rw [Char.utf8Size_eq_one_iff, UInt32.le_iff_toNat_le]
    exact Nat.le_of_lt_succ ascii
  rw [String.utf8EncodeChar_eq_singleton single]
  rfl

/-- A text of ASCII has one octet for each character. -/
theorem encode_of_ascii {text : String} (ascii : Ascii text) :
    encode text = text.toList.map octetOf := by
  rw [encode_eq]
  rw [Ascii] at ascii
  generalize text.toList = characters at ascii
  induction characters with
  | nil => rfl
  | cons character later inductionHypothesis =>
    obtain ⟨small, others⟩ := List.forall_mem_cons.1 ascii
    rw [List.flatMap_cons, utf8EncodeChar_of_ascii small, inductionHypothesis others]
    rfl

theorem encode_ne_nil {text : String} (ascii : Ascii text) (nonempty : text ≠ "") :
    encode text ≠ [] := by
  rw [encode_of_ascii ascii]
  intro nothing
  exact nonempty (String.toList_eq_nil_iff.1 (List.map_eq_nil_iff.1 nothing))

/-- The octets of characters of ASCII are decoded as these characters, wherever they stand. -/
theorem decodeFrom_of_ascii {characters : List Char}
    (ascii : ∀ character ∈ characters, character.toNat < 128) (position : Nat) :
    decodeFrom position (characters.map octetOf) = .ok characters := by
  induction characters generalizing position with
  | nil =>
    rw [List.map_nil, decodeFrom]
  | cons character later inductionHypothesis =>
    obtain ⟨small, others⟩ := List.forall_mem_cons.1 ascii
    have value : (octetOf character).toNat = character.toNat := by
      rw [octetOf, UInt8.toNat_ofNat']
      omega
    have lead : Lead.ofOctet? (octetOf character) = some ⟨0, 0x80, 0xbf, character.toNat⟩ := by
      simp only [Lead.ofOctet?, value]
      exact if_pos small
    have decoded := inductionHypothesis others (position + 1 + 0)
    rw [List.map_cons, decodeFrom, lead]
    simp [continuation, decoded]

/-- A text of ASCII is what its octets are decoded as. -/
theorem decode_encode_of_ascii {text : String} (ascii : Ascii text) :
    decode (encode text) = .ok text := by
  rw [decode, encode_of_ascii ascii, decodeFrom_of_ascii ascii]
  exact congrArg Except.ok String.ofList_toList

end RecordMarking.Text.Utf8
