import RecordMarking.Quantity

/-!
# Fragment markers

A marker announces a fragment: the number of its octets in the low 31 bits of a word, and in
the top bit whether the fragment ends its record. On a stream the word is written as four
octets, most significant first.

`Marker.decode_word` and `Marker.word_decode` say that words of 32 bits and markers whose
length fits are the same thing. `Marker.encode` and `Marker.decodeValue` do the same for lengths
and words that may be any value; `encode_integer` says that on integers `encode` gives the word
of the announced marker.
-/

namespace RecordMarking

/-- The announcement of a fragment of `length` octets. -/
structure Marker where
  length : Nat
  last : Bool
deriving DecidableEq, Repr, Inhabited

namespace Marker

/-- The number of octets a marker takes on a stream. -/
def size : Nat := 4

/-- The largest length that a marker can announce. -/
def maxLength : Nat := 0x7fffffff

/-- The bit of the word that is set when the fragment ends its record. -/
def lastFlag : Nat := 0x80000000

/-- The word of a marker. -/
def word (marker : Marker) : Nat :=
  marker.length + if marker.last then lastFlag else 0

/-- The octets of a marker on a stream. -/
def octets (marker : Marker) : Octets :=
  Octets.ofWord marker.word

/-- The marker for a length, refused when 31 bits do not hold it. -/
def announce (length : Int) (last : Bool) : Except Fault Marker :=
  if 0 ≤ length ∧ length ≤ maxLength then .ok ⟨length.toNat, last⟩
  else .error (.lengthOutOfRange (.integer length))

/-- The marker that any integer holds: its low 31 bits, and whether the bits above them are
exactly the last fragment flag. -/
def decode (word : Int) : Marker :=
  ⟨(word % lastFlag).toNat, word / lastFlag == 1⟩

/-- The word for a length. Without the last fragment flag it is the length as it was given; the
flag can only be added to an integer. -/
def encode (length : Value) (last : Bool) : Except Fault Value :=
  match length.comparedBy .atMost with
  | .error fault => .error fault
  | .ok quantity =>
    if quantity.within 0 maxLength then
      match last, quantity with
      | false, _ => .ok length
      | true, .whole number => .ok (.integer (number + lastFlag))
      | true, .real _ => .error (.inapplicable .addBits length.typeName)
    else .error (.lengthOutOfRange length)

/-- The word for an integer is the word of the marker that is announced for it. -/
theorem encode_integer (length : Int) (last : Bool) :
    encode (.integer length) last =
      (announce length last).map fun marker => .integer marker.word := by
  simp only [encode, announce, Value.comparedBy_integer, Quantity.within_whole, Bool.decide_and,
    Bool.and_eq_true, decide_eq_true_eq]
  split
  · rename_i fits
    have same : ((length.toNat : Nat) : Int) = length := by omega
    cases last <;> simp [Except.map, word, same]
  · rfl

/-- The marker that a word holds, which has to be an integer. -/
def decodeValue (word : Value) : Except Fault Marker :=
  match word.whole with
  | .ok number => .ok (decode number)
  | .error _ => .error (.inapplicable .keepBits word.typeName)

/-- The four octets of a word, which has to be an integer. -/
def wordOctets (word : Value) : Except Fault Octets :=
  match word.whole with
  | .ok number => .ok (Octets.ofWord number.toNat)
  | .error _ => .error .unwritableWord

/-- The marker that four octets hold. -/
def ofOctets? (octets : Octets) : Option Marker :=
  (Octets.toWord? octets).map fun (word : Nat) => decode word

@[simp] theorem length_octets (marker : Marker) : marker.octets.length = size := rfl

/-- A word holds 32 bits when the length fits in 31. -/
theorem word_lt {marker : Marker} (fits : marker.length ≤ maxLength) :
    marker.word < 0x100000000 := by
  simp only [maxLength] at fits
  unfold word lastFlag
  split <;> omega

/-- Decoding the word of a marker gives the marker back. -/
theorem decode_word {marker : Marker} (fits : marker.length ≤ maxLength) :
    decode marker.word = marker := by
  obtain ⟨length, last⟩ := marker
  simp only [maxLength] at fits
  cases last <;> simp only [decode, word, lastFlag, mk.injEq, beq_eq_false_iff_ne, beq_iff_eq,
    Bool.false_eq_true, ↓reduceIte] <;> constructor <;> omega

/-- A word of 32 bits is the word of the marker that it holds. -/
theorem word_decode {value : Nat} (fits : value < 0x100000000) : (decode value).word = value := by
  simp only [decode, word, lastFlag, beq_iff_eq]
  split <;> omega

/-- The octets of a marker are read back as the marker. -/
theorem ofOctets?_octets {marker : Marker} (fits : marker.length ≤ maxLength) :
    ofOctets? marker.octets = some marker := by
  rw [ofOctets?, octets, Octets.toWord?_ofWord (word_lt fits), Option.map_some, decode_word fits]

/-- Markers of the same octets are the same. -/
theorem octets_inj {first second : Marker} (firstFits : first.length ≤ maxLength)
    (secondFits : second.length ≤ maxLength) (same : first.octets = second.octets) :
    first = second := by
  have held : some first = some second := by
    rw [← ofOctets?_octets firstFits, same, ofOctets?_octets secondFits]
  exact Option.some.inj held

end Marker

end RecordMarking
