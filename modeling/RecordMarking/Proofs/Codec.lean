import Mathlib.Data.Int.Bitwise
import RecordMarking.Proofs.Output
import RecordMarking.Proofs.Reading

/-!
# The words of markers

A marker and the word that announces it hold the same: the word is the length with a bit above it
for the last fragment, and the marker is what is left of a word when its bits are masked and
shifted. `land_maxLength` and `lor_lastFlag` turn the operations on bits into arithmetic, for words
of any size and sign.

`encodes` and `decodes` are the two directions for all integers, and `carriesMarker` takes them to
the octets of a stream. `markers_correspond_to_words` puts them together: the four octets of a
marker are read back as that marker, and every four octets are those of exactly one.
-/

namespace RecordMarking

namespace Marker

/-- A mask of low bits keeps exactly those of them that the other number lacks. -/
theorem ldiff_two_pow_sub_one (width number : Nat) :
    Nat.ldiff (2 ^ width - 1) number = 2 ^ width - (number % 2 ^ width + 1) := by
  apply Nat.eq_of_testBit_eq
  intro place
  have inside : number % 2 ^ width < 2 ^ width := Nat.mod_lt _ (Nat.two_pow_pos width)
  rw [Nat.testBit_ldiff, Nat.testBit_two_pow_sub_one, Nat.testBit_two_pow_sub_succ inside,
    Nat.testBit_mod_two_pow]
  by_cases below : place < width
  · simp [below]
  · simp [below]

/-- Masking a word, negative ones included, leaves its remainder by the flag. -/
theorem land_maxLength (word : Int) : word.land maxLength = word % 2 ^ 31 := by
  cases word with
  | ofNat number =>
    have masked : number &&& maxLength = number % 2 ^ 31 := Nat.and_two_pow_sub_one_eq_mod number 31
    exact congrArg Nat.cast masked
  | negSucc number =>
    have masked : maxLength.ldiff number = 2 ^ 31 - (number % 2 ^ 31 + 1) :=
      ldiff_two_pow_sub_one 31 number
    have land : (Int.negSucc number).land maxLength = (maxLength.ldiff number : Nat) := rfl
    rw [land, masked, Int.negSucc_emod _ (by decide)]
    omega

/-- Shifting the low bits of a word out leaves its quotient by the flag. -/
theorem shiftRight_eq_ediv (word : Int) : word >>> (31 : Nat) = word / 2 ^ 31 :=
  Int.shiftRight_eq_div_pow word 31

/-- To a length that a marker can announce, setting the flag adds it. -/
theorem lor_lastFlag {number : Int} (nonnegative : 0 ≤ number) (fits : number ≤ maxLength) :
    number.lor lastFlag = number + lastFlag := by
  obtain ⟨length, rfl⟩ := Int.eq_ofNat_of_zero_le nonnegative
  have below : length < 2 ^ 31 := by
    have bounded : length ≤ maxLength := Int.ofNat_le.1 fits
    rw [maxLength] at bounded
    omega
  have lor : (length : Int).lor lastFlag = (length ||| lastFlag : Nat) := rfl
  calc (length : Int).lor lastFlag
      = (lastFlag ||| length : Nat) := by rw [lor, Nat.or_comm]
    _ = (lastFlag + length : Nat) := congrArg Nat.cast (Nat.two_pow_add_eq_or_of_lt below 1).symm
    _ = (length : Int) + lastFlag := by rw [Nat.add_comm, Nat.cast_add]

/-- The word of a marker as an integer, from the integer that its length is. -/
theorem word_toNat {number : Int} (nonnegative : 0 ≤ number) (last : Bool) :
    ((⟨number.toNat, last⟩ : Marker).word : Int) = if last then number + lastFlag else number := by
  have same : ((number.toNat : Nat) : Int) = number := Int.toNat_of_nonneg nonnegative
  cases last <;> simp [word, same]

/-- A value that is an integer outside of what a marker can announce has no word. -/
theorem encode_of_outside {length : Value} {number : Int} (integral : length.whole = .ok number)
    (outside : number < 0 ∨ maxLength < number) (last : Bool) :
    encode length last = .error (.lengthOutOfRange length) := by
  have refused : ¬ (0 ≤ number ∧ number ≤ maxLength) := by omega
  simp [encode, Value.comparedBy_of_whole integral, refused]

/-- A value that is an integer in the range of a marker is encoded as the word of that marker. -/
theorem encode_of_fits {length : Value} {number : Int} (integral : length.whole = .ok number)
    (nonnegative : 0 ≤ number) (fits : number ≤ maxLength) (last : Bool) :
    ∃ word, encode length last = .ok word ∧
      word.whole = .ok (⟨number.toNat, last⟩ : Marker).word := by
  have compared := Value.comparedBy_of_whole integral .atMost
  rw [word_toNat nonnegative]
  cases last with
  | false =>
    refine ⟨length, ?_, integral⟩
    simp [encode, compared, nonnegative, fits]
  | true =>
    refine ⟨.integer (number + lastFlag), ?_, rfl⟩
    simp [encode, compared, nonnegative, fits]

/-- What encoding a length and a flag comes to. -/
structure Encodes (length : Value) (number : Int) (last : Bool) : Prop where
  /-- It fails just where 31 bits do not hold the length. -/
  refuses : ∀ fault, encode length last = .error fault ↔
    (number < 0 ∨ maxLength < number) ∧ fault = .lengthOutOfRange length
  /-- Otherwise its bits are the length and the flag, 32 of them, and they are decoded again. -/
  encoded : 0 ≤ number → number ≤ maxLength → ∃ word bits, encode length last = .ok word ∧
    word.whole = .ok bits ∧ bits = (if last then number.lor lastFlag else number) ∧
    0 ≤ bits ∧ bits < 2 ^ 32 ∧ decodeValue word = .ok ⟨number.toNat, last⟩

theorem encodes {length : Value} {number : Int} (integral : length.whole = .ok number)
    (last : Bool) : Encodes length number last where
  refuses fault := by
    constructor
    · intro failed
      by_cases outside : number < 0 ∨ maxLength < number
      · rw [encode_of_outside integral outside] at failed
        exact ⟨outside, (Except.error.inj failed).symm⟩
      · obtain ⟨word, encoded, _⟩ := encode_of_fits integral (by omega) (by omega) last
        rw [encoded] at failed
        cases failed
    · rintro ⟨outside, rfl⟩
      exact encode_of_outside integral outside last
  encoded nonnegative fits := by
    have announced : (⟨number.toNat, last⟩ : Marker).length ≤ maxLength := Int.toNat_le.2 fits
    obtain ⟨word, encoded, whole⟩ := encode_of_fits integral nonnegative fits last
    refine ⟨word, _, encoded, whole, ?_, Int.natCast_nonneg _, ?_, ?_⟩
    · rw [word_toNat nonnegative, lor_lastFlag nonnegative fits]
    · exact Int.ofNat_lt.2 (word_lt announced)
    · rw [decodeValue, whole]
      exact congrArg Except.ok (decode_word announced)

/-- What decoding a word comes to. -/
structure Decodes (word : Value) (bits : Int) (marker : Marker) : Prop where
  decoded : decodeValue word = .ok marker
  length_eq_emod : (marker.length : Int) = bits % 2 ^ 31
  last_iff_ediv : marker.last = true ↔ bits / 2 ^ 31 = 1
  length_eq_land : (marker.length : Int) = bits.land maxLength
  last_eq_shiftRight : marker.last = (bits >>> (31 : Nat) == 1)
  /-- A word of 32 bits is encoded again. -/
  encoded : 0 ≤ bits → bits < 2 ^ 32 →
    encode (.integer marker.length) marker.last = .ok (.integer bits)

theorem decodes {word : Value} {bits : Int} (integral : word.whole = .ok bits) :
    Decodes word bits (decode bits) := by
  have length_eq : ((decode bits).length : Int) = bits % 2 ^ 31 :=
    Int.toNat_of_nonneg (Int.emod_nonneg bits (by decide))
  have last_eq : (decode bits).last = (bits / 2 ^ 31 == 1) := rfl
  refine ⟨?_, length_eq, ?_, ?_, ?_, ?_⟩
  · rw [decodeValue, integral]
  · rw [last_eq, beq_iff_eq]
  · rw [land_maxLength, length_eq]
  · rw [shiftRight_eq_ediv, last_eq]
  · intro nonnegative below
    obtain ⟨value, rfl⟩ := Int.eq_ofNat_of_zero_le nonnegative
    have small : value < 0x100000000 := Int.ofNat_lt.1 below
    have announced : announce (decode value).length (decode value).last = .ok (decode value) := by
      have fits : ((decode value).length : Int) ≤ maxLength := by
        rw [length_eq, maxLength]
        omega
      rw [announce, if_pos ⟨Int.natCast_nonneg _, fits⟩, Int.toNat_natCast]
    rw [encode_integer, announced]
    exact congrArg (fun word : Nat => Except.ok (Value.integer word)) (word_decode small)

end Marker

/-- What writing the marker of a length comes to, and reading it back. -/
structure Sink.CarriesMarker (length : Value) (number : Int) (last : Bool) (sink : Sink) :
    Prop where
  /-- A length that 31 bits do not hold is refused before anything is written. -/
  refused : number < 0 ∨ Marker.maxLength < number →
    (writeMarker length last).run sink = ⟨.error (.lengthOutOfRange length), [], sink⟩
  /-- Any other is offered as four octets, in one write. -/
  offered : 0 ≤ number → number ≤ Marker.maxLength →
    (⟨number.toNat, last⟩ : Marker).octets.length = 4 ∧
      ((writeMarker length last).run sink).trace = [.offer (⟨number.toNat, last⟩ : Marker).octets]
  /-- A sink that takes them has them added, and that is all. -/
  written : 0 ≤ number → number ≤ Marker.maxLength →
    sink.nextAnswer.takes (⟨number.toNat, last⟩ : Marker).octets = true →
    ((writeMarker length last).run sink).result = .ok () ∧
      ((writeMarker length last).run sink).state.accepted =
        sink.accepted ++ (⟨number.toNat, last⟩ : Marker).octets
  /-- Where they stand, every well-behaved source has them read as the marker, and no further. -/
  readBack : 0 ≤ number → number ≤ Marker.maxLength → ∀ (source : Source) (behind : Octets),
    source.WellBehaved → source.octets = (⟨number.toNat, last⟩ : Marker).octets ++ behind →
    Source.Leaves (Source.readMarker.run source) (.ok ⟨number.toNat, last⟩) behind

namespace Sink

/-- Writing a marker that can be announced is writing its octets. -/
theorem writeMarker_of_fits {length : Value} {number : Int} (integral : length.whole = .ok number)
    (nonnegative : 0 ≤ number) (fits : number ≤ Marker.maxLength) (last : Bool) :
    writeMarker length last = writeAll (⟨number.toNat, last⟩ : Marker).octets := by
  obtain ⟨word, encoded, whole⟩ := Marker.encode_of_fits integral nonnegative fits last
  have octets : Marker.wordOctets word = .ok (⟨number.toNat, last⟩ : Marker).octets := by
    rw [Marker.wordOctets, whole]
    rfl
  rw [writeMarker, encoded]
  exact congrArg (fun written => Activity.conclude written >>= writeAll) octets

theorem carriesMarker {length : Value} {number : Int} (integral : length.whole = .ok number)
    (last : Bool) (sink : Sink) : CarriesMarker length number last sink where
  refused outside := by
    rw [writeMarker, Marker.encode_of_outside integral outside]
    rfl
  offered nonnegative fits := by
    rw [writeMarker_of_fits integral nonnegative fits]
    exact ⟨Marker.length_octets _, (run_writeAll _ sink).1⟩
  written nonnegative fits taken := by
    rw [writeMarker_of_fits integral nonnegative fits]
    have succeeded := (run_writeAll _ sink).2.2.2 taken
    exact ⟨succeeded, (outputs_writeAll _ sink).complete succeeded⟩
  readBack _ fits source behind behaved stands :=
    Source.leaves_readMarker behaved (Int.toNat_le.2 fits) stands

/-- Every four octets are what writing a marker offers, for exactly one length and flag. -/
theorem existsUnique_writeMarker {octets : Octets} (four : octets.length = Marker.size) :
    ∃! announced : Int × Bool, ∀ sink,
      ((writeMarker (.integer announced.1) announced.2).run sink).trace = [.offer octets] := by
  obtain ⟨marker, fits, rfl⟩ := exists_marker_of_length four
  have carries (number : Int) (last : Bool) (sink : Sink) :=
    carriesMarker (Value.whole_integer number) last sink
  refine ⟨(marker.length, marker.last), ?_, ?_⟩
  · intro sink
    exact ((carries marker.length marker.last sink).offered (Int.natCast_nonneg _)
      (Int.ofNat_le.2 fits)).2
  · rintro ⟨number, last⟩ offers
    have offered := offers (.ofAnswers [])
    have among := carries number last (.ofAnswers [])
    by_cases outside : number < 0 ∨ Marker.maxLength < number
    · rw [among.refused outside] at offered
      cases offered
    · have nonnegative : 0 ≤ number := by omega
      have announced : number ≤ Marker.maxLength := by omega
      rw [(among.offered nonnegative announced).2] at offered
      injection offered with event _
      injection event with same
      have marked := Marker.octets_inj (Int.toNat_le.2 announced) fits same
      rw [← marked]
      exact Prod.ext (Int.toNat_of_nonneg nonnegative).symm rfl

end Sink

/-- Markers correspond to words. A length that is an integer is encoded exactly when 31 bits hold
it, then in 32 bits that are decoded again, and every integer is decoded as its low 31 bits and
whether those above are the flag. On a stream a marker is four octets, which every well-behaved
source has read back, and every four octets are those of exactly one marker. -/
theorem markers_correspond_to_words :
    (∀ (length : Value) (number : Int) (last : Bool), length.whole = .ok number →
      Marker.Encodes length number last ∧ ∀ sink, Sink.CarriesMarker length number last sink) ∧
    (∀ (word : Value) (bits : Int), word.whole = .ok bits →
      ∃ marker, Marker.Decodes word bits marker) ∧
    ∀ octets : Octets, octets.length = Marker.size →
      ∃! announced : Int × Bool, ∀ sink,
        ((Sink.writeMarker (.integer announced.1) announced.2).run sink).trace =
          [.offer octets] := by
  refine ⟨?_, ?_, ?_⟩
  · intro length number last integral
    exact ⟨Marker.encodes integral last, Sink.carriesMarker integral last⟩
  · intro word bits integral
    exact ⟨Marker.decode bits, Marker.decodes integral⟩
  · intro octets four
    exact Sink.existsUnique_writeMarker four

/-- The marker of the longest last fragment is four octets of ones. They are read back when they
come in three pieces with another octet behind them, no other length and flag has them written, and
a word of ones without end is a length without the flag. -/
theorem markers_correspond_to_words_of_longest :
    ((Sink.writeMarker (.integer 2147483647) true).run (.ofAnswers [.silent])).state.accepted =
        [255, 255, 255, 255] ∧
      Source.Leaves (Source.readMarker.run [.data [255, 255], .data [255], .data [255, 7]])
        (.ok ⟨2147483647, true⟩) [7] ∧
      (∃ marker, Marker.Decodes (.integer (-1)) (-1) marker ∧ marker = ⟨2147483647, false⟩) ∧
      ∃! announced : Int × Bool, ∀ sink,
        ((Sink.writeMarker (.integer announced.1) announced.2).run sink).trace =
          [.offer [255, 255, 255, 255]] := by
  obtain ⟨encoding, decoding, unique⟩ := markers_correspond_to_words
  have carries := (encoding (.integer 2147483647) 2147483647 true rfl).2 (.ofAnswers [.silent])
  obtain ⟨marker, held⟩ := decoding (.integer (-1)) (-1) rfl
  have behaved : Source.WellBehaved [.data [255, 255], .data [255], .data [255, 7]] := by
    simp [Source.wellBehaved_cons_data, Source.wellBehaved_nil]
  refine ⟨?_, ?_, ⟨marker, held, ?_⟩, ?_⟩
  · exact (carries.written (by decide) (by decide) (by decide)).2
  · exact carries.readBack (by decide) (by decide) _ [7] behaved rfl
  · exact Except.ok.inj (held.decoded.symm.trans rfl)
  · exact unique [255, 255, 255, 255] rfl

end RecordMarking
