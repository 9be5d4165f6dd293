/-!
# Octet sequences

Everything a stream carries is a finite sequence of octets. This module fixes the
two representations that record marking needs: the four octets of a 32 bit word in
network order, and the cutting of a sequence into consecutive slices. The small
laws beside the definitions say that both lose nothing.
-/

namespace RecordMarking

/-- A finite sequence of octets in stream order. -/
abbrev Octets := List UInt8

/-- A sequence of exactly `count` octets. -/
abbrev SizedOctets (count : Nat) :=
  { octets : Octets // octets.length = count }

namespace Octets

/-- The four octets of a word, most significant first. Of a number that needs more
than 32 bits only the low 32 are kept. -/
def ofWord (word : Nat) : Octets :=
  [UInt8.ofNat (word / 0x1000000), UInt8.ofNat (word / 0x10000), UInt8.ofNat (word / 0x100),
    UInt8.ofNat word]

/-- The word that four octets hold, most significant first. A sequence of any other
length holds no word. -/
def toWord? : Octets → Option Nat
  | [first, second, third, fourth] =>
      some (((first.toNat * 256 + second.toNat) * 256 + third.toNat) * 256 + fourth.toNat)
  | _ => none

@[simp] theorem length_ofWord (word : Nat) : (ofWord word).length = 4 := rfl

/-- Writing a word of 32 bits and reading it back changes nothing. -/
theorem toWord?_ofWord {word : Nat} (fits : word < 0x100000000) :
    toWord? (ofWord word) = some word := by
  simp only [ofWord, toWord?, UInt8.toNat_ofNat', Option.some.injEq]
  omega

/-- A word is held by four octets, and only by the four that `ofWord` writes. -/
theorem eq_ofWord_of_toWord? {octets : Octets} {word : Nat} (held : toWord? octets = some word) :
    octets = ofWord word ∧ word < 0x100000000 := by
  match octets, held with
  | [first, second, third, fourth], held =>
    simp only [toWord?, Option.some.injEq] at held
    have firstBound := first.toNat_lt
    have secondBound := second.toNat_lt
    have thirdBound := third.toNat_lt
    have fourthBound := fourth.toNat_lt
    refine ⟨?_, by omega⟩
    simp only [ofWord, List.cons.injEq, and_true, ← UInt8.toNat_inj, UInt8.toNat_ofNat']
    omega

/-- The consecutive slices of `size` octets, of which the last may be shorter. A size
of zero counts as one. -/
def slices (size : Nat) (octets : Octets) : List Octets :=
  if octets.isEmpty then []
  else octets.take (max 1 size) :: slices size (octets.drop (max 1 size))
termination_by octets.length
decreasing_by
  have nonempty : octets.length ≠ 0 := by
    intro zero
    simp_all [List.length_eq_zero_iff]
  simp only [List.length_drop]
  omega

@[simp] theorem slices_nil (size : Nat) : slices size [] = [] := by
  rw [slices]
  rfl

/-- What has octets has slices. -/
theorem slices_ne_nil (size : Nat) {octets : Octets} (nonempty : octets ≠ []) :
    slices size octets ≠ [] := by
  rw [slices, if_neg (by simpa using nonempty)]
  exact List.cons_ne_nil _ _

/-- Slicing loses nothing and reorders nothing. -/
@[simp] theorem flatten_slices (size : Nat) (octets : Octets) :
    (slices size octets).flatten = octets := by
  fun_induction slices size octets with
  | case1 octets empty => simp_all
  | case2 octets _ inductionHypothesis => simp [inductionHypothesis]

/-- The lowercase hexadecimal text, two digits an octet. -/
def hex (octets : Octets) : String :=
  String.ofList (octets.flatMap fun octet =>
    [Nat.digitChar (octet.toNat / 16), Nat.digitChar (octet.toNat % 16)])

/-- The hexadecimal text has two digits for each octet. -/
@[simp] theorem length_hex (octets : Octets) : octets.hex.length = 2 * octets.length := by
  rw [hex, String.length_ofList]
  induction octets with
  | nil => rfl
  | cons octet rest inductionHypothesis =>
    rw [List.flatMap_cons, List.length_append, inductionHypothesis, List.length_cons]
    simp only [List.length_cons, List.length_nil]
    omega

end Octets

end RecordMarking
