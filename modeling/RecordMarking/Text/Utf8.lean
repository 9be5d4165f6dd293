import RecordMarking.Octets

/-!
# UTF-8

Decoding of octets as UTF-8 text, with the exact place and reason of the first failure. A
failure covers the lead octet and the continuation octets accepted after it, so it never
swallows an octet that could begin a character; input that stops inside a character fails
from its lead octet to the end of the input.
-/

namespace RecordMarking.Text.Utf8

/-- Why octets are not UTF-8. -/
inductive Defect where
  /-- No character begins with this octet. -/
  | invalidStart
  /-- The octet after the failing ones does not continue their character. -/
  | invalidContinuation
  /-- The input stops inside a character. -/
  | truncated
deriving DecidableEq, Repr

/-- The wording of a defect. -/
def Defect.message : Defect → String
  | .invalidStart => "invalid start byte"
  | .invalidContinuation => "invalid continuation byte"
  | .truncated => "unexpected end of data"

/-- The first place where octets fail to be UTF-8: `count` octets from `position` on, of
which the first is `lead`. -/
structure Malformed where
  lead : UInt8
  position : Nat
  count : Nat
  defect : Defect
deriving DecidableEq, Repr

/-- The text of a decoding failure: a single octet is shown, several are located. -/
def Malformed.message (malformed : Malformed) : String :=
  let subject :=
    if malformed.count = 1 then
      "byte 0x" ++ Octets.hex [malformed.lead] ++ " in position " ++ toString malformed.position
    else
      "bytes in position " ++ toString malformed.position ++ "-" ++
        toString (malformed.position + malformed.count - 1)
  "'utf-8' codec can't decode " ++ subject ++ ": " ++ malformed.defect.message

/-- What a lead octet promises: how many octets continue the character, which values the
first of them may take, and the bits that the lead itself contributes. -/
structure Lead where
  continuations : Nat
  low : Nat
  high : Nat
  bits : Nat

/-- The promise of a lead octet. The bounds on the first continuation exclude overlong
forms, surrogates and code points above U+10FFFF. -/
def Lead.ofOctet? (octet : UInt8) : Option Lead :=
  let value := octet.toNat
  if value < 0x80 then some ⟨0, 0x80, 0xbf, value⟩
  else if value < 0xc2 then none
  else if value < 0xe0 then some ⟨1, 0x80, 0xbf, value - 0xc0⟩
  else if value < 0xf0 then
    some ⟨2, if value = 0xe0 then 0xa0 else 0x80, if value = 0xed then 0x9f else 0xbf, value - 0xe0⟩
  else if value < 0xf5 then
    some ⟨3, if value = 0xf0 then 0x90 else 0x80, if value = 0xf4 then 0x8f else 0xbf, value - 0xf0⟩
  else none

/-- Read the continuation octets of one character. On success the code point is returned,
otherwise the number of continuation octets accepted and the defect that ended them. -/
def continuation (remaining low high accepted point : Nat) :
    Octets → Except (Nat × Defect) Nat
  | octets =>
    match remaining, octets with
    | 0, _ => .ok point
    | _ + 1, [] => .error (accepted, .truncated)
    | remaining + 1, octet :: rest =>
      if low ≤ octet.toNat ∧ octet.toNat ≤ high then
        continuation remaining 0x80 0xbf (accepted + 1) (point * 64 + octet.toNat % 64) rest
      else .error (accepted, .invalidContinuation)

/-- Decode the octets that stand at a position of a larger input. -/
def decodeFrom (position : Nat) : Octets → Except Malformed (List Char)
  | [] => .ok []
  | octet :: rest =>
    match Lead.ofOctet? octet with
    | none => .error ⟨octet, position, 1, .invalidStart⟩
    | some lead =>
      match continuation lead.continuations lead.low lead.high 0 lead.bits rest with
      | .error (accepted, defect) => .error ⟨octet, position, accepted + 1, defect⟩
      | .ok point =>
        match decodeFrom (position + 1 + lead.continuations) (rest.drop lead.continuations) with
        | .error malformed => .error malformed
        | .ok characters => .ok (Char.ofNat point :: characters)
termination_by octets => octets.length
decreasing_by
  simp only [List.length_drop, List.length_cons]
  omega

/-- Decode octets as UTF-8 text. A byte order mark is a character like any other. -/
def decode (octets : Octets) : Except Malformed String :=
  (decodeFrom 0 octets).map String.ofList

/-- The octets of a text in UTF-8. -/
def encode (text : String) : Octets :=
  text.toUTF8.toList

end RecordMarking.Text.Utf8
