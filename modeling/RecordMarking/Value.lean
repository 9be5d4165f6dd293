import RecordMarking.Octets
import RecordMarking.Decimal.Shortest
import RecordMarking.Text.Numeral
import RecordMarking.Text.Quoted

/-!
# Values

Most of the library works on octets. A few places accept whatever a caller or a transport
hands over and only report it: socket addresses, arguments of the wrong type, the arguments
an error was raised with. `Value` is what may stand there. It has two written forms:
`literal`, in which text is quoted, and `display`, in which a text on its own is not.
-/

namespace RecordMarking

/-- A datum whose type is known only when the program runs. A floating point number is given
by its binary64 bit pattern. -/
inductive Value where
  | absent
  | truth (value : Bool)
  | integer (value : Int)
  | real (bits : UInt64)
  | text (value : String)
  | octets (value : Octets)
  | octetBuffer (value : Octets)
  | list (items : List Value)
  | tuple (items : List Value)
deriving Repr, Inhabited

namespace Value

mutual

/-- Values are compared constructor by constructor. -/
def decEq : (left right : Value) → Decidable (left = right)
  | .absent, .absent => isTrue rfl
  | .truth left, .truth right =>
    decidable_of_iff (left = right) ⟨congrArg _, fun same => by injection same⟩
  | .integer left, .integer right =>
    decidable_of_iff (left = right) ⟨congrArg _, fun same => by injection same⟩
  | .real left, .real right =>
    decidable_of_iff (left = right) ⟨congrArg _, fun same => by injection same⟩
  | .text left, .text right =>
    decidable_of_iff (left = right) ⟨congrArg _, fun same => by injection same⟩
  | .octets left, .octets right =>
    decidable_of_iff (left = right) ⟨congrArg _, fun same => by injection same⟩
  | .octetBuffer left, .octetBuffer right =>
    decidable_of_iff (left = right) ⟨congrArg _, fun same => by injection same⟩
  | .list left, .list right =>
    match decEqAll left right with
    | isTrue same => isTrue (congrArg _ same)
    | isFalse different => isFalse fun same => different (by injection same)
  | .tuple left, .tuple right =>
    match decEqAll left right with
    | isTrue same => isTrue (congrArg _ same)
    | isFalse different => isFalse fun same => different (by injection same)
  | .absent, .truth _ | .absent, .integer _ | .absent, .real _ | .absent, .text _
  | .absent, .octets _ | .absent, .octetBuffer _ | .absent, .list _ | .absent, .tuple _
  | .truth _, .absent | .truth _, .integer _ | .truth _, .real _ | .truth _, .text _
  | .truth _, .octets _ | .truth _, .octetBuffer _ | .truth _, .list _ | .truth _, .tuple _
  | .integer _, .absent | .integer _, .truth _ | .integer _, .real _ | .integer _, .text _
  | .integer _, .octets _ | .integer _, .octetBuffer _ | .integer _, .list _
  | .integer _, .tuple _
  | .real _, .absent | .real _, .truth _ | .real _, .integer _ | .real _, .text _
  | .real _, .octets _ | .real _, .octetBuffer _ | .real _, .list _ | .real _, .tuple _
  | .text _, .absent | .text _, .truth _ | .text _, .integer _ | .text _, .real _
  | .text _, .octets _ | .text _, .octetBuffer _ | .text _, .list _ | .text _, .tuple _
  | .octets _, .absent | .octets _, .truth _ | .octets _, .integer _ | .octets _, .real _
  | .octets _, .text _ | .octets _, .octetBuffer _ | .octets _, .list _ | .octets _, .tuple _
  | .octetBuffer _, .absent | .octetBuffer _, .truth _ | .octetBuffer _, .integer _
  | .octetBuffer _, .real _ | .octetBuffer _, .text _ | .octetBuffer _, .octets _
  | .octetBuffer _, .list _ | .octetBuffer _, .tuple _
  | .list _, .absent | .list _, .truth _ | .list _, .integer _ | .list _, .real _
  | .list _, .text _ | .list _, .octets _ | .list _, .octetBuffer _ | .list _, .tuple _
  | .tuple _, .absent | .tuple _, .truth _ | .tuple _, .integer _ | .tuple _, .real _
  | .tuple _, .text _ | .tuple _, .octets _ | .tuple _, .octetBuffer _ | .tuple _, .list _ =>
    isFalse (by intro same; cases same)

/-- Lists of values are compared item by item. -/
def decEqAll : (left right : List Value) → Decidable (left = right)
  | [], [] => isTrue rfl
  | left :: leftRest, right :: rightRest =>
    match decEq left right, decEqAll leftRest rightRest with
    | isTrue sameHead, isTrue sameRest => isTrue (by rw [sameHead, sameRest])
    | isFalse different, _ => isFalse fun same => different (by injection same)
    | _, isFalse different => isFalse fun same => different (by injection same)
  | [], _ :: _ | _ :: _, [] => isFalse (by intro same; cases same)

end

instance : DecidableEq Value := decEq

mutual

/-- The written form of a value in which text and octets are quoted. -/
def literal : Value → String
  | .absent => "None"
  | .truth true => "True"
  | .truth false => "False"
  | .integer value => toString value
  | .real bits => (Binary64.ofBits bits).render
  | .text value => Text.quote value
  | .octets value => Text.quoteOctets value
  | .octetBuffer value => Text.quoteOctetBuffer value
  | .list items => "[" ++ ", ".intercalate (literals items) ++ "]"
  | .tuple [item] => "(" ++ literal item ++ ",)"
  | .tuple items => "(" ++ ", ".intercalate (literals items) ++ ")"

/-- The written forms of several values. -/
def literals : List Value → List String
  | [] => []
  | item :: rest => literal item :: literals rest

end

/-- The form in which a value is shown to a person: a text as it is, anything else as its
literal. -/
def display : Value → String
  | .text value => value
  | value => value.literal

mutual

/-- Whether a value can be shown: no number in it has more digits than a numeral may have. -/
def isShowable : Value → Bool
  | .integer value => decide (value.natAbs < Nat.pow 10 Text.maxNumeralDigits)
  | .list items | .tuple items => areShowable items
  | _ => true

/-- Whether several values can be shown. -/
def areShowable : List Value → Bool
  | [] => true
  | item :: rest => isShowable item && areShowable rest

end

/-- The name of a value's type. -/
def typeName : Value → String
  | .absent => "NoneType"
  | .truth _ => "bool"
  | .integer _ => "int"
  | .real _ => "float"
  | .text _ => "str"
  | .octets _ => "bytes"
  | .octetBuffer _ => "bytearray"
  | .list _ => "list"
  | .tuple _ => "tuple"

/-- The items of a value that has a length: the characters of a text, the numbers of an
octet sequence, the members of a list or tuple. -/
def items? : Value → Option (List Value)
  | .text value => some (value.toList.map fun character => .text character.toString)
  | .octets value | .octetBuffer value => some (value.map fun octet => .integer octet.toNat)
  | .list items | .tuple items => some items
  | .absent | .truth _ | .integer _ | .real _ => none

end Value

end RecordMarking
