/-!
# UTF-8

Bytes as text. A byte row is text if it is cut into encoded characters without a rest: no byte stands
alone that cannot start a character, no character is written longer than needed, none is a surrogate
half or lies beyond the last code point. Where a row is no text, the fault says from which byte on and
how many bytes belong to the broken character; if the row ends inside a character, there is no such
number.
-/
namespace RecordAccess.Text.Utf8

def encode (s : String) : List UInt8 := s.toUTF8.toList

/-- The characters that the first bytes of a text spell, unless these end within a character. -/
def takeBytes : Nat → List Char → Option (List Char)
  | 0, _ => some []
  | _ + 1, [] => none
  | count + 1, c :: rest =>
    if c.utf8Size ≤ count + 1 then (takeBytes (count + 1 - c.utf8Size) rest).map (c :: ·) else none

inductive Front where
  /-- A character and the number of its bytes. -/
  | char (c : Char) (width : Nat)
  /-- Bytes that belong to no character. -/
  | broken (width : Nat)
  /-- The start of a character and nothing after it. -/
  | cut
  deriving DecidableEq, Repr

/-- Where a byte row stops being text, and the number of bytes of the broken character. -/
structure Fault where
  index : Nat
  width? : Option Nat
  deriving DecidableEq, Repr

def Fault.message (fault : Fault) : String :=
  match fault.width? with
  | some width =>
    "invalid utf-8 sequence of " ++ toString width ++ " bytes from index " ++ toString fault.index
  | none => "incomplete utf-8 byte sequence from index " ++ toString fault.index

/-- The bits of a byte that continues a character. -/
def continued? (byte : UInt8) : Option Nat :=
  if 0x80 ≤ byte ∧ byte < 0xC0 then some (byte.toNat - 0x80) else none

/-- The number of bytes that the first byte of a character announces. -/
def announced (byte : UInt8) : Nat :=
  if byte < 0x80 then 1
  else if 0xC2 ≤ byte ∧ byte < 0xE0 then 2
  else if 0xE0 ≤ byte ∧ byte < 0xF0 then 3
  else if 0xF0 ≤ byte ∧ byte < 0xF5 then 4
  else 0

/-- Whether a character that starts with the first byte may go on with the second. A few first bytes
leave out seconds that would spell a short character long, a surrogate half or too large a number. -/
def admitsSecond (first second : UInt8) : Bool :=
  if first == 0xE0 then 0xA0 ≤ second
  else if first == 0xED then second < 0xA0
  else if first == 0xF0 then 0x90 ≤ second
  else if first == 0xF4 then second < 0x90
  else true

/-- Reads the bytes of a character after its second one: `missing` are still to come, `width` were
read and spell `value`. -/
def finish (missing width value : Nat) (bytes : List UInt8) : Front :=
  match missing, bytes with
  | 0, _ => .char (Char.ofNat value) width
  | _ + 1, [] => .cut
  | missing + 1, byte :: rest =>
    match continued? byte with
    | some bits => finish missing (width + 1) (value * 64 + bits) rest
    | none => .broken width

/-- What stands at the front of a byte row that starts with `byte`. -/
def front (byte : UInt8) (rest : List UInt8) : Front :=
  match announced byte, rest with
  | 0, _ => .broken 1
  | 1, _ => .char (Char.ofNat byte.toNat) 1
  | _, [] => .cut
  | width, second :: rest =>
    match continued? second with
    | some bits =>
      if admitsSecond byte second then
        finish (width - 2) 2 (byte.toNat % (1 <<< (7 - width)) * 64 + bits) rest
      else .broken 1
    | none => .broken 1

/-- Decodes a byte row from the byte numbered `index` on; `done` holds the characters so far, last
first. -/
def decodeFrom (index : Nat) (done : List Char) (bytes : List UInt8) : Except Fault (List Char) :=
  match bytes with
  | [] => .ok done.reverse
  | byte :: rest =>
    match front byte rest with
    | .char c width => decodeFrom (index + width) (c :: done) (rest.drop (width - 1))
    | .broken width => .error ⟨index, some width⟩
    | .cut => .error ⟨index, none⟩
termination_by bytes.length
decreasing_by
  simp only [List.length_drop, List.length_cons]
  omega

def decode (bytes : List UInt8) : Except Fault String := String.ofList <$> decodeFrom 0 [] bytes

/-- The text of a byte row, with a replacement character for what is no text. -/
def decodeLossy (done : List Char) (bytes : List UInt8) : List Char :=
  match bytes with
  | [] => done.reverse
  | byte :: rest =>
    match front byte rest with
    | .char c width => decodeLossy (c :: done) (rest.drop (width - 1))
    | .broken width => decodeLossy ('\uFFFD' :: done) (rest.drop (width - 1))
    | .cut => ('\uFFFD' :: done).reverse
termination_by bytes.length
decreasing_by all_goals simp only [List.length_drop, List.length_cons]; omega

/-- The readable text of a byte row. -/
def readable (bytes : List UInt8) : String := String.ofList (decodeLossy [] bytes)

end RecordAccess.Text.Utf8
