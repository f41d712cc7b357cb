import ShellStyle.Text.Blank

/-!
# UTF-8

Bytes are decoded one character at a time; the first bytes that are no character decide what is
wrong with the whole. A byte order mark at the start of a file is not part of its text, and neither
is a file that holds nothing but the beginning of one.
-/

namespace ShellStyle.Text

/-- Why bytes are no UTF-8. -/
inductive Utf8Error where
  | invalidStart
  | invalidContinuation
  | unexpectedEnd
  deriving DecidableEq, Repr

/-- The wording of the reason. -/
def Utf8Error.message : Utf8Error → String
  | invalidStart => "invalid start byte"
  | invalidContinuation => "invalid continuation byte"
  | unexpectedEnd => "unexpected end of data"

/-- The bytes of a character. -/
def encodeChar (c : Char) : List UInt8 :=
  let n := c.toNat
  if n < 0x80 then [n.toUInt8]
  else if n < 0x800 then [(0xc0 + n / 0x40).toUInt8, (0x80 + n % 0x40).toUInt8]
  else if n < 0x10000 then
    [(0xe0 + n / 0x1000).toUInt8, (0x80 + n / 0x40 % 0x40).toUInt8, (0x80 + n % 0x40).toUInt8]
  else
    [(0xf0 + n / 0x40000).toUInt8, (0x80 + n / 0x1000 % 0x40).toUInt8,
      (0x80 + n / 0x40 % 0x40).toUInt8, (0x80 + n % 0x40).toUInt8]

/-- The bytes of a text. -/
def encode (t : Text) : List UInt8 :=
  t.flatMap encodeChar

/-- The least and the greatest byte that may follow a first byte of several. -/
def secondRange (first : UInt8) : UInt8 × UInt8 :=
  if first = 0xe0 then (0xa0, 0xbf)
  else if first = 0xed then (0x80, 0x9f)
  else if first = 0xf0 then (0x90, 0xbf)
  else if first = 0xf4 then (0x80, 0x8f)
  else (0x80, 0xbf)

/-- The number of bytes behind a first byte, and the bits it contributes. -/
def leadingByte? (b : UInt8) : Option (Nat × Nat) :=
  if b < 0x80 then some (0, b.toNat)
  else if 0xc2 ≤ b ∧ b ≤ 0xdf then some (1, b.toNat - 0xc0)
  else if 0xe0 ≤ b ∧ b ≤ 0xef then some (2, b.toNat - 0xe0)
  else if 0xf0 ≤ b ∧ b ≤ 0xf4 then some (3, b.toNat - 0xf0)
  else none

/-- Decodes bytes, where `more` bytes of a character are still to come, `bits` are those it has so
far and the next byte must lie between `low` and `high`. -/
def decodeFrom (more bits : Nat) (low high : UInt8) : List UInt8 → Except Utf8Error Text
  | [] => if more = 0 then .ok [] else .error .unexpectedEnd
  | b :: rest =>
    match more with
    | 0 =>
      match leadingByte? b with
      | none => .error .invalidStart
      | some (0, n) => (decodeFrom 0 0 0 0 rest).map (Char.ofNat n :: ·)
      | some (k + 1, n) => decodeFrom (k + 1) n (secondRange b).1 (secondRange b).2 rest
    | k + 1 =>
      if b < low ∨ high < b then .error .invalidContinuation
      else
        let bits := 0x40 * bits + (b.toNat - 0x80)
        if k = 0 then (decodeFrom 0 0 0 0 rest).map (Char.ofNat bits :: ·)
        else decodeFrom k bits 0x80 0xbf rest

/-- The text of some bytes. -/
def decode (bytes : List UInt8) : Except Utf8Error Text :=
  decodeFrom 0 0 0 0 bytes

/-- The text of a file, without the byte order mark it may begin with. -/
def decodeFile : List UInt8 → Except Utf8Error Text
  | [0xef] => .ok []
  | [0xef, 0xbb] => .ok []
  | 0xef :: 0xbb :: 0xbf :: rest => decode rest
  | bytes => decode bytes

end ShellStyle.Text
