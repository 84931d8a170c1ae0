import StubSdk.Json.Cursor

/-!
JSON strings, read byte by byte up to the closing quote. A backslash starts one of the
standard escapes, a leading surrogate must be followed by a trailing one, and raw control
characters are refused.
-/

namespace StubSdk.Json

/-- The value of a hexadecimal digit. -/
def hexValue (b : UInt8) : Option Nat :=
  if 48 ≤ b && b ≤ 57 then some (b.toNat - 48)
  else if 97 ≤ b && b ≤ 102 then some (b.toNat - 87)
  else if 65 ≤ b && b ≤ 70 then some (b.toNat - 55)
  else none

/-- The number written by four hexadecimal digits from index `i`. -/
def hexQuad (bytes : ByteArray) (i : Nat) : Option Nat := do
  let a ← hexValue (← bytes[i]?)
  let b ← hexValue (← bytes[i + 1]?)
  let c ← hexValue (← bytes[i + 2]?)
  let d ← hexValue (← bytes[i + 3]?)
  return ((a * 16 + b) * 16 + c) * 16 + d

/-- Reads the four hexadecimal digits after `\u`. All four are taken before they are
checked; with fewer than four bytes left the string ends too soon. -/
def hexEscape : ReadM Nat := do
  let r ← get
  if r.pos + 4 ≤ r.bytes.size then
    set { r with pos := r.pos + 4 }
    match hexQuad r.bytes r.pos with
    | some n => return n
    | none => faultHere "invalid escape"
  else
    set { r with pos := r.bytes.size }
    faultHere "EOF while parsing a string"

/-- Appends the UTF-8 bytes of a character. -/
def pushChar (buf : ByteArray) (c : Char) : ByteArray :=
  buf ++ (String.singleton c).toUTF8

/-- The next byte, which a string that is still open needs. -/
def peekInString : ReadM UInt8 := do
  match ← peekByte with
  | some b => return b
  | none => faultHere "EOF while parsing a string"

/-- Reads the second half of a surrogate pair after its first half `n`. -/
def readLowSurrogate (buf : ByteArray) (n : Nat) : ReadM ByteArray := do
  if (← peekInString) == 92 then eat
  else
    eat
    faultHere "unexpected end of hex escape"
  if (← peekInString) == 117 then eat
  else
    eat
    faultHere "unexpected end of hex escape"
  let n2 ← hexEscape
  if n2 < 0xDC00 || n2 > 0xDFFF then faultHere "lone leading surrogate in hex escape"
  else return pushChar buf (Char.ofNat ((n - 0xD800) * 1024 + (n2 - 0xDC00) + 0x10000))

/-- Reads the escape after a backslash into the buffer. -/
def readEscape (buf : ByteArray) : ReadM ByteArray := do
  match ← nextByte with
  | none => faultHere "EOF while parsing a string"
  | some b =>
    if b == 34 then return buf.push 34
    else if b == 92 then return buf.push 92
    else if b == 47 then return buf.push 47
    else if b == 98 then return buf.push 8
    else if b == 102 then return buf.push 12
    else if b == 110 then return buf.push 10
    else if b == 114 then return buf.push 13
    else if b == 116 then return buf.push 9
    else if b == 117 then
      let n ← hexEscape
      if 0xDC00 ≤ n && n ≤ 0xDFFF then faultHere "lone leading surrogate in hex escape"
      else if n < 0xD800 || n > 0xDBFF then return pushChar buf (Char.ofNat n)
      else readLowSurrogate buf n
    else faultHere "invalid escape"

/-- Reads the rest of a string into the buffer, for at most `fuel` more bytes. -/
def readStringFor : Nat → ByteArray → ReadM String
  | 0, _ => faultHere "EOF while parsing a string"
  | fuel + 1, buf => do
    match ← peekByte with
    | none => faultHere "EOF while parsing a string"
    | some b =>
      if b == 34 then
        eat
        return (String.fromUTF8? buf).getD ""
      else if b == 92 then
        eat
        readStringFor fuel (← readEscape buf)
      else if b < 32 then
        eat
        faultHere "control character (\\u0000-\\u001F) found while parsing a string"
      else
        eat
        readStringFor fuel (buf.push b)

/-- Reads the rest of a string after its opening quote. -/
def readString : ReadM String := do
  readStringFor (← remaining) ByteArray.empty

end StubSdk.Json
