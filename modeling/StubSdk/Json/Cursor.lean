/-!
A cursor over the bytes of JSON text, failing with a message at a byte index that is reported
as a line and a column. Every loop takes the number of bytes left as fuel, so it ends as at
the end of the text.
-/

namespace StubSdk.Json

/-- A fault in JSON text: its message and the byte index its position is computed from. -/
structure Fault where
  message : String
  index : Nat

/-- The bytes of the text and the index of the next byte to read. -/
structure Cursor where
  bytes : ByteArray
  pos : Nat

/-- Reading JSON text: a state over a cursor that may fail with a fault. -/
abbrev ReadM := StateT Cursor (Except Fault)

/-- The next byte, if any, left unread. -/
def peekByte : ReadM (Option UInt8) := do
  let r ← get
  return r.bytes[r.pos]?

/-- Steps past the next byte. -/
def eat : ReadM Unit := modify fun r => { r with pos := r.pos + 1 }

/-- The number of bytes left to read. -/
def remaining : ReadM Nat := do
  let r ← get
  return r.bytes.size - r.pos

/-- A fault at the current index (the bytes read so far). -/
def faultHere {α : Type} (msg : String) : ReadM α := do
  let r ← get
  throw ⟨msg, r.pos⟩

/-- A fault at the byte about to be read (one past the current index, capped at the end). -/
def faultAhead {α : Type} (msg : String) : ReadM α := do
  let r ← get
  throw ⟨msg, min r.bytes.size (r.pos + 1)⟩

/-- Reads the next byte, if any. -/
def nextByte : ReadM (Option UInt8) := do
  let b ← peekByte
  if b.isSome then eat
  return b

/-- The blanks between tokens: space, line feed, tab and carriage return. -/
def isBlank (b : UInt8) : Bool := b == 32 || b == 10 || b == 9 || b == 13

/-- Whether a byte is a decimal digit. -/
def isDigit (b : UInt8) : Bool := 48 ≤ b && b ≤ 57

/-- Skips at most `fuel` blanks and gives the byte after them, unread. -/
def skipBlanksFor : Nat → ReadM (Option UInt8)
  | 0 => peekByte
  | fuel + 1 => do
    match ← peekByte with
    | some b =>
      if isBlank b then
        eat
        skipBlanksFor fuel
      else return some b
    | none => return none

/-- Skips blanks and gives the byte after them, unread. -/
def skipBlanks : ReadM (Option UInt8) := do
  skipBlanksFor (← remaining)

/-- Line and column of a byte index: the line counts the line feeds before the index, the
column the bytes after the last of them. -/
def lineColumn (bytes : ByteArray) (index : Nat) : Nat × Nat :=
  (bytes.extract 0 index).toList.foldl
    (fun (lc : Nat × Nat) b => if b == 10 then (lc.1 + 1, 0) else (lc.1, lc.2 + 1)) (1, 0)

/-- The text of a fault: its message and where it stands. -/
def Fault.describe (f : Fault) (bytes : ByteArray) : String :=
  let (line, col) := lineColumn bytes f.index
  f.message ++ " at line " ++ toString line ++ " column " ++ toString col

end StubSdk.Json
