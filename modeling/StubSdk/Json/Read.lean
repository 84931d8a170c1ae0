import StubSdk.Json.Doc
import StubSdk.Json.Cursor
import StubSdk.Json.Strings
import StubSdk.Json.Number

/-!
Reading a JSON document from one line of text, containers nesting at most 127 deep. The first
fault is reported as `<message> at line L column C`, and the readers, which call one another,
share a fuel of twice the length of the text and one more, which is always enough.
-/

namespace StubSdk.Json

/-- The deepest nesting of containers a document may have. -/
def depthLimit : Nat := 128

/-- Reads the rest of a literal word. -/
def readIdent (rest : List UInt8) : ReadM Unit := do
  for expected in rest do
    match ← nextByte with
    | none => faultHere "EOF while parsing a value"
    | some b => if b != expected then faultHere "expected ident" else pure ()

mutual

/-- Reads a value inside `depth` open containers. -/
def readValue : Nat → Nat → ReadM Doc
  | 0, _ => faultAhead "EOF while parsing a value"
  | fuel + 1, depth => do
    match ← skipBlanks with
    | none => faultAhead "EOF while parsing a value"
    | some b =>
      if b == 110 then
        eat
        readIdent [117, 108, 108]
        return .null
      else if b == 116 then
        eat
        readIdent [114, 117, 101]
        return .bool true
      else if b == 102 then
        eat
        readIdent [97, 108, 115, 101]
        return .bool false
      else if b == 45 then
        eat
        readNumber false
      else if isDigit b then readNumber true
      else if b == 34 then
        eat
        return .str (← readString)
      else if b == 91 then
        if depth + 1 ≥ depthLimit then faultAhead "recursion limit exceeded"
        eat
        let xs ← readElements fuel (depth + 1) #[] true
        match ← skipBlanks with
        | some 93 =>
          eat
          return .arr xs
        | some 44 =>
          eat
          match ← skipBlanks with
          | some 93 => faultAhead "trailing comma"
          | _ => faultAhead "trailing characters"
        | some _ => faultAhead "trailing characters"
        | none => faultAhead "EOF while parsing a list"
      else if b == 123 then
        if depth + 1 ≥ depthLimit then faultAhead "recursion limit exceeded"
        eat
        let fs ← readFields fuel (depth + 1) #[] true
        match ← skipBlanks with
        | some 125 =>
          eat
          return .obj fs
        | some 44 => faultAhead "trailing comma"
        | some _ => faultAhead "trailing characters"
        | none => faultAhead "EOF while parsing an object"
      else faultAhead "expected value"

/-- Reads the elements of an array up to its closing bracket, left unread. -/
def readElements : Nat → Nat → Array Doc → Bool → ReadM (Array Doc)
  | 0, _, _, _ => faultAhead "EOF while parsing a list"
  | fuel + 1, depth, acc, first => do
    let peek ← match ← skipBlanks with
      | some 93 => return acc
      | some 44 =>
        if first then pure (some (44 : UInt8))
        else
          eat
          skipBlanks
      | some b =>
        if first then pure (some b) else faultAhead "expected `,` or `]`"
      | none => faultAhead "EOF while parsing a list"
    match peek with
    | some 93 => faultAhead "trailing comma"
    | some _ =>
      let v ← readValue fuel depth
      readElements fuel depth (acc.push v) false
    | none => faultAhead "EOF while parsing a value"

/-- Reads the fields of an object up to its closing brace, left unread. -/
def readFields : Nat → Nat → Array (String × Doc) → Bool → ReadM (Array (String × Doc))
  | 0, _, _, _ => faultAhead "EOF while parsing an object"
  | fuel + 1, depth, acc, first => do
    let peek ← match ← skipBlanks with
      | some 125 => return acc
      | some 44 =>
        if first then pure (some (44 : UInt8))
        else
          eat
          skipBlanks
      | some b =>
        if first then pure (some b) else faultAhead "expected `,` or `\x7d`"
      | none => faultAhead "EOF while parsing an object"
    match peek with
    | some 34 =>
      eat
      let key ← readString
      match ← skipBlanks with
      | some 58 => eat
      | some _ => faultAhead "expected `:`"
      | none => faultAhead "EOF while parsing an object"
      let v ← readValue fuel depth
      readFields fuel depth (acc.push (key, v)) false
    | some 125 => faultAhead "trailing comma"
    | some _ => faultAhead "key must be a string"
    | none => faultAhead "EOF while parsing a value"

end

/-- Reads a whole document: one value, with only blanks after it. -/
def readDocument : ReadM Doc := do
  let v ← readValue (2 * (← remaining) + 1) 0
  match ← skipBlanks with
  | some _ => faultAhead "trailing characters"
  | none => return v

/-- Reads the JSON text of a line, or tells the first fault in it and where it stands. -/
def Doc.read (text : String) : Except String Doc :=
  let bytes := text.toUTF8
  match readDocument.run ⟨bytes, 0⟩ with
  | .ok (v, _) => .ok v
  | .error f => .error (f.describe bytes)

end StubSdk.Json
