import StubSdk.Json.Doc
import StubSdk.Json.Cursor

/-!
JSON numbers, read as a significand and a power of ten. A number with no fraction or exponent
that fits is an integer; every other one is the nearest double, and one that rounds to
infinity is out of range.
-/

namespace StubSdk.Json

/-- The greatest unsigned 64-bit integer. -/
def u64Limit : Nat := 18446744073709551615

/-- The greatest 32-bit exponent. -/
def exponentLimit : Nat := 2147483647

/-- The double nearest to a natural number (ties to even), as the natural number it is. -/
def nearestDouble (n : Nat) : Nat :=
  let bits := n.log2 + 1
  if bits ≤ 53 then n
  else
    let shift := bits - 53
    let q := n >>> shift
    let r := n - (q <<< shift)
    let half := 1 <<< (shift - 1)
    let q := if r > half || (r == half && q % 2 == 1) then q + 1 else q
    q <<< shift

/-- The least real number that rounds to infinity as a double: the midpoint between the
greatest double, 2^1024 - 2^971, and 2^1024, where ties go to the even significand above. -/
def infinityThreshold : Nat := Nat.pow 2 1024 - Nat.pow 2 970

/-- Whether a number read as `significand × 10^exponent` overflows the doubles: the double of
the significand times the double of the power of ten rounds to infinity, or the power is
beyond the table of powers with a nonzero significand. -/
def overflowsDouble (significand : Nat) (exponent : Int) : Bool :=
  if exponent < 0 || significand == 0 then false
  else if exponent > 308 then true
  else nearestDouble significand * nearestDouble (Nat.pow 10 exponent.toNat) ≥ infinityThreshold

/-- Ends a number read as a double: it must be finite. -/
def finishDouble (significand : Nat) (exponent : Int) : ReadM Doc :=
  if overflowsDouble significand exponent then faultHere "number out of range" else pure .frac

/-- Skips at most `fuel` digits. -/
def skipDigitsFor : Nat → ReadM Unit
  | 0 => pure ()
  | fuel + 1 => do
    match ← peekByte with
    | some b =>
      if isDigit b then
        eat
        skipDigitsFor fuel
      else pure ()
    | none => pure ()

/-- Skips digits. -/
def skipDigits : ReadM Unit := do
  skipDigitsFor (← remaining)

/-- Skips at most `fuel` digits, counting them onto `n`. -/
def countDigitsFor : Nat → Nat → ReadM Nat
  | 0, n => pure n
  | fuel + 1, n => do
    match ← peekByte with
    | some b =>
      if isDigit b then
        eat
        countDigitsFor fuel (n + 1)
      else pure n
    | none => pure n

/-- Skips digits and counts them. -/
def countDigits : ReadM Nat := do
  countDigitsFor (← remaining) 0

/-- Reads at most `fuel` digits into a significand while it fits in 64 bits, counting them
onto `count`: the significand, the count, and whether a digit was left unread because it
would not fit. -/
def readSignificandFor : Nat → Nat → Nat → ReadM (Nat × Nat × Bool)
  | 0, sig, count => pure (sig, count, false)
  | fuel + 1, sig, count => do
    match ← peekByte with
    | some b =>
      if isDigit b then
        let next := sig * 10 + (b.toNat - 48)
        if next > u64Limit then return (sig, count, true)
        else
          eat
          readSignificandFor fuel next (count + 1)
      else return (sig, count, false)
    | none => return (sig, count, false)

/-- Reads digits into a significand while it fits in 64 bits: the significand, the digits
taken, and whether a digit was left unread because it would not fit. -/
def readSignificand (sig : Nat) : ReadM (Nat × Nat × Bool) := do
  readSignificandFor (← remaining) sig 0

/-- Reads at most `fuel` more exponent digits onto `exp`: the exponent, or none once it
passes the 32-bit limit for a number that then reads as zero (a zero significand or a
negative exponent); a nonzero number with a growing exponent is out of range. -/
def readExponentDigitsFor (significand : Nat) (positiveExp : Bool) :
    Nat → Nat → ReadM (Option Nat)
  | 0, exp => pure (some exp)
  | fuel + 1, exp => do
    match ← peekByte with
    | some b =>
      if isDigit b then
        eat
        let next := exp * 10 + (b.toNat - 48)
        if next > exponentLimit then
          if significand != 0 && positiveExp then faultHere "number out of range"
          else
            skipDigits
            return none
        else readExponentDigitsFor significand positiveExp fuel next
      else return some exp
    | none => return some exp

/-- Reads the exponent part after `e` or `E`, given the significand and the power so far. -/
def readExponent (significand : Nat) (start : Int) : ReadM Doc := do
  eat
  let positiveExp ← match ← peekByte with
    | some 43 =>
      eat
      pure true
    | some 45 =>
      eat
      pure false
    | _ => pure true
  match ← nextByte with
  | none => faultHere "EOF while parsing a value"
  | some b =>
    if !isDigit b then faultHere "invalid number"
    else
      match ← readExponentDigitsFor significand positiveExp (← remaining) (b.toNat - 48) with
      | none => return .frac
      | some exp => finishDouble significand (if positiveExp then start + exp else start - exp)

/-- Reads the fraction after the decimal point, given the significand and the power so far;
digits that no longer fit the significand are skipped. At least one digit must follow the
point. -/
def readDecimal (significand : Nat) (before : Int) : ReadM Doc := do
  eat
  let (sig, count, full) ← readSignificand significand
  let exp := before - count
  if full then skipDigits
  else if count == 0 then
    match ← peekByte with
    | some _ => faultAhead "invalid number"
    | none => faultAhead "EOF while parsing a value"
  match ← peekByte with
  | some 101 | some 69 => readExponent sig exp
  | _ => finishDouble sig exp

/-- What follows the integer digits of a number whose significand fits in 64 bits. -/
def afterInteger (positive : Bool) (significand : Nat) : ReadM Doc := do
  match ← peekByte with
  | some 46 => readDecimal significand 0
  | some 101 | some 69 => readExponent significand 0
  | _ =>
    if positive then return .int significand
    else if significand == 0 || significand > 9223372036854775808 then return .frac
    else return .int (-(significand : Int))

/-- Reads a number after its sign. A leading zero stands alone. -/
def readNumber (positive : Bool) : ReadM Doc := do
  match ← nextByte with
  | none => faultHere "EOF while parsing a value"
  | some b =>
    if b == 48 then
      match ← peekByte with
      | some d =>
        if isDigit d then faultAhead "invalid number" else pure ()
      | none => pure ()
      afterInteger positive 0
    else if isDigit b then
      let (sig, _, full) ← readSignificand (b.toNat - 48)
      if full then
        let extra ← countDigits
        match ← peekByte with
        | some 46 => readDecimal sig extra
        | some 101 | some 69 => readExponent sig extra
        | _ => finishDouble sig extra
      else afterInteger positive sig
    else faultHere "invalid number"

end StubSdk.Json
