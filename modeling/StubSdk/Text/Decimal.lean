/-!
Decimal numerals.

Numbers are written in base ten with no separators. A padded numeral has at least a given
number of digits: zeros are put in front of a shorter one, and a longer one is never cut.
-/

namespace StubSdk.Text

/-- Base-ten digits of a natural number, most significant first. -/
def decimal (n : Nat) : String :=
  String.ofList (Nat.toDigits 10 n)

/-- Base-ten numeral of an integer, with a minus sign in front of a negative one. -/
def signedDecimal (i : Int) : String :=
  match i with
  | .ofNat n => decimal n
  | .negSucc n => "-" ++ decimal (n + 1)

/-- Base-ten digits of `n`, with zeros in front up to `width` digits. -/
def padDecimal (width n : Nat) : String :=
  let digits := Nat.toDigits 10 n
  String.ofList (List.replicate (width - digits.length) '0' ++ digits)

end StubSdk.Text
