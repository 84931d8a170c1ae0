import StubSdk.Text.Printable
import StubSdk.Text.GraphemeExtend

/-!
Quoted text, as a debug view writes it: between double quotes, the quote, the backslash and
five control characters escaped by letter, and every grapheme-extending or unprintable
character written as a code-point escape. No escape can be mistaken for a character written as
it is, so the quoted form determines the text.
-/

namespace StubSdk.Text

/-- Lower-case hexadecimal digits of a number, most significant first, without padding. -/
def hexDigits (n : Nat) : List Char :=
  Nat.toDigits 16 n

/-- Whether a character is written as a code-point escape. -/
def needsCodeEscape (c : Char) : Bool :=
  isGraphemeExtend c || !isPrintable c

/-- How one character is written between the quotes. -/
def escapeChar (c : Char) : List Char :=
  if c = '"' then ['\\', '"']
  else if c = '\\' then ['\\', '\\']
  else if c = '\n' then ['\\', 'n']
  else if c = '\r' then ['\\', 'r']
  else if c = '\t' then ['\\', 't']
  else if c = '\x00' then ['\\', '0']
  else if needsCodeEscape c then '\\' :: 'u' :: '\x7b' :: hexDigits c.toNat ++ ['\x7d']
  else [c]

/-- The characters of a text written between the quotes, without the quotes. -/
def escapeChars (cs : List Char) : List Char :=
  cs.flatMap escapeChar

/-- The quoted form of a text: a double quote, each character escaped, a double quote. -/
def quote (s : String) : String :=
  String.ofList ('"' :: escapeChars s.toList ++ ['"'])

/-- A list of texts as shown in a debug view: `[` then the quoted texts separated by a comma
and a space, then `]`. -/
def quoteList (xs : List String) : String :=
  "[" ++ ", ".intercalate (xs.map quote) ++ "]"

end StubSdk.Text
