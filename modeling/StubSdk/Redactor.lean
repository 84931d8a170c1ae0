import StubSdk.Details

/-!
Redaction.

A redactor masks the values of a chosen set of detail keys: the value of such a key is
written as four asterisks, and every other value is left as it is. Keys match exactly.
-/

namespace StubSdk

/-- Masks the values of the listed keys. -/
structure Redactor where
  keys : List String
  deriving DecidableEq, Repr

namespace Redactor

/-- What a masked value is written as. -/
def mask : String := "****"

/-- The replacement of a value under a key: the mask for a listed key, none otherwise. -/
def replacement (r : Redactor) (key _value : String) : Option String :=
  if r.keys.contains key then some mask else none

/-- Details with every listed key masked. -/
def apply (r : Redactor) (d : Details) : Details :=
  d.mapValues r.replacement

end Redactor

/-- Details under an optional redactor. -/
def Details.redactWith (r : Option Redactor) (d : Details) : Details :=
  match r with
  | none => d
  | some r => r.apply d

end StubSdk
