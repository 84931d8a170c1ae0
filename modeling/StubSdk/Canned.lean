import StubSdk.Text.Quoted
import StubSdk.Text.Decimal

/-!
Canned values.

A bag of canned values maps keys to values of three kinds: a signed 64-bit integer, a text,
or an export handle (an unsigned 64-bit number). Putting a value under a key replaces what the
key held. A typed read returns the value of the key when it has the kind asked for and the
zero of that kind (0, the empty text, handle 0) otherwise.
-/

namespace StubSdk

/-- One canned value. -/
inductive Canned where
  | int64 (value : Int)
  | text (value : String)
  | handle (value : Nat)
  deriving DecidableEq, Repr

namespace Canned

/-- The debug view of a canned value: `Int64(5)`, `String("x")` or `Handle(Handle(7))`. -/
def debugText : Canned → String
  | .int64 v => "Int64(" ++ Text.signedDecimal v ++ ")"
  | .text s => "String(" ++ Text.quote s ++ ")"
  | .handle h => "Handle(Handle(" ++ Text.decimal h ++ "))"

end Canned

/-- A bag of canned values, one per key, kept in the order their keys first arrived. -/
structure Bag where
  entries : List (String × Canned)
  deriving DecidableEq, Repr, Inhabited

namespace Bag

/-- The bag with no value. -/
def empty : Bag := ⟨[]⟩

/-- Replaces the value of the key in place, or adds the key at the end. -/
def putEntry (k : String) (v : Canned) : List (String × Canned) → List (String × Canned)
  | [] => [(k, v)]
  | (k', v') :: rest => if k = k' then (k, v) :: rest else (k', v') :: putEntry k v rest

/-- The bag with `k` holding `v`, whatever it held before. -/
def insert (b : Bag) (k : String) (v : Canned) : Bag :=
  ⟨putEntry k v b.entries⟩

/-- The bag built by putting the pairs in order, so the last value of a key wins. -/
def ofList (pairs : List (String × Canned)) : Bag :=
  pairs.foldl (fun b p => b.insert p.1 p.2) empty

/-- The value a key holds, if any. -/
def get? (b : Bag) (k : String) : Option Canned :=
  b.entries.lookup k

/-- The integer under a key, or 0. -/
def int64 (b : Bag) (k : String) : Int :=
  match b.get? k with
  | some (.int64 v) => v
  | _ => 0

/-- The text under a key, or the empty text. -/
def text (b : Bag) (k : String) : String :=
  match b.get? k with
  | some (.text v) => v
  | _ => ""

/-- The handle under a key, or handle 0. -/
def handle (b : Bag) (k : String) : Nat :=
  match b.get? k with
  | some (.handle v) => v
  | _ => 0

/-- The number of keys. -/
def size (b : Bag) : Nat :=
  b.entries.length

/-- Whether the bag holds no value. -/
def isEmpty (b : Bag) : Bool :=
  b.entries.isEmpty

/-- The debug view of a bag: `CannedValues { values: {"k": V, ...} }`. It is fixed only
for a bag of at most one value, since a larger bag has no order of its own. -/
def debugText (b : Bag) : String :=
  let shown := b.entries.map fun (k, v) => Text.quote k ++ ": " ++ v.debugText
  "CannedValues \x7b values: \x7b" ++ ", ".intercalate shown ++ "\x7d \x7d"

end Bag

end StubSdk
