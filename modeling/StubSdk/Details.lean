import StubSdk.Text.Quoted

/-!
Details: the texts a trace record or an event carries, by key, kept in increasing byte order
of keys with one entry per key. They are written as `{"k": "v", ...}`.
-/

namespace StubSdk

/-- A map from keys to texts, kept sorted by key with one entry per key. -/
structure Details where
  entries : List (String × String)
  deriving DecidableEq, Repr, Inhabited

namespace Details

/-- Details with no entry. -/
def empty : Details := ⟨[]⟩

/-- Puts an entry into a key-sorted list: before the first larger key, or in place of an
entry with the same key. -/
def insertSorted (k v : String) : List (String × String) → List (String × String)
  | [] => [(k, v)]
  | (k', v') :: rest =>
    if k < k' then (k, v) :: (k', v') :: rest
    else if k = k' then (k, v) :: rest
    else (k', v') :: insertSorted k v rest

/-- The details with `k` mapped to `v`, replacing an earlier value of `k`. -/
def insert (d : Details) (k v : String) : Details :=
  ⟨insertSorted k v d.entries⟩

/-- The details built by inserting the pairs in order, so the last pair of a key wins. -/
def ofList (pairs : List (String × String)) : Details :=
  pairs.foldl (fun d p => d.insert p.1 p.2) empty

/-- Keeps, of each run of neighbouring pairs with one key, the last pair only. -/
def keepLastOfRuns : List (String × String) → List (String × String)
  | [] => []
  | [p] => [p]
  | p :: q :: rest =>
    if p.1 = q.1 then keepLastOfRuns (q :: rest) else p :: keepLastOfRuns (q :: rest)

/-- The details collected from pairs as an ordered map collects them: a stable sort by key,
then the last pair of each run of one key. -/
def collect (pairs : List (String × String)) : Details :=
  ⟨keepLastOfRuns (pairs.mergeSort fun a b => decide (a.1 ≤ b.1))⟩

/-- The value of a key, if it has one. -/
def get? (d : Details) (k : String) : Option String :=
  d.entries.lookup k

/-- Whether a key has a value. -/
def contains (d : Details) (k : String) : Bool :=
  (d.get? k).isSome

/-- The number of keys. -/
def size (d : Details) : Nat :=
  d.entries.length

/-- Whether there is no key. -/
def isEmpty (d : Details) : Bool :=
  d.entries.isEmpty

/-- Replaces the values that `f` gives a replacement for, keeping every key in place. -/
def mapValues (f : String → String → Option String) (d : Details) : Details :=
  ⟨d.entries.map fun (k, v) => (k, (f k v).getD v)⟩

/-- One entry as written: the quoted key, a colon and a space, the quoted value. -/
def renderEntry (e : String × String) : String :=
  Text.quote e.1 ++ ": " ++ Text.quote e.2

/-- The written form: the entries in key order between braces, separated by a comma and a
space. -/
def render (d : Details) : String :=
  "\x7b" ++ ", ".intercalate (d.entries.map renderEntry) ++ "\x7d"

end Details

end StubSdk
