/-!
JSON documents.

A request arrives as one line of JSON text. The document read from it keeps what the requests
use: integers that fit in 64 bits keep their value, every other number is only known to be a
number with a fraction or an exponent (no answer ever shows one), and objects keep their
fields in the order written, repeated names included.
-/

namespace StubSdk.Json

/-- A JSON value. Fractional numbers keep no value: no answer ever shows one. -/
inductive Doc where
  | null
  | bool (b : Bool)
  | int (i : Int)
  | frac
  | str (s : String)
  | arr (xs : Array Doc)
  | obj (fields : Array (String × Doc))
  deriving Inhabited

/-- The value of a field of an object: the last one written under the name, as the last
write of a name is the one a map keeps. Anything but an object has no fields. -/
def Doc.field? (d : Doc) (k : String) : Option Doc :=
  match d with
  | .obj fs => fs.toList.reverse.lookup k
  | _ => none

/-- A field that is present and not null. -/
def Doc.given? (d : Doc) (k : String) : Option Doc :=
  match d.field? k with
  | some .null => none
  | other => other

end StubSdk.Json
