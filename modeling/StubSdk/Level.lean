import StubSdk.Text.Quoted
import StubSdk.Text.Decimal

/-!
Log levels, TRACE to PANIC, INFO being the default. A name is read by comparing it with the
seven names, ASCII letters taken in either case, and a message code carries its level in its
thousands.
-/

namespace StubSdk

/-- The seven log levels, least severe first. -/
inductive Level where
  | trace
  | debug
  | info
  | warn
  | error
  | fatal
  | panic
  deriving DecidableEq, Repr, Inhabited

namespace Level

/-- Every level, least severe first. -/
def all : List Level :=
  [.trace, .debug, .info, .warn, .error, .fatal, .panic]

/-- The position of a level in the order of severity. -/
def rank : Level → Nat
  | .trace => 0
  | .debug => 1
  | .info => 2
  | .warn => 3
  | .error => 4
  | .fatal => 5
  | .panic => 6

instance : LE Level := ⟨fun a b => a.rank ≤ b.rank⟩

instance (a b : Level) : Decidable (a ≤ b) :=
  inferInstanceAs (Decidable (a.rank ≤ b.rank))

/-- The upper-case name of a level. -/
def name : Level → String
  | .trace => "TRACE"
  | .debug => "DEBUG"
  | .info => "INFO"
  | .warn => "WARN"
  | .error => "ERROR"
  | .fatal => "FATAL"
  | .panic => "PANIC"

/-- Two texts are equal once their ASCII letters are all taken in lower case. -/
def sameIgnoringAsciiCase (a b : String) : Bool :=
  a.toList.map Char.toLower == b.toList.map Char.toLower

/-- The level a name denotes, if any. -/
def parse? (s : String) : Option Level :=
  all.find? (fun l => sameIgnoringAsciiCase l.name s)

/-- Whether a text names a level. -/
def isValidName (s : String) : Bool :=
  (parse? s).isSome

/-- The message for a text that names no level. -/
def unknownMessage (s : String) : String :=
  "unknown log level " ++ Text.quote s

/-- The level of a message code: one level per thousand from TRACE up to PANIC, and INFO
for every code from 7000 on. -/
def forMessage (code : Nat) : Level :=
  if code < 1000 then .trace
  else if code < 2000 then .debug
  else if code < 3000 then .info
  else if code < 4000 then .warn
  else if code < 5000 then .error
  else if code < 6000 then .fatal
  else if code < 7000 then .panic
  else .info

/-- The severity a console line is written with: FATAL and PANIC are written as ERROR. -/
def severity : Level → Level
  | .fatal => .error
  | .panic => .error
  | l => l

end Level

end StubSdk
