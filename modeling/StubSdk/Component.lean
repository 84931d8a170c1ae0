import StubSdk.Text.Decimal

/-!
Components.

The SDK has five services, each a component with a numeric id and a product name. Message
ids name a component and a code: `SZSDK`, the component id, and the code padded with zeros to
at least four digits. The id has four digits for every component, so a message id names its
component and code unambiguously.
-/

namespace StubSdk

/-- The five services of the SDK. -/
inductive Component where
  | config
  | configManager
  | diagnostic
  | engine
  | product
  deriving DecidableEq, Repr, Inhabited

namespace Component

/-- Every component, in the order of their ids. -/
def all : List Component :=
  [.config, .configManager, .diagnostic, .engine, .product]

/-- The numeric id of the component. -/
def id : Component → Nat
  | .config => 6031
  | .configManager => 6032
  | .diagnostic => 6033
  | .engine => 6034
  | .product => 6036

/-- The product name of the component, as written in messages and records. -/
def name : Component → String
  | .config => "SzConfig"
  | .configManager => "SzConfigManager"
  | .diagnostic => "SzDiagnostic"
  | .engine => "SzEngine"
  | .product => "SzProduct"

/-- The short name of the component, as shown in debug views. -/
def shortName : Component → String
  | .config => "Config"
  | .configManager => "ConfigManager"
  | .diagnostic => "Diagnostic"
  | .engine => "Engine"
  | .product => "Product"

/-- The lower-case service word of a component, as scripts name it. -/
def word : Component → String
  | .config => "config"
  | .configManager => "config_manager"
  | .diagnostic => "diagnostic"
  | .engine => "engine"
  | .product => "product"

/-- The component a lower-case service word names. -/
def ofWord? (w : String) : Option Component :=
  all.find? (fun c => c.word == w)

/-- The message id of a code: `SZSDK`, the component id, the code padded to four digits. -/
def messageId (c : Component) (code : Nat) : String :=
  "SZSDK" ++ Text.decimal c.id ++ Text.padDecimal 4 code

end Component

end StubSdk
