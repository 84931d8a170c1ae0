import StubSdk.Service

/-!
Factories.

A factory builds services of every kind from one bag of canned values and one set of
settings. Each service it builds is new and shares nothing with the others; it answers from
the factory's bag and starts with the factory's origin, level and redaction, without writing
or sending anything. A factory made from a bag alone has the default settings, and the
default factory also has an empty bag.
-/

namespace StubSdk

/-- A bag of canned values and the settings for every service built from it. -/
structure Factory where
  values : Bag
  settings : Settings
  deriving Repr

namespace Factory

/-- The factory with a bag and the default settings. -/
def ofBag (values : Bag) : Factory :=
  ⟨values, {}⟩

/-- The default factory: an empty bag and the default settings. -/
def initial : Factory :=
  ⟨Bag.empty, {}⟩

/-- A new service of a component, answering from the factory's bag with its settings. -/
def build (f : Factory) (c : Component) : Service :=
  { component := c, values := f.values, fragments := [],
    envelope := Envelope.configured c f.settings }

end Factory

end StubSdk
