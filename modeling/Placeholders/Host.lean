import Placeholders.Validation.Rule

/-!
# What the host provides

Descriptors name functions, they never hold them. The host says which names there are.

* A predicate answers whether a value passes; it may fail, and then it answers `none`.
* A producer makes the default of a text; it may fail, and then it is `none`. Producers give the same
  default every time they are asked.
-/

namespace Placeholders

/-- The functions that a descriptor can name. -/
structure Host where
  predicates : List (String × Validation.Predicate) := []
  producers : List (String × Option String) := []

/-- The predicate of a name. -/
def Host.predicate? (host : Host) (name : String) : Option Validation.Predicate :=
  (host.predicates.find? (·.1 == name)).map (·.2)

/-- What the producer of a name makes, if there is a producer of that name. -/
def Host.producer? (host : Host) (name : String) : Option (Option String) :=
  (host.producers.find? (·.1 == name)).map (·.2)

/-- A host that provides nothing. -/
def Host.bare : Host := {}

end Placeholders
