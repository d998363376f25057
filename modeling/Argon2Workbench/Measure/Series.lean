import Argon2Workbench.Number.Binary64

namespace Argon2Workbench

/-- The reading with each number, from zero on; none where the series has ended. -/
abbrev Series (Reading : Type) := Nat → Option Reading

namespace Series

variable {Reading : Type}

/-- Integers that start at one value and go up by steps that grow. -/
def integers (start step growth : Int) : Series Int :=
  fun index => some (start + step * index + growth * index * index)

end Series

end Argon2Workbench
