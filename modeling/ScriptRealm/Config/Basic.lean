import ScriptRealm.Number.Basic

/-!
# Realm configuration

The switches of a realm, fixed when it is made.
-/

set_option autoImplicit false

namespace ScriptRealm

/-- The switches of a realm. -/
structure Config where
  /-- Refused writes and deletions are faults even where the caller asked
  for a quiet refusal. -/
  strict : Bool := false
  /-- The bound on the loops that run over values of a script. -/
  maxIterations : Nat := Number.maxSafeInteger
  /-- Own keys list the indices first, in ascending order; otherwise an
  index keeps its place among the texts. -/
  enumerateIndicesFirst : Bool := true
  deriving DecidableEq, Inhabited

end ScriptRealm
