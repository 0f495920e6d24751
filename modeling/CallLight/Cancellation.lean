/-!
# Cancellation

Long work asks now and then whether it has been called off. A `Cancellation` says how many times the
answer is still "go on".
-/

namespace CallLight

/-- How many more checks pass before the work is called off; `none` when it never is. -/
structure Cancellation where
  remaining : Option Nat
deriving DecidableEq, Repr

namespace Cancellation

/-- Work that is never called off. -/
def never : Cancellation := ⟨none⟩

/-- Work that passes `n` checks and is then called off. -/
def after (n : Nat) : Cancellation := ⟨some n⟩

/-- One check: `none` when the work is called off, else what is left. -/
def poll : Cancellation → Option Cancellation
  | ⟨none⟩ => some never
  | ⟨some 0⟩ => none
  | ⟨some (n + 1)⟩ => some (after n)

end Cancellation

end CallLight
