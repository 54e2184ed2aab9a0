namespace LedBench

/-- Why an operation gave no answer. -/
inductive Halt (ε : Type) where
  | refused (cause : ε)
  /-- A count would pass the largest 64-bit number, or a bit position the width of its byte. -/
  | trap
  deriving DecidableEq, Repr

/-- The same halt with its cause put in other words. -/
def Halt.map {ε δ : Type} (f : ε → δ) : Halt ε → Halt δ
  | .refused e => .refused (f e)
  | .trap => .trap

/-- A halt together with the state that it left behind. -/
structure Stopped (ε σ : Type) where
  halt : Halt ε
  state : σ

end LedBench
