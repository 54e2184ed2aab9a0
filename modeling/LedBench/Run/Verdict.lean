import LedBench.Script.Basic

namespace LedBench.Run

/-- An assertion and whether it is true of the run. -/
structure Judgement where
  assertion : Assertion
  passed : Bool
  deriving DecidableEq, Repr

def judge (o : Observed) (assertions : List Assertion) : List Judgement :=
  assertions.map fun a => ⟨a, a.holds o⟩

inductive Verdict where
  | pass
  | fail
  /-- The run was cut short by a fault, and no assertion says anything of how it would end. -/
  | error
  deriving DecidableEq, Repr

namespace Verdict

def name : Verdict → String
  | pass => "pass"
  | fail => "fail"
  | error => "error"

def concernsEnd : Assertion → Bool
  | .stopReason _ => true
  | _ => false

/-- The verdict on a run. An assertion that does not hold weighs more than a fault. -/
def ofJudgements (reason : StopReason) (js : List Judgement) : Verdict :=
  if js.any (!·.passed) then fail
  else if reason = .memoryViolation && !js.any (concernsEnd ·.assertion) then error
  else pass

end Verdict

end LedBench.Run
