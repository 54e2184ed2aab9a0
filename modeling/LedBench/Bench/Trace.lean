import LedBench.Bench.Event
import LedBench.Counter

namespace LedBench.Bench

structure PinEvent where
  cycle : UInt64
  level : Bool
  /-- Made by a reset or by the initializer that follows it. -/
  reset : Bool := false
  deriving DecidableEq, Repr

/-- What is known of a pin so far. -/
structure Trace where
  pin : PinRef
  events : Array PinEvent := #[]
  /-- A reset has come and the initializer has not yet switched the pin on again. -/
  restarting : Bool := false
  deriving DecidableEq, Repr

namespace Trace

def observe (t : Trace) : Event → Trace
  | .reset _ => { t with restarting := true }
  | .pin port bit level cycle =>
    if port = t.pin.port ∧ bit = t.pin.bit then
      { t with
        events := t.events.push { cycle, level, reset := t.restarting }
        restarting := t.restarting && !level }
    else t
  | _ => t

def ofEvents (pin : PinRef) (events : List Event) : Trace := events.foldl observe { pin }

/-- Adds an event to the runs found so far, the last of which is `current`. -/
def extendRuns (runs : List (List PinEvent)) (current : List PinEvent) (e : PinEvent) :
    List (List PinEvent) × List PinEvent :=
  if e.reset then
    let (runs, current) := if current.isEmpty then (runs, []) else (runs ++ [current], [])
    if e.level then (runs, current ++ [e]) else (runs, current)
  else (runs, current ++ [e])

/-- Splits events at resets. A run starts with the initializer's switch-on where there is one; the
switch-off by the reset itself belongs to no run. -/
def runs (events : List PinEvent) : List (List PinEvent) :=
  let (runs, current) := events.foldl (fun (rs, c) e => extendRuns rs c e) ([], [])
  runs ++ [current]

/-- The level changes made by the blink loop. -/
def toggles (t : Trace) : Nat := (t.events.toList.filter (!·.reset)).length

/-- Each element of a list with its successor. -/
def adjacent {α : Type} (xs : List α) : List (α × α) := xs.zip xs.tail

/-- Between resets no two changes in a row go to the same level. -/
def alternates (t : Trace) : Bool :=
  (runs t.events.toList).all fun run => (adjacent run).all fun (a, b) => a.level ≠ b.level

/-- The cycles between a toggle and the next one, never across a reset. None if a cycle lies before
the one it follows. -/
def intervals? (t : Trace) : Option (List UInt64) :=
  let pairs := (runs t.events.toList).flatMap fun run =>
    adjacent ((run.filter (!·.reset)).map (·.cycle))
  pairs.mapM fun (a, b) => Counter.sub? b a

end Trace

end LedBench.Bench
