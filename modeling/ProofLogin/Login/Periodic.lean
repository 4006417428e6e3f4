/-!
# Login/Periodic — work that is done again and again

A periodic task runs at every multiple of its period after its start, the bounds of time included,
until it is stopped. A period is at least ten milliseconds.
-/

namespace ProofLogin

/-- **A task that runs again and again.** Times are in milliseconds. -/
structure PeriodicTask where
  name : String
  period : Nat
  elapsed : Nat
  running : Bool
  runs : Nat
  deriving DecidableEq, Repr

namespace PeriodicTask

/-- The shortest period. -/
def shortest : Nat := 10

/-- A task that begins now. -/
def start (name : String) (period : Nat) : PeriodicTask :=
  ⟨name, max period shortest, 0, true, 0⟩

/-- The number of runs that are due until now. -/
def due (t : PeriodicTask) : Nat :=
  t.elapsed / t.period

/-- **The task some time later.** -/
def advance (t : PeriodicTask) (ms : Nat) : PeriodicTask :=
  let t := { t with elapsed := t.elapsed + ms }
  if t.running then { t with runs := t.due } else t

/-- The task stopped. What has been run has been run. -/
def stop (t : PeriodicTask) : PeriodicTask :=
  { t with running := false }

/-- **The number of runs of a task that is stopped after some time.** -/
def runsWithin (period ms : Nat) : Nat :=
  ((start "" period).advance ms).runs

end PeriodicTask

end ProofLogin
