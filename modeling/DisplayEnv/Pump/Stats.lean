/-!
# Statistics of an event pump

How many ticks of a pump dispatched an event, found none, or met a failure (`PumpStats`).
-/

namespace DisplayEnv

/-- The ticks of a pump by their outcome (`PumpStats`). -/
structure PumpStats where
  dispatched : Nat
  idle : Nat
  failures : Nat
  deriving DecidableEq, Repr

namespace PumpStats

def zero : PumpStats := ⟨0, 0, 0⟩

instance : Inhabited PumpStats := ⟨zero⟩

/-- All ticks. -/
def ticks (s : PumpStats) : Nat := s.dispatched + s.idle + s.failures

/-- The counts by name, for a reader of the program's state. -/
def debugText (s : PumpStats) : String :=
  "PumpStats \x7b dispatched: " ++ toString s.dispatched ++ ", idle: " ++ toString s.idle ++
    ", failures: " ++ toString s.failures ++ " \x7d"

end PumpStats

end DisplayEnv
