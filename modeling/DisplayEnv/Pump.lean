import DisplayEnv.Display.Teardown
import DisplayEnv.Pump.Stats

/-!
# The event pump

A pump (`EventPump`) takes events from a display's backend. One tick takes at most one event, and a
handler that fails or gives up costs that tick and no more: `catch_unwind` is `Act.attempt`. The
loop ticks until its root window is gone and waits whenever a tick found nothing; the main loop
tears the display down when it ends, however it ends (`TeardownGuard`).

* `tick`: one event.
* `runNested`: the loop (`run_nested`). The bound on ticks makes it total; a loop that meets it is
  stalled.
* `runMain`: the loop and the teardown (`run`).
-/

namespace DisplayEnv

/-- Whether a loop of the pump runs (`PumpState`). -/
inductive PumpState where
  | running
  | stopped
  deriving DecidableEq, Repr

/-- How a handler failed (`DispatchFailure`): with an error, or by a panic. -/
inductive DispatchFailure where
  | error (cause : PlatformError)
  | gaveUp (text : String)
  deriving DecidableEq, Repr

/-- What a tick did (`Tick`). -/
inductive Tick where
  | dispatched
  | idle
  | failed (failure : DispatchFailure)
  deriving DecidableEq, Repr

/-- An event pump (`EventPump`), without the display it is for. -/
structure Pump where
  state : PumpState
  stats : PumpStats
  deriving DecidableEq, Repr

namespace Pump

def new : Pump := ⟨.stopped, .zero⟩

instance : Inhabited Pump := ⟨new⟩

/-- The pump after one more tick. -/
def count (p : Pump) : Tick → Pump
  | .dispatched => { p with stats := { p.stats with dispatched := p.stats.dispatched + 1 } }
  | .idle => { p with stats := { p.stats with idle := p.stats.idle + 1 } }
  | .failed _ => { p with stats := { p.stats with failures := p.stats.failures + 1 } }

end Pump

namespace Setting

variable {σ τ : Type}

/-! ## One event -/

/-- Take the next event and handle it (`read_and_dispatch`): whether there was one. A wake is taken,
and answered as if there was none. -/
def dispatchNext (S : Setting σ τ) : Act σ (Except PlatformError Bool) := do
  match ← S.backend.alter (·.next) with
  | none | some .wake => return .ok false
  | some (.destroy w) => S.backend.change (·.destroyWindow w); return .ok true
  | some (.task t) =>
    match ← S.run t with
    | .ok () => return .ok true
    | .error e => return .error e

/-- `dispatchNext`, unless what comes before refuses it. -/
def readAndDispatch (S : Setting σ τ) : Act σ (Except PlatformError Bool) := do
  match ← S.before .dispatch with
  | .error e => return .error e
  | .ok () => S.dispatchNext

/-- The text that a handler gave up with (`panic_message`). -/
def gaveUpText (c : Fault) : String := c.text?.getD "unknown panic payload"

/-- The tick that an attempt to dispatch amounts to. -/
def tickOf : Except Fault (Except PlatformError Bool) → Tick
  | .ok (.ok true) => .dispatched
  | .ok (.ok false) => .idle
  | .ok (.error e) => .failed (.error e)
  | .error c => .failed (.gaveUp (gaveUpText c))

/-- What a tick tells the log. -/
def tickNotice? : Tick → Option Notice
  | .dispatched | .idle => none
  | .failed (.error e) => some (.dispatchFailed e)
  | .failed (.gaveUp text) => some (.handlerGaveUp text)

/-- Dispatch at most one event (`tick`); a failure is told to the log and goes no further. -/
def tick (S : Setting σ τ) (p : Pump) : Act σ (Tick × Pump) := do
  let t := tickOf (← S.readAndDispatch.attempt)
  match tickNotice? t with
  | some n => S.note n
  | none => pure ()
  return (t, p.count t)

/-! ## The loop -/

/-- Wait for an event (`sleep`). A refusal of the wait has nowhere to go and ends it as a fault. -/
def sleep (S : Setting σ τ) : Act σ Unit := do
  match ← S.before .sleep with
  | .error e => Act.fault (.raised (some e.message))
  | .ok () => S.backend.change (·.sleep)

/-- The loop of `run_nested`: tick until the root is gone, at most so many times. The pump is
answered also when a wait ended in a fault, for it keeps its counts. -/
def loop (S : Setting σ τ) (root : Window) : Nat → Pump → Act σ (Except Fault Unit × Pump)
  | 0, _ => Act.stall
  | n + 1, p => do
    if ← S.backend.view (·.isDestroyed root) then return (.ok (), p)
    else
      let (t, p) ← S.tick p
      if t = .idle then
        match ← S.sleep.attempt with
        | .ok () => S.loop root n p
        | .error c => return (.error c, p)
      else S.loop root n p

/-- Run the loop for a root window (`run_nested`), with at most `bound` ticks. -/
def runNested (S : Setting σ τ) (bound : Nat) (root : Window) (p : Pump) :
    Act σ (Except Fault Unit × Pump) := do
  S.note (.loopRunning root)
  let (ended, p) ← S.loop root (bound + 1) { p with state := .running }
  match ended with
  | .error c => return (.error c, p)
  | .ok () =>
    S.note (.loopStopped root p.stats)
    return (.ok (), { p with state := .stopped })

/-- Run the loop for a root window and tear the display down at its end (`run`). A fault of the
teardown comes before one of the loop. -/
def runMain (S : Setting σ τ) (bound : Nat) (root : Window) (p : Pump) :
    Act σ (Except Fault Unit × Pump) := do
  let (ended, p) ← S.runNested bound root p
  match ← S.teardown.attempt with
  | .ok _ => return (ended, p)
  | .error c => return (.error c, p)

end Setting

end DisplayEnv
