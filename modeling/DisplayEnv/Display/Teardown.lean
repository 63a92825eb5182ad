import DisplayEnv.Display.Resources
import DisplayEnv.Display.Monitors

/-!
# The end of a display

Teardown (`teardown`) gives back everything in a fixed order: images, fonts, colors, the scratch
context, and the connection last, because everything else was made on it. It happens once. A display
that goes away without it is torn down on the way (`drop`).
-/

namespace DisplayEnv.Setting

variable {σ τ : Type}

/-- Close the backend's connection (`close`). -/
def closeBackend (S : Setting σ τ) : Act σ Unit := do
  let live ← S.backend.view (·.liveHandles)
  let opened ← S.backend.alter (·.close)
  if opened then
    if 0 < live then S.note (.closedWithLive live)
  else S.note .closedTwice

/-- Give everything back and close the connection (`teardown`): whether this was the first time. -/
def teardown (S : Setting σ τ) : Act σ Bool := do
  let id ← S.display.view (·.id)
  if ← S.display.view (·.disposed) then
    S.note (.alreadyTornDown id)
    return false
  else
    S.display.change fun d => { d with disposed := true }
    let images ← S.releaseAllImages
    let fonts ← S.releaseAllFonts
    let colors ← S.releaseAllColors
    let scratch ← S.disposeScratch
    S.invalidateMonitors
    S.closeBackend
    S.note (.tornDown id images fonts colors scratch)
    return true

/-- The display goes away (`drop`). -/
def drop (S : Setting σ τ) : Act σ Unit := do
  unless ← S.display.view (·.disposed) do
    S.note (.droppedLive (← S.display.view (·.id)))
    discard <| S.teardown

end DisplayEnv.Setting
