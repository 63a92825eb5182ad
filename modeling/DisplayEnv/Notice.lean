import DisplayEnv.Color
import DisplayEnv.Config.Error
import DisplayEnv.Error
import DisplayEnv.Font
import DisplayEnv.Headless
import DisplayEnv.Platform
import DisplayEnv.Pump.Stats
import DisplayEnv.Window

/-!
# The log

A notice is something worth telling about while the program runs: one call of `info`, `warn`,
`error` or `debug` with a text of its own. What it says is one constructor's data; its level, its
source (the target of the call), its text and its fields are functions of that.
-/

namespace DisplayEnv

/-- How urgent a notice is. -/
inductive Level where
  | error
  | warn
  | info
  | debug
  | trace
  deriving DecidableEq, Repr

namespace Level

/-- From the most urgent level, counted from one. -/
def rank : Level → Nat
  | .error => 1
  | .warn => 2
  | .info => 3
  | .debug => 4
  | .trace => 5

def text : Level → String
  | .error => "ERROR"
  | .warn => "WARN"
  | .info => "INFO"
  | .debug => "DEBUG"
  | .trace => "TRACE"

end Level

/-- Something worth telling about. -/
inductive Notice where
  | displayCreated (id : Nat) (platform : Platform)
  | makingColor (color : Color)
  | makingFont (font : Font)
  | loadingImage (uri : String)
  | imageMissing (uri : String) (cause : ResourceError)
  | scratchAllocated (gc : Nat)
  | noPrimaryMonitor
  | monitorsEnumerated (count primary : Nat)
  | alreadyTornDown (id : Nat)
  | tornDown (id images fonts colors : Nat) (scratchGc : Bool)
  | droppedLive (id : Nat)
  | mainDesignated (id thread : Nat)
  | detached (id : Nat)
  | loopRunning (root : Window)
  | loopStopped (root : Window) (stats : PumpStats)
  | dispatchFailed (cause : PlatformError)
  | handlerGaveUp (text : String)
  | strategySelected (platform : Platform)
  | handleMissing (cause : PlatformError)
  | propertyUnread (key : Int32) (cause : PlatformError)
  | propertyUnset (key : Int32) (value : Int64) (cause : PlatformError)
  | constantUnknown (name : String) (cause : PlatformError)
  | configIgnored (path : String) (cause : LoadError)
  | unknownRelease (id : Nat) (entry : Released)
  | closedTwice
  | closedWithLive (count : Nat)
  | probeDispatched
  deriving DecidableEq, Repr

namespace Notice

def level : Notice → Level
  | .displayCreated _ _ | .tornDown _ _ _ _ _ | .mainDesignated _ _ | .probeDispatched => .info
  | .imageMissing _ _ | .noPrimaryMonitor | .droppedLive _ | .dispatchFailed _
  | .propertyUnread _ _ | .propertyUnset _ _ _ | .constantUnknown _ _ | .configIgnored _ _
  | .unknownRelease _ _ | .closedTwice | .closedWithLive _ => .warn
  | .handlerGaveUp _ => .error
  | .makingColor _ | .makingFont _ | .loadingImage _ | .scratchAllocated _
  | .monitorsEnumerated _ _ | .alreadyTornDown _ | .detached _ | .loopRunning _
  | .loopStopped _ _ | .strategySelected _ | .handleMissing _ => .debug

/-- The part of the program that tells. -/
def source : Notice → String
  | .displayCreated _ _ | .makingColor _ | .makingFont _ | .loadingImage _ | .imageMissing _ _
  | .scratchAllocated _ | .alreadyTornDown _ | .tornDown _ _ _ _ _ | .droppedLive _ =>
    "dk_display::display"
  | .noPrimaryMonitor | .monitorsEnumerated _ _ => "dk_display::monitors"
  | .mainDesignated _ _ | .detached _ => "dk_display::registry"
  | .loopRunning _ | .loopStopped _ _ | .dispatchFailed _ | .handlerGaveUp _ => "dk_display::pump"
  | .strategySelected _ | .handleMissing _ | .propertyUnread _ _ | .propertyUnset _ _ _
  | .constantUnknown _ _ => "dk_display::bridge"
  | .configIgnored _ _ => "dk_display::config"
  | .unknownRelease _ _ | .closedTwice | .closedWithLive _ => "dk_platform::headless"
  | .probeDispatched => "dk_probe"

def message : Notice → String
  | .displayCreated _ _ => "display environment created"
  | .makingColor _ => "creating native color"
  | .makingFont _ => "creating native font"
  | .loadingImage _ => "loading native image"
  | .imageMissing uri cause => "cannot load image " ++ uri ++ ": " ++ cause.message
  | .scratchAllocated _ => "scratch context allocated"
  | .noPrimaryMonitor => "platform reported no primary monitor, using the first"
  | .monitorsEnumerated _ _ => "enumerated monitors"
  | .alreadyTornDown _ => "display already torn down"
  | .tornDown _ _ _ _ _ => "display environment torn down"
  | .droppedLive _ => "display dropped without teardown, releasing now"
  | .mainDesignated _ _ => "main display designated"
  | .detached _ => "display detached from registry"
  | .loopRunning _ => "event loop running"
  | .loopStopped _ _ => "event loop stopped"
  | .dispatchFailed cause => "event dispatch failed: " ++ cause.message
  | .handlerGaveUp text => "panic in event handler: " ++ text
  | .strategySelected _ => "window property strategy selected"
  | .handleMissing cause => "native handle lookup failed: " ++ cause.message
  | .propertyUnread _ cause => "get_window_property failed: " ++ cause.message
  | .propertyUnset _ _ cause => "set_window_property failed: " ++ cause.message
  | .constantUnknown name cause => "os_constant(" ++ name ++ ") failed: " ++ cause.message
  | .configIgnored path cause => "ignoring config " ++ path ++ ": " ++ cause.message
  | .unknownRelease _ _ => "headless: release of unknown or already released handle"
  | .closedTwice => "headless: display connection closed twice"
  | .closedWithLive _ => "headless: closing with live native handles"
  | .probeDispatched => "probe event dispatched"

/-- Name and text of each field, in order. -/
def fields : Notice → List (String × String)
  | .displayCreated id platform => [("id", toString id), ("platform", platform.identifier)]
  | .makingColor color => [("color", color.text)]
  | .makingFont font => [("font", font.text)]
  | .loadingImage uri => [("uri", uri)]
  | .scratchAllocated gc => [("gc", toString gc)]
  | .monitorsEnumerated count primary =>
    [("count", toString count), ("primary", toString primary)]
  | .alreadyTornDown id | .droppedLive id | .detached id => [("id", toString id)]
  | .tornDown id images fonts colors scratchGc =>
    [("id", toString id), ("images", toString images), ("fonts", toString fonts),
      ("colors", toString colors), ("scratch_gc", toString scratchGc)]
  | .mainDesignated id thread =>
    [("id", toString id), ("thread", "ThreadId(" ++ toString thread ++ ")")]
  | .loopRunning root => [("root", toString root.raw)]
  | .loopStopped root stats => [("root", toString root.raw), ("stats", stats.debugText)]
  | .strategySelected platform => [("platform", platform.identifier)]
  | .propertyUnread key _ => [("key", toString key.toInt)]
  | .propertyUnset key value _ => [("key", toString key.toInt), ("value", toString value.toInt)]
  | .unknownRelease id entry => [("id", toString id), ("entry", entry.debugText)]
  | .closedWithLive count => [("leaked", toString count)]
  | .imageMissing _ _ | .noPrimaryMonitor | .dispatchFailed _ | .handlerGaveUp _
  | .handleMissing _ | .constantUnknown _ _ | .configIgnored _ _ | .closedTwice
  | .probeDispatched => []

end Notice

end DisplayEnv
