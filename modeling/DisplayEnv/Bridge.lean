import DisplayEnv.Notice
import DisplayEnv.Properties

/-!
# From controls to native windows

A bridge (`HandleBridge`) reaches the native window behind a control and its properties, with the
strategy of a platform. Every operation comes in two forms: `try…` says what went wrong, the other
one tells the log and answers a fixed value: no window, zero or `false`.

* `property`, `setProperty`, `nativeWindow`, `constant`: the forms with a fixed value, each by its
  `try…` form (`get_window_property`, `set_window_property`, `native_handle`, `os_constant`).
-/

namespace DisplayEnv

/-- A bridge with its strategy (`HandleBridge`). -/
structure Bridge where
  strategy : Properties
  deriving DecidableEq, Repr

/-- A value and what there is to tell about it. -/
abbrev Told (α : Type) := α × List Notice

namespace Bridge

/-- A bridge with a strategy (`with_strategy`); its choice is told to the log. -/
def withStrategy (s : Properties) : Told Bridge := (⟨s⟩, [.strategySelected s.platform])

def forPlatform (p : Platform) : Told Bridge := withStrategy (.forPlatform p)

def forIdentifier (s : String) : Told Bridge := forPlatform (.fromIdentifier s)

/-- The bridge of the platform this library is built for (`detect`). -/
def detect : Told Bridge := forPlatform .current

def platform (b : Bridge) : Platform := b.strategy.platform

/-! ## Forms that say what went wrong -/

/-- The native window behind a control (`try_native_handle`). -/
def tryNativeWindow (c : Control) : Except PlatformError Window :=
  match c.native? with
  | some w => if w.isValid then .ok w else .error .handleUnavailable
  | none => .error .handleUnavailable

def tryProperty (b : Bridge) (c : Control) (key : Int32) : Except PlatformError Int64 :=
  match tryNativeWindow c with
  | .error e => .error e
  | .ok w => b.strategy.get w key

def trySetProperty (b : Bridge) (c : Control) (key : Int32) (value : Int64) :
    Except PlatformError Bridge :=
  match tryNativeWindow c with
  | .error e => .error e
  | .ok w => (b.strategy.set w key value).map Bridge.mk

/-! ## Forms that answer a fixed value instead -/

def nativeWindow (c : Control) : Told Window :=
  match tryNativeWindow c with
  | .ok w => (w, [])
  | .error e => (.invalid, [.handleMissing e])

def property (b : Bridge) (c : Control) (key : Int32) : Told Int64 :=
  match b.tryProperty c key with
  | .ok value => (value, [])
  | .error e => (0, [.propertyUnread key e])

/-- Whether the property was set, and the bridge afterwards. -/
def setProperty (b : Bridge) (c : Control) (key : Int32) (value : Int64) : Told Bool × Bridge :=
  match b.trySetProperty c key value with
  | .ok after => ((true, []), after)
  | .error e => ((false, [.propertyUnset key value e]), b)

def constant (b : Bridge) (name : String) : Told Int32 :=
  match b.strategy.constant name with
  | .ok value => (value, [])
  | .error e => (0, [.constantUnknown name e])

end Bridge

end DisplayEnv
