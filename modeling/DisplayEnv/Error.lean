import DisplayEnv.Files.Error

/-!
# What can go wrong with a display

Three levels of errors, each under the name the program has for it. `PlatformError` is what the
native side reports, `ResourceError` why no native handle could be made from a descriptor,
`DisplayError` why a display environment could not answer. Each error is a cause; its wording is in
`message`, and a level that only passes on an error of a lower one uses that one's wording. Of the
errors of a decoder (`ImageError`) the kind is kept, and a fixed wording.
-/

namespace DisplayEnv

/-- A failure that the native side reports. -/
inductive PlatformError where
  | resourceCreation (text : String)
  | unsupported (platform primitive : String)
  | handleUnavailable
  | dispatch (text : String)
  | connection (text : String)
  deriving DecidableEq, Repr

namespace PlatformError

def message : PlatformError → String
  | .resourceCreation t => "native resource creation failed: " ++ t
  | .unsupported platform primitive =>
    primitive ++ " is not available on platform '" ++ platform ++ "'"
  | .handleUnavailable => "control exposes no native handle"
  | .dispatch t => "event dispatch failed: " ++ t
  | .connection t => "display connection error: " ++ t

end PlatformError

/-- Why the bytes of an image are no picture (`ImageError`). -/
inductive PictureError where
  /-- The bytes start like no known format. -/
  | unknownFormat
  /-- The bytes start like a known format and break its rules. -/
  | malformed
  deriving DecidableEq, Repr

namespace PictureError

def message : PictureError → String
  | .unknownFormat => "The image format could not be determined"
  | .malformed => "Format error decoding image"

end PictureError

/-- Why no native handle could be made from a descriptor. -/
inductive ResourceError where
  | noSource (uri : String)
  | read (uri : String) (cause : FileError)
  | decode (uri : String) (cause : PictureError)
  | native (cause : PlatformError)
  | disposed
  deriving DecidableEq, Repr

namespace ResourceError

def message : ResourceError → String
  | .noSource uri => "image '" ++ uri ++ "' has no byte source"
  | .read uri cause => "cannot read image '" ++ uri ++ "': " ++ cause.message
  | .decode uri cause => "cannot decode image '" ++ uri ++ "': " ++ cause.message
  | .native cause => cause.message
  | .disposed => "display environment has been torn down"

end ResourceError

/-- Why a display environment could not answer. -/
inductive DisplayError where
  /-- No thread has created a display environment yet. -/
  | notRunning
  | wrongThread
  | disposed
  | noMonitors
  | resource (cause : ResourceError)
  | platform (cause : PlatformError)
  deriving DecidableEq, Repr

namespace DisplayError

def message : DisplayError → String
  | .notRunning => "main UI thread not running"
  | .wrongThread => "display environment belongs to another thread"
  | .disposed => "display environment has been torn down"
  | .noMonitors => "platform reported no monitors"
  | .resource cause => cause.message
  | .platform cause => cause.message

end DisplayError

end DisplayEnv
