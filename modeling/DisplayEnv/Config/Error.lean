import DisplayEnv.Files.Error
import DisplayEnv.Json.Reading

/-!
# Why a configuration was not loaded

The file could not be read, or its text holds no configuration: the two failures of
`try_load_from`. `heading` names what was being done (`with_context`), `reason` says why it failed.
-/

namespace DisplayEnv

/-- Why a configuration was not loaded. -/
inductive LoadError where
  | reading (path : String) (cause : FileError)
  | parsing (path : String) (text : String) (cause : Json.ReadError)
  deriving DecidableEq, Repr

namespace LoadError

/-- What was being done. -/
def heading : LoadError → String
  | .reading path _ => "reading " ++ path
  | .parsing path _ _ => "parsing " ++ path

/-- Why it failed. -/
def reason : LoadError → String
  | .reading _ cause => cause.message
  | .parsing _ text cause => cause.message text.toList

/-- What was being done, and why it failed. -/
def message (e : LoadError) : String := e.heading ++ ": " ++ e.reason

end LoadError

end DisplayEnv
