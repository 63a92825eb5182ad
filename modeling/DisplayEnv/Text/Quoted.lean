import DisplayEnv.Text.Hex
import DisplayEnv.Text.Shown

/-!
# Quoted text

`quoted s` writes a text between double quotes so that every character of it can be seen: the
quote and the backslash behind a backslash, tab, return, line feed and NUL by their letters, and
any other character that cannot be shown by itself as its code point in base 16.
-/

namespace DisplayEnv.Text

/-- How one character stands inside quotes. -/
def escaped (c : Char) : List Char :=
  if c = '"' then ['\\', '"']
  else if c = '\\' then ['\\', '\\']
  else if c = '\n' then ['\\', 'n']
  else if c = '\r' then ['\\', 'r']
  else if c = '\t' then ['\\', 't']
  else if c = '\x00' then ['\\', '0']
  else if isShown c then [c]
  else ['\\', 'u', '\x7b'] ++ (Hex.plain c.toNat).toList ++ ['\x7d']

/-- The text between double quotes, with every character visible. -/
def quoted (s : String) : String :=
  String.ofList (['"'] ++ s.toList.flatMap escaped ++ ['"'])

end DisplayEnv.Text
