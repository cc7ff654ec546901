import ScriptRealm.Text.Unprintable

/-!
# Quoted text

A text between double quotes, with an escape for each character that
could not be told apart there: quotes and backslashes, line breaks and
tabulators, and all that is not shown, which is written by its code.
-/

set_option autoImplicit false

namespace ScriptRealm.Text

/-- How a character is written between double quotes. -/
def escaped (c : Char) : String :=
  if c = '\x00' then "\\0"
  else if c = '\t' then "\\t"
  else if c = '\r' then "\\r"
  else if c = '\n' then "\\n"
  else if c = '\\' then "\\\\"
  else if c = '"' then "\\\""
  else if isUnprintable c then
    "\\u\x7b" ++ String.ofList (Nat.toDigits 16 c.toNat) ++ "\x7d"
  else c.toString

/-- A text in double quotes. -/
def quoted (text : String) : String :=
  "\"" ++ String.join (text.toList.map escaped) ++ "\""

end ScriptRealm.Text
