import HubService.Text.Unicode

/-!
# Debugging views of text

A debugging view of a string puts it in double quotes and escapes what could not be read back
from the view: the quote and the backslash, the null, tab, carriage return and newline characters
by a backslash and a letter, and every character that is hidden or combines with the one before
it (`HubService.Text.hidden`, `HubService.Text.extending`) by `\u` and its code point in
lowercase hexadecimal between braces. Everything else is written as it is.
-/

namespace HubService.Text

/-- A code point as an escape: `\u`, then its lowercase hexadecimal digits between braces. -/
def unicodeEscape (c : Char) : String :=
  "\\u" ++ "\x7b" ++ String.ofList (Nat.toDigits 16 c.toNat) ++ "\x7d"

/-- One character inside the quotes of a debugging view. -/
def debugEscape (c : Char) : String :=
  if c = '"' then "\\\""
  else if c = '\\' then "\\\\"
  else if c = '\n' then "\\n"
  else if c = '\r' then "\\r"
  else if c = '\t' then "\\t"
  else if c.toNat = 0 then "\\0"
  else if extending c || hidden c then unicodeEscape c
  else c.toString

/-- A string in double quotes as a debugging view writes it. -/
def debugQuote (s : String) : String :=
  "\"" ++ String.join (s.toList.map debugEscape) ++ "\""

end HubService.Text
