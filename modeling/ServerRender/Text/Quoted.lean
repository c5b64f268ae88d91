import ServerRender.Text.Numeral
import ServerRender.Text.Printable

/-!
# Quoted text in messages

A text between double quotes in which every character can be told from every
other: quotes, backslashes and control characters are escaped, and so is each
character that would not print on its own.
-/

namespace ServerRender.Text

/-- The written form of one character between quotes. -/
def quotedChar (c : Char) : String :=
  if c = '\x00' then "\\0"
  else if c = '\t' then "\\t"
  else if c = '\r' then "\\r"
  else if c = '\n' then "\\n"
  else if c = '"' then "\\\""
  else if c = '\\' then "\\\\"
  else if isPrintable c then String.singleton c
  else "\\u\x7b" ++ hexDigits c.toNat ++ "\x7d"

def quoted (text : String) : String :=
  "\"" ++ String.join (text.toList.map quotedChar) ++ "\""

end ServerRender.Text
