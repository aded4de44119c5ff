import RoadRouting.Text.Hidden

/-!
# Quoted texts in messages

A message shows a text between double quotes. Quotes, backslashes and line breaks in it follow a
backslash, and a character without a shape of its own is named by its code point.
-/

namespace RoadRouting.Text

/-- The hexadecimal digits of a code point. -/
def hex (n : Nat) : String := String.ofList (Nat.toDigits 16 n)

/-- The code of a character, between braces. -/
def codeText (c : Char) : String := "\\u\x7b" ++ hex c.toNat ++ "\x7d"

/-- A character inside of quotes. -/
def quotedChar (c : Char) : String :=
  if c = '"' then "\\\""
  else if c = '\\' then "\\\\"
  else if c = '\n' then "\\n"
  else if c = '\r' then "\\r"
  else if c = '\t' then "\\t"
  else if c = '\x00' then "\\0"
  else if isHidden c then codeText c
  else String.singleton c

/-- A text between double quotes. -/
def quoted (s : String) : String := "\"" ++ String.join (s.toList.map quotedChar) ++ "\""

end RoadRouting.Text
