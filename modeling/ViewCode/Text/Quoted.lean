import ViewCode.Text.ExtendingMark
import ViewCode.Text.Printable

/-!
# Text quoted in messages

A message shows a piece of foreign text in double quotes, with everything that a reader could not
see or tell apart written as an escape: control characters, separators, fillers, unassigned
characters, and marks that would attach to the quote before them.
-/

namespace ViewCode.Text

/-- The code point in braces, as lower-case hexadecimal digits without leading zeros. -/
def codeEscape (c : Char) : String :=
  "\\u\x7b" ++ String.ofList (Nat.toDigits 16 c.toNat) ++ "\x7d"

/-- The character as it stands inside the quotes of a message. -/
def quotedChar (c : Char) : String :=
  if c = '\x00' then "\\0"
  else if c = '\t' then "\\t"
  else if c = '\r' then "\\r"
  else if c = '\n' then "\\n"
  else if c = '\x22' then "\\\""
  else if c = '\\' then "\\\\"
  else if extendingMarkRanges.covers c || !printableRanges.covers c then codeEscape c
  else c.toString

/-- The text in double quotes, readable in a message. -/
def quoted (text : String) : String :=
  "\"" ++ String.join (text.toList.map quotedChar) ++ "\""

end ViewCode.Text
