/-!
# String literals

Text stands in the code as a string literal in double quotes. A quote and a backslash are preceded
by a backslash; every other character stands for itself, line breaks included.
-/

namespace ViewCode.Code

/-- The character as it stands inside a literal. -/
def escapeChar (c : Char) : List Char :=
  if c = '\x22' ∨ c = '\\' then ['\\', c] else [c]

/-- The text as it stands inside a literal. -/
def escape (text : List Char) : List Char :=
  text.flatMap escapeChar

/-- The string literal of the text. -/
def literal (text : String) : String :=
  "\"" ++ String.ofList (escape text.toList) ++ "\""

/-- Two string literals with an arrow between them. -/
def literalPair (left right : String) : String :=
  literal left ++ "=>" ++ literal right

end ViewCode.Code
