import ViewCode.Text.Blank
import ViewCode.Text.Lowercase

/-!
# Tag names

The name of an element is read off the characters of its start tag or end tag, and is in lower
case.
-/

namespace ViewCode.Markup.TagName

open ViewCode.Text

/-- The name in the beginning of a start tag, which may carry its `<`. -/
def ofStart (lexeme : List Char) : String :=
  String.ofList (lower (lexeme.dropWhile (· == '<')))

/-- The text without any `</` at its front. -/
def dropEndMarks : List Char → List Char
  | '<' :: '/' :: rest => dropEndMarks rest
  | text => text

/-- Whether the character can stand in the name of an end tag. -/
def isEndNameChar (c : Char) : Bool :=
  !isBlank c && c != '/'

/-- The name in an end tag, up to the first blank or slash. -/
def ofEnd (lexeme : List Char) : String :=
  String.ofList (lower ((trimEnd (· == '>') (dropEndMarks lexeme)).takeWhile isEndNameChar))

end ViewCode.Markup.TagName
