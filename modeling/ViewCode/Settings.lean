import ViewCode.Text.Quoted

/-!
# Settings of a conversion

Code is indented by a number of spaces or tabs for each level of nesting, never by none, and the
value of an `id` attribute is either kept or left blank.
-/

namespace ViewCode

/-- The greatest size of a text in bytes, which is the greatest signed machine word. The program
breaks off where it is to make a longer one. That there is memory for all other texts is assumed. -/
def maxTextSize : Nat :=
  0x7FFFFFFFFFFFFFFF

/-- The character that indentation is made of. -/
inductive IndentChar where
  /-- The tab. -/
  | tab
  /-- The space. -/
  | space
  deriving DecidableEq, Repr

/-- What is wrong with an indentation that is asked for. -/
inductive IndentError where
  /-- A level would not be indented at all. -/
  | zeroSize
  /-- The text names neither a tab nor a space. -/
  | unknownChar (given : String)
  deriving DecidableEq, Repr

/-- The error in words. -/
def IndentError.message : IndentError → String
  | .zeroSize => "indent size must be at least 1"
  | .unknownChar given =>
    "unsupported indent style " ++ Text.quoted given ++ ": expected a tab or a space"

namespace IndentChar

/-- The character itself. -/
def toChar : IndentChar → Char
  | tab => '\t'
  | space => ' '

/-- The name of the character. -/
def name : IndentChar → String
  | tab => "tab"
  | space => "space"

/-- The character that the text holds or names. -/
def ofString (given : String) : Except IndentError IndentChar :=
  if given = "\t" ∨ given = "tab" then .ok tab
  else if given = " " ∨ given = "space" then .ok space
  else .error (.unknownChar given)

end IndentChar

/-- How code is indented. -/
structure Indent where
  /-- The character that indentation is made of. -/
  char : IndentChar
  /-- How many of them a level takes, as a machine word. -/
  size : UInt64
  /-- A level takes at least one. -/
  size_pos : 0 < size
  deriving DecidableEq, Repr

namespace Indent

/-- Indentation by the given number of characters, which must not be zero. -/
def ofSize (char : IndentChar) (size : UInt64) : Except IndentError Indent :=
  if h : 0 < size then .ok ⟨char, size, h⟩ else .error .zeroSize

/-- Indentation by a character given as text. A wrong character is reported before a wrong size. -/
def parse (char : String) (size : UInt64) : Except IndentError Indent :=
  match IndentChar.ofString char with
  | .ok c => ofSize c size
  | .error cause => .error cause

/-- Indentation by spaces. -/
def spaces (size : UInt64) : Except IndentError Indent :=
  ofSize .space size

/-- Indentation by one tab. -/
def tabs : Indent :=
  ⟨.tab, 1, by decide⟩

/-- Indentation as an editor is set up. With tabs the width shown for a tab does not matter. -/
def ofEditor (insertSpaces : Bool) (tabSize : UInt64) : Except IndentError Indent :=
  if insertSpaces then spaces tabSize else .ok tabs

/-- Two spaces. -/
def standard : Indent :=
  ⟨.space, 2, by decide⟩

/-- How many characters the indentation of a nesting level has. The number is a machine word and
wraps. -/
def width (indent : Indent) (level : Nat) : Nat :=
  (UInt64.ofNat level * indent.size).toNat

/-- The indentation of a nesting level, of whatever length. Whether a text can hold it is asked by
`fits`, before it is made. -/
def atLevel (indent : Indent) (level : Nat) : String :=
  String.ofList (List.replicate (indent.width level) indent.char.toChar)

/-- Whether the indentation of a nesting level is not too long for a text. All its characters have
one byte. -/
def fits (indent : Indent) (level : Nat) : Bool :=
  indent.width level ≤ maxTextSize

/-- The indentation of one level. -/
def unit (indent : Indent) : String :=
  indent.atLevel 1

end Indent

/-- What becomes of the value of an `id` attribute. -/
inductive IdPolicy where
  /-- An empty text is written in its place. -/
  | blank
  /-- It is written as it is. -/
  | keep
  deriving DecidableEq, Repr

/-- The settings of a conversion. -/
structure Settings where
  /-- How the code is indented. -/
  indent : Indent := Indent.standard
  /-- What becomes of the value of an `id` attribute. -/
  ids : IdPolicy := .blank
  deriving DecidableEq, Repr

end ViewCode
