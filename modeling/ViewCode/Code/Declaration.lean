import ViewCode.Code.Literal
import ViewCode.Text.Blank

/-!
# Declarations of an inline style

A `style` attribute holds declarations, `property: value`, divided by semicolons. Only the first
colon of a declaration divides it, so that a value may hold further colons. Blanks around
properties and values do not count.
-/

namespace ViewCode.Code

open ViewCode.Text

/-- One `property: value` pair of a style. -/
structure Declaration where
  /-- The property. -/
  property : String
  /-- Its value, empty if there is no colon. -/
  value : String
  deriving DecidableEq, Repr

namespace Declaration

/-- The declaration written by a segment that has no blanks at its ends. -/
def ofSegment (segment : List Char) : Declaration :=
  match splitFirst? (· == ':') segment with
  | some (property, value) =>
    ⟨String.ofList (trim isBlank property), String.ofList (trim isBlank value)⟩
  | none => ⟨String.ofList segment, ""⟩

/-- The segments of a style between semicolons, without blanks at their ends and without those that
are blank. -/
def segments (style : List Char) : List (List Char) :=
  ((split (· == ';') style).map (trim isBlank)).filter (!·.isEmpty)

/-- The declarations of a style, in order. -/
def parse (style : String) : List Declaration :=
  (segments style.toList).map ofSegment

/-- The declarations as they stand in the code. -/
def render (declarations : List Declaration) : String :=
  String.intercalate ";" (declarations.map fun d => literalPair d.property d.value)

end Declaration

end ViewCode.Code
