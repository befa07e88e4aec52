import ViewCode.Markup.Event
import ViewCode.Markup.Piece

/-!
# Nesting of elements

The pieces of markup are followed with a list of the open elements, and it is said of each piece
which events and notices it reports, without a handler that takes them. What is not nested is
repaired: an end tag closes everything inside its element or, without an element, nothing; some
start tags end the element before them; the end of the input closes what is left open. So the events
are always nested, whatever the markup.
-/

namespace ViewCode.Markup

namespace Nesting

/-- The names of the open elements, innermost first. -/
abbrev OpenElements := List String

/-- The innermost elements that the start of the named element ends: what is reported for them, and
what stays open. -/
def endImplied (name : String) : OpenElements → List Signal × OpenElements
  | [] => ([], [])
  | innermost :: outer =>
    if ContentModel.impliesEnd name innermost then
      let next := endImplied name outer
      (.notice (.impliedEnd innermost name) :: .event .leave :: next.1, next.2)
    else ([], innermost :: outer)

/-- What the end tag reports and leaves open: it ends the nearest element of its name with
everything inside it. -/
def endTag (name : String) (opened : OpenElements) : List Signal × OpenElements :=
  if name ∈ opened then
    (List.replicate ((opened.takeWhile (· != name)).length + 1) (.event .leave),
      (opened.dropWhile (· != name)).drop 1)
  else ([.notice (.unmatchedEnd name)], opened)

/-- What the start tag reports and leaves open. -/
def startTag (name : String) (tag : Tag) (opened : OpenElements) : List Signal × OpenElements :=
  let implied := endImplied name opened
  if tag.selfClosing || ContentModel.isVoid name then
    (implied.1 ++ [.event (.enter name tag.attributes), .event .leave], implied.2)
  else
    (implied.1 ++ [.event (.enter name tag.attributes)], name :: implied.2)

/-- What the raw-text element reports and leaves open. -/
def rawElement (name : String) (attributes : Attributes) (content : String)
    (opened : OpenElements) : List Signal × OpenElements :=
  let implied := endImplied name opened
  let inner := if content.isEmpty then [] else [Signal.event (.text content)]
  (implied.1 ++ .event (.enter name attributes) :: inner ++ [.event .leave], implied.2)

/-- What the piece reports and leaves open. -/
def step (opened : OpenElements) : Piece → List Signal × OpenElements
  | .text content => ([.event (.text content)], opened)
  | .ignored => ([], opened)
  | .brokenTag name => ([.notice (.brokenTag name)], opened)
  | .endTag name => endTag name opened
  | .startTag name tag => startTag name tag opened
  | .rawElement name attributes content => rawElement name attributes content opened

/-- What is reported at the end of the input. -/
def endOfInput (opened : OpenElements) : List Signal :=
  opened.flatMap fun name => [.notice (.leftOpen name), .event .leave]

/-- Everything that is reported of the pieces and of the end of the input after them. -/
def report (opened : OpenElements) : List Piece → List Signal
  | [] => endOfInput opened
  | piece :: pieces => (step opened piece).1 ++ report (step opened piece).2 pieces

end Nesting

end ViewCode.Markup
