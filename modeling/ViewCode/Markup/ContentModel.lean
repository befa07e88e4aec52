/-!
# Content models of elements

Three tables on element names decide how markup is read: which elements have no content, which have
plain text for content, and which open elements end where another one starts. Names are compared as
they are, and element names are in lower case.
-/

namespace ViewCode.Markup.ContentModel

/-- Elements that never have content. -/
def voidNames : List String :=
  ["area", "base", "basefont", "br", "col", "command", "embed", "frame", "hr", "img", "input",
   "isindex", "keygen", "link", "meta", "param", "source", "track", "wbr"]

/-- Whether the element never has content, so that it ends where it starts. -/
def isVoid (name : String) : Bool :=
  voidNames.contains name

/-- How the content of a raw-text element is read. -/
inductive RawMode where
  /-- Every character stands for itself. -/
  | verbatim
  /-- Character references are decoded. -/
  | escapable
  deriving DecidableEq, Repr

/-- Elements whose content is text only, up to their end tag. -/
def rawMode? (name : String) : Option RawMode :=
  if name = "script" ∨ name = "style" then some .verbatim
  else if name = "textarea" ∨ name = "title" then some .escapable
  else none

/-- A rule on end tags that may be left out. -/
structure ImpliedEnd where
  /-- Elements whose start ends others. -/
  openings : List String
  /-- The elements that are ended if one of them is the innermost open element. -/
  ended : List String

/-- The rules on end tags that may be left out. No two rules share an opening. -/
def impliedEnds : List ImpliedEnd :=
  [⟨["tr"], ["tr", "th", "td"]⟩,
   ⟨["th"], ["th"]⟩,
   ⟨["td"], ["thead", "th", "td"]⟩,
   ⟨["body"], ["head", "link", "script"]⟩,
   ⟨["li"], ["li"]⟩,
   ⟨["option"], ["option"]⟩,
   ⟨["optgroup"], ["optgroup", "option"]⟩,
   ⟨["select", "input", "output", "button", "datalist", "textarea"],
    ["input", "option", "optgroup", "select", "button", "datalist", "textarea"]⟩,
   ⟨["dd", "dt"], ["dd", "dt"]⟩,
   ⟨["rt", "rp"], ["rt", "rp"]⟩,
   ⟨["tbody", "tfoot"], ["thead", "tbody"]⟩,
   ⟨["p", "h1", "h2", "h3", "h4", "h5", "h6", "address", "article", "aside", "blockquote",
     "details", "div", "dl", "fieldset", "figcaption", "figure", "footer", "form", "header", "hr",
     "main", "nav", "ol", "pre", "section", "table", "ul"], ["p"]⟩]

/-- Whether the start of one element ends another that is the innermost open element. -/
def impliesEnd (opening innermost : String) : Bool :=
  impliedEnds.any fun rule => rule.openings.contains opening && rule.ended.contains innermost

end ViewCode.Markup.ContentModel
