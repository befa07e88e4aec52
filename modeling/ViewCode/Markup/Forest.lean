import ViewCode.Markup.Event

/-!
# Documents as forests

A document is a forest of elements and texts. Each node stands before its next sibling, so that a
forest is taken apart one node at a time; a walk through a forest in document order is what a
stream of events reports.
-/

namespace ViewCode.Markup

/-- Sibling nodes in document order, each with what lies inside it. -/
inductive Forest where
  /-- No nodes. -/
  | nil
  /-- An element with its attributes and children, and the siblings after it. -/
  | element (name : String) (attributes : Attributes) (children next : Forest)
  /-- A text, and the siblings after it. -/
  | text (content : String) (next : Forest)
  deriving DecidableEq, Repr

namespace Forest

/-- The events of a walk through the forest. -/
def walk : Forest → List Event
  | nil => []
  | element name attributes children next =>
    .enter name attributes :: (children.walk ++ .leave :: next.walk)
  | text content next => .text content :: next.walk

end Forest

end ViewCode.Markup
