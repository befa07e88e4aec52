/-!
# Notices

A conversion never fails on markup, however broken. Where it repairs or drops something it leaves a
notice, and one more notice sums up the conversion.
-/

namespace ViewCode

/-- Something that a conversion noticed on its way. -/
inductive Notice where
  /-- A start tag was cut off by the end of the input and is dropped. -/
  | brokenTag (name : String)
  /-- An element was still open at the end of the input and is closed there. -/
  | leftOpen (name : String)
  /-- The start of one element ended another. -/
  | impliedEnd (ended opening : String)
  /-- An end tag matches no open element and is dropped. -/
  | unmatchedEnd (name : String)
  /-- A second item stands at the top level. -/
  | severalRoots
  /-- The conversion is done: sizes of markup and code in bytes, and whether there were several
  items at the top level. -/
  | converted (inputSize outputSize : Nat) (multiRoot : Bool)
  deriving DecidableEq, Repr

end ViewCode
