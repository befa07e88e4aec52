import ViewCode.Markup.Content
import ViewCode.Markup.ContentModel
import ViewCode.Markup.RawText
import ViewCode.Markup.Tag
import ViewCode.Markup.TagName

/-!
# Pieces of markup

A piece is the smallest part of markup with a meaning of its own: a stretch of text, a whole tag, a
whole raw-text element, or something to be passed over. What a piece is does not depend on the
elements that are open around it, so a document is cut into pieces before any nesting is looked at.
-/

namespace ViewCode.Markup

/-- A part of markup with a meaning of its own. -/
inductive Piece where
  /-- Text, with its character references decoded. -/
  | text (content : String)
  /-- A comment, declaration or processing instruction. -/
  | ignored
  /-- The end tag of the named element. -/
  | endTag (name : String)
  /-- A start tag. -/
  | startTag (name : String) (tag : Tag)
  /-- A raw-text element with its content, from its start tag to its end tag. -/
  | rawElement (name : String) (attributes : Attributes) (content : String)
  /-- A start tag that the end of the input cuts off. -/
  | brokenTag (name : String)
  deriving DecidableEq, Repr

namespace Piece

/-- Whether a token of content is read as text. -/
def isText : Content.Kind → Bool
  | .text | .lessThan | .unterminated => true
  | .comment | .declaration | .processingInstruction | .endTag | .startTag => false

/-- The characters of the tokens at the front that are read as text, and what comes after them. -/
def textRun (content : List Char) : List Char × List Char :=
  match h : Content.next? content with
  | none => ([], content)
  | some (token, after) =>
    have := Content.length_lt_of_next? h
    if isText token.kind then (token.lexeme ++ (textRun after).1, (textRun after).2)
    else ([], content)
termination_by content.length

/-- What comes after a run of text is not longer than the content. -/
theorem length_textRun_le (content : List Char) :
    (textRun content).2.length ≤ content.length := by
  fun_induction textRun content with
  | case1 => exact Nat.le_refl _
  | case2 _ _ _ _ hl _ ih => exact Nat.le_trans ih (Nat.le_of_lt hl)
  | case3 => exact Nat.le_refl _

/-- The content of a raw-text element with what it stands for. -/
def rawContent (mode : ContentModel.RawMode) (content : List Char) : String :=
  match mode with
  | .verbatim => String.ofList content
  | .escapable => Reference.decoded content

/-- The piece that begins with a start tag, given its name and what follows the name. An element
that closes itself has no content, raw or other. -/
def ofStartTag (name : String) (content : List Char) : Piece × List Char :=
  match Tag.read content with
  | (none, left) => (.brokenTag name, left)
  | (some tag, left) =>
    match ContentModel.rawMode? name with
    | none => (.startTag name tag, left)
    | some mode =>
      if tag.selfClosing then (.startTag name tag, left)
      else
        let raw := RawText.upToEndTag name.toList left
        (.rawElement name tag.attributes (rawContent mode raw.1), raw.2)

/-- What comes after a start tag's piece is not longer than what follows the name. -/
theorem length_ofStartTag_le (name : String) (content : List Char) :
    (ofStartTag name content).2.length ≤ content.length := by
  unfold ofStartTag
  split
  · rename_i h
    exact Tag.length_le_of_read h
  · rename_i tag left h
    have hr := Tag.length_le_of_read h
    split
    · exact hr
    · split
      · exact hr
      · exact Nat.le_trans (RawText.length_upToEndTag_le name.toList left) hr

/-- The piece that begins with the token, and what comes after it. -/
def ofToken (token : Content.Token) (after : List Char) : Piece × List Char :=
  match token.kind with
  | .text | .lessThan | .unterminated =>
    let run := textRun after
    (.text (Reference.decoded (token.lexeme ++ run.1)), run.2)
  | .comment | .declaration | .processingInstruction => (.ignored, after)
  | .endTag => (.endTag (TagName.ofEnd token.lexeme), after)
  | .startTag => ofStartTag (TagName.ofStart token.lexeme) after

/-- What comes after a token's piece is not longer than what comes after the token. -/
theorem length_ofToken_le (token : Content.Token) (after : List Char) :
    (ofToken token after).2.length ≤ after.length := by
  unfold ofToken
  split
  · exact length_textRun_le after
  · exact length_textRun_le after
  · exact length_textRun_le after
  · exact Nat.le_refl _
  · exact Nat.le_refl _
  · exact Nat.le_refl _
  · exact Nat.le_refl _
  · exact length_ofStartTag_le _ _

/-- The first piece of the content and what comes after it. -/
def next? (content : List Char) : Option (Piece × List Char) :=
  (Content.next? content).map fun front => ofToken front.1 front.2

/-- What comes after a piece is shorter than the content. -/
theorem length_lt_of_next? {content after : List Char} {piece : Piece}
    (h : next? content = some (piece, after)) : after.length < content.length := by
  obtain ⟨⟨token, rest⟩, ht, hp⟩ := Option.map_eq_some_iff.1 h
  have hl := Content.length_lt_of_next? ht
  have ho := length_ofToken_le token rest
  simp only [hp] at ho
  exact Nat.lt_of_le_of_lt ho hl

/-- All pieces of the content, in order. -/
def scan (content : List Char) : List Piece :=
  match h : next? content with
  | none => []
  | some (piece, after) =>
    have := length_lt_of_next? h
    piece :: scan after
termination_by content.length

end Piece

end ViewCode.Markup
