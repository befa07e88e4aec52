import ViewCode.Markup.Forest
import ViewCode.Proofs.Delivery
import ViewCode.Proofs.PieceReading

/-!
# Reading of rendered documents

A forest is rendered as markup with all its tags, its texts and values escaped, and its names in
any case. Reading undoes rendering. First the markup is cut into the pieces of the forest, whatever
the nesting; then the nesting of these pieces is that of the forest, so that the events are those
of a walk through it.
-/

namespace ViewCode.Markup

open ViewCode.Text

namespace Forest

/-- Whether the first node is a text. -/
def beginsWithText : Forest → Bool
  | text _ _ => true
  | nil | element _ _ _ _ => false

/-- Whether no text is empty and none stands directly after another. -/
def hasTextsApart : Forest → Bool
  | nil => true
  | text content next => !content.isEmpty && !next.beginsWithText && next.hasTextsApart
  | element _ _ children next => children.hasTextsApart && next.hasTextsApart

/-- Whether all names can be those of tags and attributes, and no element has raw text. -/
def hasWritableNames : Forest → Bool
  | nil => true
  | text _ next => next.hasWritableNames
  | element name attributes children next =>
    isTagName name && (ContentModel.rawMode? name).isNone &&
      attributes.names.all isAttributeName && children.hasWritableNames && next.hasWritableNames

/-- Whether the forest can stand directly inside the given element, or at the top level: no start
tag ends the element around it, and void elements have no children. -/
def fitsInto (parent : Option String) : Forest → Bool
  | nil => true
  | text _ next => next.fitsInto parent
  | element name _ children next =>
    parent.all (!ContentModel.impliesEnd name ·) &&
      (!ContentModel.isVoid name || children == nil) &&
      children.fitsInto (some name) && next.fitsInto parent

/-- The pieces of the forest, with an end tag for every element that is not void. -/
def pieces : Forest → List Piece
  | nil => []
  | text content next => .text content :: next.pieces
  | element name attributes children next =>
    .startTag name ⟨attributes, false⟩ :: (children.pieces ++
      ((if ContentModel.isVoid name then [] else [.endTag name]) ++ next.pieces))

theorem hasTextsApart_text {content : String} {next : Forest} :
    (text content next).hasTextsApart = true ↔
      content ≠ "" ∧ next.beginsWithText = false ∧ next.hasTextsApart = true := by
  simp [hasTextsApart, and_assoc]

theorem hasWritableNames_element {name : String} {attributes : Attributes}
    {children next : Forest} :
    (element name attributes children next).hasWritableNames = true ↔
      isTagName name = true ∧ ContentModel.rawMode? name = none ∧
        (∀ given ∈ attributes.names, isAttributeName given = true) ∧
        children.hasWritableNames = true ∧ next.hasWritableNames = true := by
  simp [hasWritableNames, and_assoc]

theorem fitsInto_element {parent : Option String} {name : String} {attributes : Attributes}
    {children next : Forest} :
    (element name attributes children next).fitsInto parent = true ↔
      (∀ outer ∈ parent, ContentModel.impliesEnd name outer = false) ∧
        (ContentModel.isVoid name = true → children = nil) ∧
        children.fitsInto (some name) = true ∧ next.fitsInto parent = true := by
  cases parent <;> simp [fitsInto, and_assoc, Classical.or_iff_not_imp_left]

end Forest

/-- The text renders the forest as markup. -/
inductive Rendered : Forest → List Char → Prop where
  /-- Nothing is written for no nodes. -/
  | nil : Rendered .nil []
  /-- A text is escaped. -/
  | text (content : String) {next : Forest} {rest : List Char} :
      Rendered next rest → Rendered (.text content next) (writeText content.toList ++ rest)
  /-- A void element has a start tag only. -/
  | void (start : List Char) {name : String} {attributes : Attributes} {next : Forest}
      {inner rest : List Char} :
      ContentModel.isVoid name = true → Spells start name →
      WrittenAttributes attributes.entries inner → Rendered next rest →
      Rendered (.element name attributes .nil next) ('<' :: (start ++ (inner ++ '>' :: rest)))
  /-- Any other element has a start tag, its children, and an end tag. -/
  | element (start finish : List Char) {name : String} {attributes : Attributes}
      {children next : Forest} {inner content rest : List Char} :
      ContentModel.isVoid name = false → Spells start name →
      WrittenAttributes attributes.entries inner → Rendered children content →
      Spells finish name → Rendered next rest →
      Rendered (.element name attributes children next)
        ('<' :: (start ++ (inner ++ '>' :: (content ++ '<' :: '/' :: (finish ++ '>' :: rest)))))

namespace Piece

/-- A text is one piece where markup comes next, and an empty text is none. -/
theorem scan_writeText_append (content : String) {after : List Char} (ha : AtMarkup after) :
    scan (writeText content.toList ++ after) = textPieces content ++ scan after := by
  unfold textPieces
  split
  · subst content
    rfl
  · rename_i hc
    have hw : writeText content.toList ≠ [] :=
      writeText_ne_nil fun e => hc (String.toList_eq_nil_iff.1 e)
    have hl : '<' ∉ writeText content.toList :=
      not_mem_flatMap_escapedAs (by decide) (by decide) content.toList
    have hp := next?_text hw hl ha
    rw [Reference.decoded_writeText] at hp
    exact scan_of_next? hp

/-- A start tag that is written out is one piece, which what follows it has no part in. -/
theorem next?_written_startTag {name : String} {attributes : Attributes}
    {start inner : List Char} (hn : isTagName name = true)
    (hr : ContentModel.rawMode? name = none) (hs : Spells start name)
    (ha : ∀ given ∈ attributes.names, isAttributeName given = true)
    (hw : WrittenAttributes attributes.entries inner) (rest : List Char) :
    next? ('<' :: (start ++ (inner ++ '>' :: rest))) =
      some (.startTag name ⟨attributes, false⟩, rest) := by
  rw [next?_startTag hs hn (hw.stops rest), ofStartTag, Tag.read_written hw ha]
  simp only [hr]

end Piece

namespace Rendered

/-- A forest whose names can be written, and whose void elements have no children, can be
rendered. -/
theorem exists_rendered {forest : Forest} {parent : Option String}
    (hn : forest.hasWritableNames = true) (hf : forest.fitsInto parent = true) :
    ∃ markup, Rendered forest markup := by
  induction forest generalizing parent with
  | nil => exact ⟨[], .nil⟩
  | text content next ih =>
    obtain ⟨rest, hr⟩ := ih hn hf
    exact ⟨_, .text content hr⟩
  | element name attributes children next ihc ihn =>
    obtain ⟨hm, -, hg, hc, hn⟩ := Forest.hasWritableNames_element.1 hn
    obtain ⟨-, hv, hfc, hfn⟩ := Forest.fitsInto_element.1 hf
    have hs : Spells name.toList name := .self fun c hc => (forall_mem_of_isTagName hm c hc).1
    obtain ⟨inner, hw⟩ := WrittenAttributes.exists_written (List.forall_mem_map.1 hg)
    obtain ⟨rest, hr⟩ := ihn hn hfn
    cases hvoid : ContentModel.isVoid name with
    | true =>
      rw [hv hvoid]
      exact ⟨_, .void name.toList hvoid hs hw hr⟩
    | false =>
      obtain ⟨content, hi⟩ := ihc hc hfc
      exact ⟨_, .element name.toList name.toList hvoid hs hw hi hs hr⟩

/-- A rendered forest that does not begin with a text begins with markup. -/
theorem atMarkup {forest : Forest} {markup after : List Char} (h : Rendered forest markup)
    (hn : forest.hasWritableNames = true) (hb : forest.beginsWithText = false)
    (ha : AtMarkup after) : AtMarkup (markup ++ after) := by
  cases h with
  | nil => exact ha
  | text => exact absurd hb (by simp [Forest.beginsWithText])
  | void _ _ hs hw _ =>
    simp only [List.cons_append, List.append_assoc]
    exact Piece.atMarkup_startTag hs (Forest.hasWritableNames_element.1 hn).1 (hw.stops _)
  | element _ _ _ hs hw _ _ _ =>
    simp only [List.cons_append, List.append_assoc]
    exact Piece.atMarkup_startTag hs (Forest.hasWritableNames_element.1 hn).1 (hw.stops _)

/-- A rendered forest is cut into its pieces, and what follows it is cut on its own. -/
theorem scan_append {forest : Forest} {markup after : List Char} (h : Rendered forest markup)
    (hn : forest.hasWritableNames = true) (ht : forest.hasTextsApart = true)
    (ha : AtMarkup after) :
    Piece.scan (markup ++ after) = forest.pieces ++ Piece.scan after := by
  -- Children are followed by the end tag of their element, so what follows has to be arbitrary.
  induction h generalizing after with
  | nil => rfl
  | @text content next rest hr ih =>
    obtain ⟨hc, hb, ht⟩ := Forest.hasTextsApart_text.1 ht
    -- The piece ends with the text because markup comes next: no text stands after a text.
    rw [List.append_assoc, Piece.scan_writeText_append content (hr.atMarkup hn hb ha), ih hn ht ha]
    simp [textPieces, hc, Forest.pieces]
  | @void start name attributes next inner rest hv hs hw hr ih =>
    obtain ⟨hm, hraw, hg, -, hn⟩ := Forest.hasWritableNames_element.1 hn
    simp only [Forest.hasTextsApart, Bool.true_and] at ht
    have hp := Piece.next?_written_startTag hm hraw hs hg hw (rest ++ after)
    simp only [List.cons_append, List.append_assoc]
    rw [Piece.scan_of_next? hp, ih hn ht ha]
    simp [Forest.pieces, hv]
  | @element start finish name attributes children next inner content rest hv hs hw hc he hr
      ihc ihn =>
    obtain ⟨hm, hraw, hg, hnc, hn⟩ := Forest.hasWritableNames_element.1 hn
    simp only [Forest.hasTextsApart, Bool.and_eq_true] at ht
    have hp := Piece.next?_written_startTag hm hraw hs hg hw
      (content ++ '<' :: '/' :: (finish ++ '>' :: (rest ++ after)))
    have hend := Piece.next?_endTag he hm (rest ++ after)
    have hat := Piece.atMarkup_endTag he hm (rest ++ after)
    simp only [List.cons_append, List.append_assoc]
    rw [Piece.scan_of_next? hp, ihc hnc ht.1 hat, Piece.scan_of_next? hend, ihn hn ht.2 ha]
    simp [Forest.pieces, hv]

end Rendered

namespace Nesting

/-- A start tag that does not end the innermost open element ends none. -/
theorem endImplied_of_head {name : String} {opened : OpenElements}
    (h : ∀ innermost ∈ opened.head?, ContentModel.impliesEnd name innermost = false) :
    endImplied name opened = ([], opened) := by
  cases opened with
  | nil => rfl
  | cons innermost outer =>
    have hi := h innermost rfl
    simp [endImplied, hi]

/-- An end tag of the innermost open element ends it alone. -/
theorem endTag_head (name : String) (outer : OpenElements) :
    endTag name (name :: outer) = ([.event .leave], outer) := by
  simp [endTag]

/-- Where a forest fits into the innermost open element, its pieces report a walk through it and
leave the open elements as they were. -/
theorem eventsOf_report_pieces (forest : Forest) (opened : OpenElements)
    (h : forest.fitsInto opened.head? = true) (rest : List Piece) :
    eventsOf (report opened (forest.pieces ++ rest)) =
      forest.walk ++ eventsOf (report opened rest) := by
  induction forest generalizing opened rest with
  | nil => rfl
  | text content next ih =>
    rw [Forest.pieces, List.cons_append, eventsOf_report_cons]
    exact congrArg (Event.text content :: ·) (ih opened h rest)
  | element name attributes children next ihc ihn =>
    obtain ⟨hp, hv, hc, hn⟩ := Forest.fitsInto_element.1 h
    have hi := endImplied_of_head hp
    rw [Forest.pieces, Forest.walk, List.cons_append, eventsOf_report_cons]
    cases hvoid : ContentModel.isVoid name with
    | true =>
      have hs : step opened (.startTag name ⟨attributes, false⟩) =
          ([.event (.enter name attributes), .event .leave], opened) := by
        simp [step, startTag, hi, hvoid]
      rw [hs, hv hvoid]
      simp [Forest.pieces, Forest.walk, ihn opened hn]
    | false =>
      have hs : step opened (.startTag name ⟨attributes, false⟩) =
          ([.event (.enter name attributes)], name :: opened) := by
        simp [step, startTag, hi, hvoid]
      have he : step (name :: opened) (.endTag name) = ([.event .leave], opened) :=
        endTag_head name opened
      -- The children leave the element innermost, where its end tag finds it.
      have hw := ihc (name :: opened) hc (.endTag name :: (next.pieces ++ rest))
      rw [eventsOf_report_cons, he, ihn opened hn] at hw
      simp [hs, hw]

end Nesting

open Nesting

/-- Reading undoes rendering. Where the names of a forest can be written, its elements fit into one
another, and its texts are apart, there is markup that renders it, and the events of any such markup
are those of a walk through it. -/
theorem events_of_rendered {forest : Forest} (hn : forest.hasWritableNames = true)
    (hf : forest.fitsInto none = true) (ht : forest.hasTextsApart = true) :
    (∃ markup : String, Rendered forest markup.toList) ∧
      ∀ markup : String, Rendered forest markup.toList → events markup = forest.walk := by
  constructor
  · obtain ⟨markup, hr⟩ := Rendered.exists_rendered hn hf
    exact ⟨String.ofList markup, String.toList_ofList.symm ▸ hr⟩
  · intro markup hr
    have hm : AtMarkup [] := trivial
    have hs := hr.scan_append hn ht hm
    rw [List.append_nil, Piece.scan_nil] at hs
    rw [events_eq_eventsOf_report, hs, eventsOf_report_pieces forest [] hf []]
    simp [report, endOfInput]

/-- A list whose item ends with a void element, and a text after the list. -/
def sampleList : Forest :=
  .element "ul" ⟨[("class", "a \"b\" & c"), ("x", "1>2")], by decide⟩
    (.element "li" ∅ (.text "x < y" (.element "br" ∅ .nil .nil)) .nil) (.text "end" .nil)

/-- Markup that renders the list, with its names in mixed case. -/
def sampleMarkup : String :=
  "<Ul CLASS=\"a &quot;b&quot; &amp; c\" X=\"1>2\"><LI>x &lt; y<bR></li></UL>end"

/-- The list is rendered by its markup and read back from it. -/
theorem events_sampleMarkup :
    (sampleList.hasWritableNames = true ∧ sampleList.fitsInto none = true ∧
      sampleList.hasTextsApart = true ∧ Rendered sampleList sampleMarkup.toList) ∧
      events sampleMarkup = sampleList.walk := by
  have hb : Rendered (.element "br" ∅ .nil .nil) _ :=
    .void "bR".toList (by decide) (by decide) .nil .nil
  have hl : Rendered (.element "li" ∅ (.text "x < y" (.element "br" ∅ .nil .nil)) .nil) _ :=
    .element "LI".toList "li".toList (by decide) (by decide) .nil (.text "x < y" hb) (by decide)
      .nil
  have ha : WrittenAttributes [("class", "a \"b\" & c"), ("x", "1>2")] _ :=
    .cons "CLASS".toList (by decide) (.cons "X".toList (by decide) .nil)
  have hu : Rendered sampleList _ :=
    .element "Ul".toList "UL".toList (by decide) (by decide) ha hl (by decide) (.text "end" .nil)
  have hr : Rendered sampleList sampleMarkup.toList := hu
  have hn : sampleList.hasWritableNames = true := by decide +kernel
  have hf : sampleList.fitsInto none = true := by decide +kernel
  have ht : sampleList.hasTextsApart = true := by decide +kernel
  exact ⟨⟨hn, hf, ht, hr⟩, (events_of_rendered hn hf ht).2 sampleMarkup hr⟩

end ViewCode.Markup
