import ViewCode.Proofs.Positions

/-!
# Text without markup

A `<` begins markup only if certain characters follow it. Text in which that happens nowhere is cut
into tokens at each of its `<`, but it is read as one text, and its references are decoded as a
whole. What comes after such a text does not change that, if it is markup or the end of the input.
-/

namespace ViewCode.Markup

open ViewCode.Text

/-- No markup begins in the text: no `<` of it is followed by a letter, a slash and a letter, `!--`,
an exclamation mark with a letter or `[`, or a question mark. -/
def HasNoMarkup (text : List Char) : Prop :=
  ∀ {kind : Content.Kind} {mark : List Char}, Content.Mark kind mark →
    ∀ before after, text ≠ before ++ (mark ++ after)

/-- Markup begins with a mark exactly if it is not read as text. -/
theorem Content.isText_opening_iff {content : List Char} :
    Piece.isText (opening content) = true ↔
      ∀ {kind mark}, Mark kind mark → ∀ more, content ≠ mark ++ more := by
  constructor
  · rintro h kind mark hm more rfl
    rw [hm.opening_append] at h
    cases hm <;> exact absurd h Bool.false_ne_true
  · intro h
    cases content with
    | nil => rfl
    | cons c rest =>
      by_cases hc : c = '<'
      · subst hc
        rw [opening_eq_lessThan fun hm => h hm _]
        rfl
      · have ho : opening (c :: rest) = .text := by simp [opening, hc]
        rw [ho]
        rfl

namespace HasNoMarkup

variable {text after : List Char}

/-- Whether markup begins in a text is seen at each of its positions. -/
theorem iff_tails :
    HasNoMarkup text ↔
      (text.tails.all fun rest => Piece.isText (Content.opening rest)) = true := by
  simp only [List.all_eq_true, List.mem_tails, Content.isText_opening_iff]
  constructor
  · rintro h rest ⟨before, rfl⟩ kind mark hm more rfl
    exact h hm before more rfl
  · rintro h kind mark hm before more rfl
    exact h _ (List.suffix_append before _) hm more rfl

instance (text : List Char) : Decidable (HasNoMarkup text) :=
  decidable_of_iff' _ iff_tails

theorem of_cons {c : Char} (h : HasNoMarkup (c :: text)) : HasNoMarkup text := by
  rintro kind mark hm before more rfl
  exact h hm (c :: before) more rfl

/-- A `<` of the text begins no markup with what comes after the text either. -/
theorem ne_mark_append (h : HasNoMarkup ('<' :: text)) (hs : Stops (· != '<') after)
    {kind : Content.Kind} {mark more : List Char} (hm : Content.Mark kind mark) :
    '<' :: (text ++ after) ≠ mark ++ more := by
  intro he
  rw [← List.cons_append] at he
  rcases List.append_eq_append_iff.1 he with ⟨inner, hmark, hafter⟩ | ⟨inner, htext, -⟩
  · cases inner with
    | nil => exact h hm [] [] (by simpa using hmark.symm)
    | cons c others =>
      -- What comes after the text begins with a `<`, and a mark has no second one.
      have hc : c = '<' := by simpa using hs c (by rw [hafter]; rfl)
      apply hm.not_mem.1
      rw [hmark, hc]
      simp
  · exact h hm [] inner htext

end HasNoMarkup

namespace Piece

/-- A character other than `<` goes on with the text before it. -/
theorem scanAfter_cons_of_ne {c : Char} (hc : c ≠ '<') (pending content : List Char) :
    scanAfter pending (c :: content) = scanAfter (pending ++ [c]) content := by
  obtain ⟨run, hr, ht⟩ := exists_run (· != '<') content
  have hs := stops_dropWhile (· != '<') content
  generalize content.dropWhile (· != '<') = after at ht hs
  subst ht
  have hl : '<' ∉ run := fun hm => by simpa using hr '<' hm
  have hn : Content.next? (c :: run ++ after) = some (⟨.text, c :: run⟩, after) :=
    Content.next?_of_stops (by simp) (by simp [hc.symm, hl]) hs
  rw [← List.cons_append, scanAfter_of_isText hn rfl]
  cases run with
  | nil => rfl
  | cons d others =>
    rw [scanAfter_of_isText (Content.next?_of_stops (by simp) hl hs) rfl, List.append_assoc]
    rfl

/-- A text without markup goes on with the text before it, whole, up to the next `<`. -/
theorem scanAfter_append_of_hasNoMarkup {text after : List Char} (h : HasNoMarkup text)
    (hs : Stops (· != '<') after) (pending : List Char) :
    scanAfter pending (text ++ after) = scanAfter (pending ++ text) after := by
  induction text generalizing pending with
  | nil => simp
  | cons c rest ih =>
    have hstep : scanAfter pending (c :: (rest ++ after)) =
        scanAfter (pending ++ [c]) (rest ++ after) := by
      by_cases hc : c = '<'
      · subst hc
        have hl := Content.Lexes.lessThan fun hm => h.ne_mark_append hs hm
        exact scanAfter_of_isText (Content.next?_eq_some_iff.2 hl) rfl pending
      · exact scanAfter_cons_of_ne hc pending _
    rw [List.cons_append, hstep, ih h.of_cons, List.append_assoc]
    rfl

/-- Markup, and the end of the input, closes the text before it. -/
theorem scanAfter_of_atMarkup {content : List Char} (h : AtMarkup content)
    (pending : List Char) :
    scanAfter pending content = textPieces (Reference.decoded pending) ++ scan content := by
  rw [scanAfter, textRun_of_atMarkup h, List.append_nil]

/-- A text without markup is one piece, up to the markup or the end of the input after it. -/
theorem scan_append_of_hasNoMarkup {text after : List Char} (hn : text ≠ [])
    (h : HasNoMarkup text) (ha : AtMarkup after) :
    scan (text ++ after) = .text (Reference.decoded text) :: scan after := by
  have hs : Stops (· != '<') after := by
    cases after with
    | nil => exact stops_nil _
    | cons c rest => exact stops_cons (by simp [ha.1]) rest
  rw [← scanAfter_nil_pending, scanAfter_append_of_hasNoMarkup h hs, scanAfter_of_atMarkup ha,
    List.nil_append, textPieces_of_ne_nil hn, List.singleton_append]

end Piece

/-- The events of markup that is cut into the pieces of a forest are those of a walk through it, if
its elements fit into one another. -/
theorem events_of_scan_eq_pieces {markup : String} {forest : Forest}
    (hs : Piece.scan markup.toList = forest.pieces) (hf : forest.fitsInto none = true) :
    events markup = forest.walk := by
  have hr := Nesting.eventsOf_report_pieces forest [] hf []
  rw [List.append_nil] at hr
  rw [events_eq_eventsOf_report, hs, hr]
  simp [Nesting.report, Nesting.endOfInput]

/-- A name of small letters can be that of a tag. -/
theorem isTagName_of_isLower {name : String} (hn : name ≠ "")
    (hl : ∀ c ∈ name.toList, c.isLower = true) : isTagName name = true := by
  unfold isTagName
  split
  · rename_i hi
    exact absurd (String.toList_eq_nil_iff.1 hi) hn
  · rename_i initial rest hi
    rw [hi] at hl
    rw [Bool.and_eq_true, List.all_eq_true]
    refine ⟨hl initial List.mem_cons_self, fun c hc => ?_⟩
    have hc := hl c (List.mem_cons_of_mem initial hc)
    have ha : c.isAlpha = true := by simp [Char.isAlpha, hc]
    rw [isPlain_of_isLower hc, Content.isTagNameChar_of_isAlpha ha, Bool.and_self]

/-- An element that is not void and has a text without markup for content is cut into its start
tag, the text and its end tag. -/
theorem Piece.scan_element_of_hasNoMarkup {name : String} {text : List Char}
    (hname : isTagName name = true) (hr : ContentModel.rawMode? name = none) (hn : text ≠ [])
    (h : HasNoMarkup text) :
    scan ('<' :: (name.toList ++ '>' :: (text ++ '<' :: '/' :: (name.toList ++ ['>'])))) =
      [.startTag name ⟨∅, false⟩, .text (Reference.decoded text), .endTag name] := by
  have hs : Spells name.toList name := .self fun c hc => (forall_mem_of_isTagName hname c hc).1
  have hw : WrittenAttributes (∅ : Attributes).entries [] := .nil
  have hstart := next?_written_startTag hname hr hs (List.forall_mem_nil _) hw
    (text ++ '<' :: '/' :: (name.toList ++ ['>']))
  rw [List.nil_append] at hstart
  rw [scan_of_next? hstart, scan_append_of_hasNoMarkup hn h (atMarkup_endTag hs hname []),
    scan_of_next? (next?_endTag hs hname []), scan_nil]

/-- Text without markup is read whole. However many `<` it has, it is one text with its references
decoded, at the top level and as the content of an element. -/
theorem events_of_markup_free_text {text : String} (hn : text ≠ "")
    (h : HasNoMarkup text.toList) :
    events text = [.text (Reference.decoded text.toList)] ∧
      ∀ name : String, name ≠ "" → (∀ c ∈ name.toList, c.isLower = true) →
        ContentModel.isVoid name = false → ContentModel.rawMode? name = none →
        events ("<" ++ name ++ ">" ++ text ++ "</" ++ name ++ ">") =
          [.enter name ∅, .text (Reference.decoded text.toList), .leave] := by
  have ht : text.toList ≠ [] := fun e => hn (String.toList_eq_nil_iff.1 e)
  constructor
  · have ha : AtMarkup [] := trivial
    have hp := Piece.scan_append_of_hasNoMarkup ht h ha
    rw [List.append_nil, Piece.scan_nil] at hp
    have hs : Piece.scan text.toList =
        (Forest.text (Reference.decoded text.toList) .nil).pieces := hp
    exact events_of_scan_eq_pieces hs rfl
  · intro name hne hl hv hr
    have hp := Piece.scan_element_of_hasNoMarkup (isTagName_of_isLower hne hl) hr ht h
    have hs : Piece.scan ("<" ++ name ++ ">" ++ text ++ "</" ++ name ++ ">").toList =
        (Forest.element name ∅ (.text (Reference.decoded text.toList) .nil) .nil).pieces := by
      simp [Forest.pieces, hv, hp]
    exact events_of_scan_eq_pieces hs (by simp [Forest.fitsInto, hv])

/-- References, a `<` before each kind of character that begins no markup with it, and a `<` at the
end. -/
def strayMarks : String :=
  "1 &lt; 2 <3 </ <!- <! &amp;<"

/-- The stray marks are one text, and the end tag after them is still found. -/
theorem events_strayMarks :
    (strayMarks ≠ "" ∧ HasNoMarkup strayMarks.toList) ∧
      events strayMarks = [.text "1 < 2 <3 </ <!- <! &<"] ∧
      events ("<p>" ++ strayMarks ++ "</p>") =
        [.enter "p" ∅, .text "1 < 2 <3 </ <!- <! &<", .leave] := by
  have hn : strayMarks ≠ "" := by decide +kernel
  have h : HasNoMarkup strayMarks.toList := by decide +kernel
  have hd : Reference.decoded strayMarks.toList = "1 < 2 <3 </ <!- <! &<" := by decide +kernel
  obtain ⟨ht, he⟩ := events_of_markup_free_text hn h
  have hl : ∀ c ∈ "p".toList, c.isLower = true := List.all_eq_true.1 (by decide)
  have hp := he "p" (by decide) hl (by decide) (by decide)
  rw [hd] at ht hp
  exact ⟨⟨hn, h⟩, ht, hp⟩

end ViewCode.Markup
