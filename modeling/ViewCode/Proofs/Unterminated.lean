import ViewCode.Proofs.Conversions
import ViewCode.Proofs.Positions
import ViewCode.Proofs.SubDocuments

/-!
# Markup that the end of the input cuts off

A start tag that is never ended is dropped with all that follows it, and the code is that of the
markup before the tag. An end tag, a declaration or a processing instruction without its `>` is not
dropped: its characters go on with the text before it and show in the events.
-/

namespace ViewCode.Markup

open ViewCode.Text ViewCode.Code

/-- What is not ended by a `>` goes on with the text before it. -/
theorem Piece.scanAfter_of_unterminated {kind : Content.Kind} {mark inner : List Char}
    (hm : Content.Mark kind mark) (hk : kind.isBounded = true) (hg : '>' ∉ inner)
    (pending : List Char) :
    scanAfter pending (mark ++ inner) =
      [.text (Reference.decoded pending ++ Reference.decoded (mark ++ inner))] := by
  have hn := Content.next?_eq_some_iff.2 (.unterminated hm hk hg)
  rw [scanAfter_of_isText hn rfl, scanAfter_nil]
  obtain ⟨rest, rfl⟩ := hm.exists_cons
  rw [textPieces_of_ne_nil (by simp), List.cons_append, Reference.decoded,
    Reference.decode_append_less, String.ofList_append]
  rfl

/-- A text that goes on is another text. -/
theorem text_append_cons_ne {content more : String} (h : more ≠ "") (rest : List Event) :
    .text (content ++ more) :: rest ≠ textEvents content ++ rest := by
  unfold textEvents
  split
  · intro he
    have hl := congrArg List.length he
    rw [List.length_cons, List.nil_append] at hl
    omega
  · intro he
    have hc : content ++ more = content := by simpa using he
    rw [String.append_eq_left_iff] at hc
    exact h hc

/-- An end tag, a declaration or a processing instruction without its `>` is read as text, which
goes on with the text before it: the markup up to there reports the same events, but for the last
text. So such markup always shows in the events. -/
theorem events_of_unterminated_markup {markup : String} {before mark inner : List Char}
    {kind : Content.Kind} (hmarkup : markup.toList = before ++ (mark ++ inner))
    (hs : Piece.StandsAt (mark ++ inner) markup.toList) (hm : Content.Mark kind mark)
    (hk : kind.isBounded = true) (hg : '>' ∉ inner) :
    (∃ front run count, run <:+ before ∧
      events (String.ofList before) =
        front ++ (textEvents (Reference.decoded run) ++ List.replicate count .leave) ∧
      events markup =
        front ++ .text (Reference.decoded run ++ Reference.decoded (mark ++ inner)) ::
          List.replicate count .leave) ∧
      events markup ≠ events (String.ofList before) := by
  obtain ⟨rest, hrest⟩ := hm.exists_cons
  have hr : mark ++ inner = '<' :: (rest ++ inner) := by rw [hrest, List.cons_append]
  rw [hmarkup] at hs
  obtain ⟨front, run, opened, hrun, hbefore, hwhole⟩ := hs.exists_events hr
  have hlast : Nesting.Reports opened
      [.text (Reference.decoded run ++ Reference.decoded (mark ++ inner))]
      [.text (Reference.decoded run ++ Reference.decoded (mark ++ inner))] opened := .single rfl rfl
  rw [← hmarkup, String.ofList_toList, Piece.scanAfter_of_unterminated hm hk hg,
    hlast.eventsOf_report, List.singleton_append] at hwhole
  refine ⟨⟨front, run, opened.length, hrun, hbefore, hwhole⟩, ?_⟩
  have hne : Reference.decoded (mark ++ inner) ≠ "" := by
    rw [ne_eq, Reference.decoded_eq_empty_iff, hr]
    exact List.cons_ne_nil _ _
  rw [hwhole, hbefore]
  intro he
  exact text_append_cons_ne hne _ (List.append_cancel_left he)

/-- Behind a text in an element, an end tag without its `>` is shown with its references
decoded. -/
theorem events_cutOffEndTag :
    Piece.StandsAt "</a &lt;".toList "<p>x</a &lt;".toList ∧
      events "<p>x</a &lt;" = [.enter "p" ∅, .text "x</a <", .leave] ∧
      events "<p>x</a &lt;" ≠ events "<p>x" := by
  have hs : Piece.StandsAt "</a &lt;".toList "<p>x</a &lt;".toList := by decide +kernel
  have hm : Content.Mark .endTag "</a".toList := .endTag (by decide)
  have hw : "<p>x</a &lt;".toList = "<p>x".toList ++ ("</a".toList ++ " &lt;".toList) := by decide
  have hu := events_of_unterminated_markup hw hs hm rfl (by decide)
  exact ⟨hs, by decide +kernel, hu.2⟩

/-- A token is looked for where the end tag begins, and no `>` follows, but the events are not those
of the markup before it. -/
theorem events_not_cut_at_end_tag :
    Piece.StandsAt "</a".toList "x</a".toList ∧ '>' ∉ "</a".toList ∧
      events "x</a" = [.text "x</a"] ∧ events "x" = [.text "x"] := by
  refine ⟨?_, ?_, ?_, ?_⟩ <;> decide +kernel

/-- Text without `<` has no other piece. -/
theorem Piece.scan_of_less_not_mem {text : List Char} (h : '<' ∉ text) :
    scan text = textPieces (Reference.decoded text) := by
  by_cases hn : text = []
  · subst hn
    rw [scan_nil, textPieces_nil]
  · have ht : next? (text ++ []) = some (.text (Reference.decoded text), []) :=
      next?_text hn h trivial
    rw [List.append_nil] at ht
    rw [scan_of_next? ht, scan_nil, textPieces_of_ne_nil hn]

/-- A tag that is cut off adds the text that is left behind it, and nothing else. -/
theorem exists_events_of_brokenTag {before rest left : List Char} {name : String}
    (hs : Piece.StandsAt rest (before ++ rest)) (hb : Piece.Begins (.brokenTag name) rest left)
    (hl : '<' ∉ left) :
    ∃ front leaves,
      events (String.ofList (before ++ rest)) =
          front ++ (textEvents (Reference.decoded left) ++ leaves) ∧
        events (String.ofList before) = front ++ leaves := by
  obtain ⟨others, hr⟩ := hb.exists_cons
  obtain ⟨front, run, opened, -, hbefore, hwhole⟩ := hs.exists_events hr
  have hrun := Nesting.Reports.textPieces opened (Reference.decoded run)
  have hleft := Nesting.Reports.textPieces opened (Reference.decoded left)
  have hbroken : Nesting.Reports opened [.brokenTag name] [] opened := .single rfl rfl
  refine ⟨front ++ textEvents (Reference.decoded run), List.replicate opened.length .leave, ?_, ?_⟩
  · rw [hwhole, Piece.scanAfter_of_begins hb, Piece.scan_of_less_not_mem hl, List.append_cons,
      (hrun.append hbroken |>.append hleft).eventsOf_report]
    simp
  · rw [hbefore, List.append_assoc]

/-- A draft that is sent a text that shows nothing stays as it is. -/
theorem Sink.sendAll_textEvents {content : String} (h : ¬(Event.text content).IsShown)
    (rest : List Event) :
    Sink.sendAll Draft.sink (textEvents content ++ rest) = Sink.sendAll Draft.sink rest := by
  funext draft
  unfold textEvents
  split
  · rfl
  · have hs : Draft.sink (.text content) draft = .ok () draft := by
      have ht := draft.text_eq content
      rw [Layout.textItem?_eq_none_iff.2 h] at ht
      exact congrArg (EStateM.Result.ok ()) ht
    exact sendAll_cons_of_ok hs rest

/-- Sending goes on in the same way after the same events. -/
theorem Sink.sendAll_append_congr {ε σ : Type} {sink : Sink ε σ} {second other : List Event}
    (h : sink.sendAll second = sink.sendAll other) (first : List Event) :
    sink.sendAll (first ++ second) = sink.sendAll (first ++ other) := by
  induction first with
  | nil => exact h
  | cons e rest ih => rw [List.cons_append, List.cons_append, sendAll_cons, sendAll_cons, ih]

end ViewCode.Markup

namespace ViewCode

open ViewCode.Text ViewCode.Code ViewCode.Markup

/-- A start tag without its end leaves no trace in the code. Where the content of the markup has a
start tag that is never ended, nothing but blanks is left unread behind it, and the code is that of
the markup before the tag. -/
theorem convert_of_unterminated_start_tag {markup : String} {before rest after left : List Char}
    {token : Content.Token} (hm : markup.toList = before ++ rest)
    (hs : Piece.StandsAt rest markup.toList) (hn : Content.next? rest = some (token, after))
    (hk : token.kind = .startTag) (hr : Tag.read after = (none, left)) (settings : Settings) :
    (∀ c ∈ left, isBlank c = true) ∧
      convert settings markup = convert settings (String.ofList before) := by
  have hblank := Tag.isBlank_of_readOn_none hr
  refine ⟨hblank, convert_congr ?_ settings⟩
  have hb : Piece.Begins (.brokenTag (TagName.ofStart token.lexeme)) rest left := by
    refine ⟨token, after, Content.next?_eq_some_iff.1 hn, by rw [hk]; rfl, ?_⟩
    simp only [Piece.ofToken, hk, Piece.ofStartTag, hr]
  have hnot : ∀ c, isBlank c = false → c ∉ left := by
    intro c hc hmem
    rw [hblank c hmem] at hc
    exact absurd hc.symm Bool.false_ne_true
  have hhidden : ¬(Event.text (Reference.decoded left)).IsShown := by
    rintro ⟨c, hc, hshown⟩
    rw [Reference.decoded, String.toList_ofList,
      Reference.decode_of_not_mem (hnot '&' (by decide))] at hc
    simp [isMargin, hblank c hc] at hshown
  rw [hm] at hs
  obtain ⟨front, leaves, hw, he⟩ := exists_events_of_brokenTag hs hb (hnot '<' (by decide))
  rw [← hm, String.ofList_toList] at hw
  rw [hw, he]
  exact Sink.sendAll_append_congr (Sink.sendAll_textEvents hhidden leaves) front

/-- A link without its end, in a list item that is not ended either, has blanks in place of its last
value. They are left unread and do not show. -/
theorem convert_cutOffLink :
    Piece.StandsAt "<a id=x href=\u2003 ".toList "<ul><li>one <a id=x href=\u2003 ".toList ∧
      Tag.read " id=x href=\u2003 ".toList = (none, "\u2003 ".toList) ∧
      ∀ settings, convert settings "<ul><li>one <a id=x href=\u2003 " =
        convert settings "<ul><li>one " := by
  have hm : "<ul><li>one <a id=x href=\u2003 ".toList =
      "<ul><li>one ".toList ++ "<a id=x href=\u2003 ".toList := by decide
  have hs : Piece.StandsAt "<a id=x href=\u2003 ".toList
      "<ul><li>one <a id=x href=\u2003 ".toList := by decide +kernel
  have hn : Content.next? "<a id=x href=\u2003 ".toList =
      some (⟨.startTag, "<a".toList⟩, " id=x href=\u2003 ".toList) := by decide +kernel
  have hr : Tag.read " id=x href=\u2003 ".toList = (none, "\u2003 ".toList) := by decide +kernel
  refine ⟨hs, hr, fun settings => ?_⟩
  exact (convert_of_unterminated_start_tag hm hs hn rfl hr settings).2

end ViewCode
