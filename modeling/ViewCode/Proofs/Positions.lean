import ViewCode.Proofs.Locality
import ViewCode.Proofs.OmittedEndTags

/-!
# Positions in markup

Reading looks for one token of content after another, and each position where it does so is a place
where the markup can be cut. Cut before a `<`, the markup up to there gives the pieces that it gives
in the whole, except that the text directly before the position is not closed yet: what is read next
may go on with it.
-/

namespace ViewCode.Markup

open ViewCode.Text

namespace Piece

/-- Where the next token of content is looked for, given a token and what comes after it: where a
start tag begins, behind the tag, or behind the whole element if that is a raw-text element. -/
def afterToken (token : Content.Token) (after : List Char) : List Char :=
  if token.kind = .startTag then (ofStartTag (TagName.ofStart token.lexeme) after).2 else after

/-- After text the next token is looked for at once. -/
theorem afterToken_of_isText {token : Content.Token} (h : isText token.kind = true)
    (after : List Char) : afterToken token after = after := by
  rw [afterToken, if_neg]
  intro hs
  rw [hs] at h
  exact absurd h Bool.false_ne_true

/-- After markup the next token is looked for where the piece ends. -/
theorem snd_ofToken_of_not_isText {token : Content.Token} (h : isText token.kind = false)
    (after : List Char) : (ofToken token after).2 = afterToken token after := by
  rcases kind_of_not_isText h with hs | hm
  · rw [afterToken, if_pos hs, ofToken, hs]
  · obtain ⟨piece, hp⟩ := exists_ofToken_eq hm
    rw [hp, afterToken, if_neg]
    intro hs
    simp [hs, Content.Kind.isBounded] at hm

theorem length_afterToken_le (token : Content.Token) (after : List Char) :
    (afterToken token after).length ≤ after.length := by
  unfold afterToken
  split
  · exact length_ofStartTag_le _ after
  · exact Nat.le_refl _

/-- In reading the content, a token of content is looked for where the rest begins. -/
inductive StandsAt (rest : List Char) : List Char → Prop where
  /-- A token is looked for at the front. -/
  | front : StandsAt rest rest
  /-- A token is looked for after the first one. -/
  | behind {content after : List Char} {token : Content.Token} :
      Content.next? content = some (token, after) → StandsAt rest (afterToken token after) →
      StandsAt rest content

namespace StandsAt

/-- Where there is no token, reading is at its end. -/
theorem iff_of_none {rest content : List Char} (hn : Content.next? content = none) :
    StandsAt rest content ↔ rest = content := by
  constructor
  · intro h
    cases h with
    | front => rfl
    | behind hs =>
      rw [hn] at hs
      simp at hs
  · rintro rfl
    exact .front

/-- Reading is at the front or goes on after the first token. -/
theorem iff_of_next? {rest content after : List Char} {token : Content.Token}
    (hn : Content.next? content = some (token, after)) :
    StandsAt rest content ↔ rest = content ∨ StandsAt rest (afterToken token after) := by
  constructor
  · intro h
    cases h with
    | front => exact .inl rfl
    | behind hs ha =>
      rw [hn] at hs
      cases hs
      exact .inr ha
  · rintro (rfl | ha)
    · exact .front
    · exact .behind hn ha

/-- Whether reading comes to a position can be decided by reading. -/
instance decidable (rest content : List Char) : Decidable (StandsAt rest content) :=
  match hn : Content.next? content with
  | none => decidable_of_iff _ (iff_of_none hn).symm
  | some (token, after) =>
    have : (afterToken token after).length < content.length :=
      Nat.lt_of_le_of_lt (length_afterToken_le token after) (Content.length_lt_of_next? hn)
    have := decidable rest (afterToken token after)
    decidable_of_iff _ (iff_of_next? hn).symm
termination_by content.length

end StandsAt

/-- Markup closes the text before it and is a piece of its own. -/
theorem scanAfter_of_begins {content left : List Char} {piece : Piece}
    (h : Begins piece content left) (pending : List Char) :
    scanAfter pending content = textPieces (Reference.decoded pending) ++ piece :: scan left := by
  obtain ⟨token, after, hl, hk, ho⟩ := h
  rw [scanAfter_of_not_isText (Content.next?_eq_some_iff.2 hl) hk, ho]

/-- The content is read apart from what comes after it, if that is a `<` or the end of the input:
its pieces do not depend on it, but for the text at the end of the content, which is not closed
yet. -/
def ReadsApart (content : List Char) : Prop :=
  ∀ pending, ∃ pieces run, run <:+ pending ++ content ∧
    ∀ tail, Stops (· != '<') tail →
      scanAfter pending (content ++ tail) = pieces ++ scanAfter run tail

namespace ReadsApart

theorem nil : ReadsApart [] :=
  fun pending => ⟨[], pending, by simp, fun _ _ => rfl⟩

/-- A token that is read as text goes before content that is read apart. -/
theorem text {content whole others : List Char} {token : Content.Token} (h : ReadsApart content)
    (hl : Content.Lexes whole token (content ++ '<' :: others)) (hk : isText token.kind = true) :
    ReadsApart (token.lexeme ++ content) := by
  intro pending
  obtain ⟨pieces, run, hrun, hp⟩ := h (pending ++ token.lexeme)
  refine ⟨pieces, run, by simpa using hrun, fun tail ht => ?_⟩
  have hn := Content.next?_eq_some_iff.2 (hl.cut hk ht)
  rw [List.append_assoc, scanAfter_of_isText hn hk, hp tail ht]

/-- Markup that ends where content that is read apart begins goes before it. -/
theorem markup {content taken : List Char} {piece : Piece} (h : ReadsApart content)
    (hb : ∀ other, Begins piece (taken ++ other) other) : ReadsApart (taken ++ content) := by
  intro pending
  obtain ⟨pieces, run, hrun, hp⟩ := h []
  refine ⟨textPieces (Reference.decoded pending) ++ piece :: pieces, run, ?_, fun tail ht => ?_⟩
  · have hs : content <:+ pending ++ (taken ++ content) :=
      (List.suffix_append taken content).trans (List.suffix_append pending _)
    exact hrun.trans hs
  · rw [List.append_assoc, scanAfter_of_begins (hb (content ++ tail)), ← scanAfter_nil_pending,
      hp tail ht, List.append_assoc, List.cons_append]

end ReadsApart

/-- Where a token is looked for at a `<`, what comes before that position is read apart. -/
theorem StandsAt.exists_readsApart {content rest others : List Char} (h : StandsAt rest content)
    (hr : rest = '<' :: others) : ∃ before, content = before ++ rest ∧ ReadsApart before := by
  induction h with
  | front => exact ⟨[], rfl, .nil⟩
  | @behind content after token hn _ ih =>
    obtain ⟨before, ha, hbefore⟩ := ih
    have hl := Content.next?_eq_some_iff.1 hn
    cases hk : isText token.kind with
    | true =>
      rw [afterToken_of_isText hk] at ha
      subst ha hr
      exact ⟨token.lexeme ++ before, by simpa using hl.eq_append, hbefore.text hl hk⟩
    | false =>
      have hb : Begins (ofToken token after).1 content (before ++ rest) := by
        rw [← ha, ← snd_ofToken_of_not_isText hk]
        exact ⟨token, after, hl, hk, rfl⟩
      -- A tag without an end would leave nothing but blanks, and the rest begins with a `<`.
      have hblank : ∃ c ∈ before ++ rest, isBlank c = false := ⟨'<', by simp [hr], by decide⟩
      obtain ⟨taken, -, rfl, ho⟩ := hb.takes hblank
      exact ⟨taken ++ before, by simp, hbefore.markup ho⟩

end Piece

/-- Whatever pieces come, there are events that they report. -/
theorem Nesting.exists_reports (opened : OpenElements) (pieces : List Piece) :
    ∃ events after, Reports opened pieces events after := by
  induction pieces generalizing opened with
  | nil => exact ⟨[], opened, .nil opened⟩
  | cons piece others ih =>
    obtain ⟨events, after, hr⟩ := ih (step opened piece).2
    exact ⟨_, after, (Reports.single rfl rfl).append hr⟩

/-- At the end of the input, the elements that the pieces leave open are closed. -/
theorem Nesting.Reports.eventsOf_report {opened after : OpenElements} {pieces : List Piece}
    {events : List Event} (h : Reports opened pieces events after) :
    eventsOf (report opened pieces) = events ++ List.replicate after.length .leave := by
  have hr := h []
  rw [List.append_nil] at hr
  rw [hr, report, eventsOf_endOfInput]

/-- Where a token is looked for at a `<`, the markup before that position and the whole markup
report the same events up to the text directly before the position. That text is closed at the end
of the input in the one and may go on in the other, with the same elements open. -/
theorem Piece.StandsAt.exists_events {before rest others : List Char}
    (h : StandsAt rest (before ++ rest)) (hr : rest = '<' :: others) :
    ∃ front run opened, run <:+ before ∧
      events (String.ofList before) =
        front ++ (textEvents (Reference.decoded run) ++ List.replicate opened.length .leave) ∧
      events (String.ofList (before ++ rest)) =
        front ++ Nesting.eventsOf (Nesting.report opened (scanAfter run rest)) := by
  obtain ⟨whole, hw, hapart⟩ := h.exists_readsApart hr
  obtain rfl := List.append_cancel_right hw
  obtain ⟨pieces, run, hrun, hp⟩ := hapart []
  obtain ⟨front, opened, hf⟩ := Nesting.exists_reports [] pieces
  have hcut : ∀ tail, Stops (· != '<') tail → events (String.ofList (before ++ tail)) =
      front ++ Nesting.eventsOf (Nesting.report opened (scanAfter run tail)) := by
    intro tail ht
    have hs := hp tail ht
    rw [scanAfter_nil_pending] at hs
    rw [events_eq_eventsOf_report, String.toList_ofList, hs, hf]
  refine ⟨front, run, opened, hrun, ?_, hcut rest (hr ▸ stops_cons rfl others)⟩
  have hend := hcut [] (stops_nil _)
  rwa [List.append_nil, scanAfter_nil,
    (Nesting.Reports.textPieces opened (Reference.decoded run)).eventsOf_report] at hend

end ViewCode.Markup
