import ViewCode.Proofs.Balance
import ViewCode.Proofs.Rendering

/-!
# Content models of what is read

The events of any markup are those of a walk through exactly one forest, and this forest follows the
content models of its elements: no start tag is left inside an element that it ends, void elements
are empty, and raw-text elements hold one text at most. The open elements say what is still to come:
for each of them the rest of its children, and then its end.
-/

namespace ViewCode.Markup

namespace Forest

/-- Whether there is at most one text and nothing else. -/
def isBareText : Forest → Bool
  | nil => true
  | text _ nil => true
  | text _ _ => false
  | element _ _ _ _ => false

/-- Whether raw-text elements hold at most one text each. -/
def hasBareRawText : Forest → Bool
  | nil => true
  | text _ next => next.hasBareRawText
  | element name _ children next =>
    ((ContentModel.rawMode? name).isNone || children.isBareText) && children.hasBareRawText &&
      next.hasBareRawText

/-- Whether no text is empty. -/
def hasFilledTexts : Forest → Bool
  | nil => true
  | text content next => !content.isEmpty && next.hasFilledTexts
  | element _ _ children next => children.hasFilledTexts && next.hasFilledTexts

/-- The forest follows the content models of its elements and can stand directly inside the given
element, or at the top level. -/
structure FollowsModel (parent : Option String) (forest : Forest) : Prop where
  /-- No start tag ends the element around it, and void elements are empty. -/
  fits : forest.fitsInto parent = true
  /-- Raw-text elements hold at most one text each. -/
  raw : forest.hasBareRawText = true
  /-- No text is empty. -/
  texts : forest.hasFilledTexts = true

namespace FollowsModel

variable {parent : Option String}

theorem nil : FollowsModel parent nil :=
  ⟨rfl, rfl, rfl⟩

/-- A text that is not empty can stand everywhere. -/
theorem text {content : String} {next : Forest} (hc : content ≠ "")
    (hn : FollowsModel parent next) :
    FollowsModel parent (text content next) :=
  ⟨hn.fits, hn.raw, by simp [hasFilledTexts, hc, hn.texts]⟩

/-- An element can stand where its start tag ends no other, with children that suit it. -/
theorem element {name : String} (attributes : Attributes) {children next : Forest}
    (hp : ∀ outer ∈ parent, ContentModel.impliesEnd name outer = false)
    (hv : ContentModel.isVoid name = true → children = .nil)
    (hr : ContentModel.rawMode? name = none ∨ children.isBareText = true)
    (hc : FollowsModel (some name) children) (hn : FollowsModel parent next) :
    FollowsModel parent (element name attributes children next) where
  fits := fitsInto_element.2 ⟨hp, hv, hc.fits, hn.fits⟩
  raw := by
    have hm : ((ContentModel.rawMode? name).isNone || children.isBareText) = true := by
      simpa using hr
    simp [hasBareRawText, hm, hc.raw, hn.raw]
  texts := by simp [hasFilledTexts, hc.texts, hn.texts]

end FollowsModel

/-- A walk determines its forest, and where it ends in a longer stream that goes on with leaving an
element. -/
theorem walk_append_inj {first second : Forest} {rest left : List Event}
    (hr : ∀ e ∈ rest.head?, e = .leave) (hl : ∀ e ∈ left.head?, e = .leave)
    (h : first.walk ++ rest = second.walk ++ left) : first = second ∧ rest = left := by
  induction first generalizing second rest left with
  | nil =>
    cases second with
    | nil => exact ⟨rfl, h⟩
    | element | text =>
      rw [walk, List.nil_append] at h
      rw [h] at hr
      exact absurd (hr _ rfl) (by simp)
  | element name attributes children next ihc ihn =>
    cases second with
    | nil =>
      rw [walk, walk, List.nil_append] at h
      rw [← h] at hl
      exact absurd (hl _ rfl) (by simp)
    | text content others => simp [walk] at h
    | element other otherAttributes inner others =>
      have hs : ∀ (tail : List Event), ∀ e ∈ (Event.leave :: tail).head?, e = .leave := by simp
      simp only [walk, List.cons_append, List.append_assoc, List.cons.injEq,
        Event.enter.injEq] at h
      obtain ⟨⟨rfl, rfl⟩, h⟩ := h
      obtain ⟨rfl, ht⟩ := ihc (hs _) (hs _) h
      obtain ⟨rfl, hrest⟩ := ihn hr hl (List.cons.inj ht).2
      exact ⟨rfl, hrest⟩
  | text content next ih =>
    cases second with
    | nil =>
      rw [walk, walk, List.nil_append] at h
      rw [← h] at hl
      exact absurd (hl _ rfl) (by simp)
    | element name attributes children others => simp [walk] at h
    | text other others =>
      simp only [walk, List.cons_append, List.cons.injEq, Event.text.injEq] at h
      obtain ⟨rfl, h⟩ := h
      obtain ⟨rfl, hrest⟩ := ih hr hl h
      exact ⟨rfl, hrest⟩

end Forest

namespace Piece

/-- What is known of a piece that is read, besides its form: a text is not empty, and a raw-text
element has no start tag of its own unless it closes itself. -/
def IsRegular : Piece → Prop
  | .text content => content ≠ ""
  | .startTag name tag => ContentModel.rawMode? name = none ∨ tag.selfClosing = true
  | .rawElement name _ _ => ContentModel.rawMode? name ≠ none
  | .ignored | .endTag _ | .brokenTag _ => True

/-- The piece of a start tag is regular. -/
theorem isRegular_ofStartTag (name : String) (content : List Char) :
    (ofStartTag name content).1.IsRegular := by
  unfold ofStartTag
  split
  · trivial
  · split
    · rename_i hm
      exact Or.inl hm
    · split
      · rename_i hs
        exact Or.inr hs
      · rename_i hm _
        simp [IsRegular, hm]

/-- The piece of a token is regular. -/
theorem isRegular_ofToken {token : Content.Token} (h : token.lexeme ≠ []) (after : List Char) :
    (ofToken token after).1.IsRegular := by
  have ht : Reference.decoded (token.lexeme ++ (textRun after).1) ≠ "" := by
    rw [ne_eq, Reference.decoded_eq_empty_iff]
    exact List.append_ne_nil_of_left_ne_nil h (textRun after).1
  unfold ofToken
  split
  · exact ht
  · exact ht
  · exact ht
  · trivial
  · trivial
  · trivial
  · trivial
  · exact isRegular_ofStartTag _ _

/-- All pieces that are read are regular. -/
theorem isRegular_of_mem_scan {content : List Char} {piece : Piece} (h : piece ∈ scan content) :
    piece.IsRegular := by
  fun_induction scan content with
  | case1 => simp at h
  | case2 content first after hn _ ih =>
    rcases List.mem_cons.1 h with rfl | hr
    · cases content with
      | nil => simp [next?, Content.next?] at hn
      | cons c rest =>
        have hp := isRegular_ofToken (Content.lexeme_first_ne_nil c rest) (Content.first c rest).2
        simp only [next?, Content.next?, Option.map_some, Option.some.injEq] at hn
        rwa [hn] at hp
    · exact ih hr

end Piece

namespace Nesting

/-- The events finish the open elements: for each of them come further children and its end, and
then come further nodes at the top level. All of these follow the content models. -/
def Finishes : OpenElements → List Event → Prop
  | [], events => ∃ forest, Forest.FollowsModel none forest ∧ events = forest.walk
  | name :: outer, events => ∃ forest rest, Forest.FollowsModel (some name) forest ∧
    Finishes outer rest ∧ events = forest.walk ++ Event.leave :: rest

namespace Finishes

variable {opened outer : OpenElements} {events : List Event}

/-- A node in front of what is still to come in the innermost open element. -/
theorem prepend {node : Forest → Forest} {front : List Event} (h : Finishes opened events)
    (hm : ∀ forest, Forest.FollowsModel opened.head? forest →
      Forest.FollowsModel opened.head? (node forest))
    (hw : ∀ forest, (node forest).walk = front ++ forest.walk) :
    Finishes opened (front ++ events) := by
  cases opened with
  | nil =>
    obtain ⟨forest, hf, rfl⟩ := h
    exact ⟨node forest, hm forest hf, (hw forest).symm⟩
  | cons name outer =>
    obtain ⟨forest, rest, hf, ho, rfl⟩ := h
    refine ⟨node forest, rest, hm forest hf, ho, ?_⟩
    rw [hw, List.append_assoc]

/-- A text that is not empty comes next. -/
theorem text (h : Finishes opened events) {content : String} (hc : content ≠ "") :
    Finishes opened (.text content :: events) := by
  have hw : ∀ forest, (Forest.text content forest).walk = [Event.text content] ++ forest.walk :=
    fun _ => rfl
  exact h.prepend (fun _ hf => hf.text hc) hw

/-- The innermost open element is left. -/
theorem leave (h : Finishes outer events) (name : String) :
    Finishes (name :: outer) (.leave :: events) :=
  ⟨.nil, events, .nil, h, rfl⟩

/-- As many elements are left as are no longer open afterwards. -/
theorem replicate_leave {count : Nat} (hc : count ≤ opened.length)
    (h : Finishes (opened.drop count) events) :
    Finishes opened (List.replicate count Event.leave ++ events) := by
  induction opened generalizing count with
  | nil =>
    obtain rfl : count = 0 := Nat.le_zero.1 hc
    exact h
  | cons name outer ih =>
    cases count with
    | zero => exact h
    | succ count => exact (ih (Nat.le_of_succ_le_succ hc) h).leave name

/-- A whole element comes next, with children that suit it. -/
theorem wholeElement (h : Finishes opened events) {name : String} (attributes : Attributes)
    {children : Forest} (hp : ∀ outer ∈ opened.head?, ContentModel.impliesEnd name outer = false)
    (hv : ContentModel.isVoid name = true → children = .nil)
    (hr : ContentModel.rawMode? name = none ∨ children.isBareText = true)
    (hc : Forest.FollowsModel (some name) children) :
    Finishes opened (.enter name attributes :: (children.walk ++ Event.leave :: events)) := by
  have hw : ∀ next, (Forest.element name attributes children next).walk =
      (.enter name attributes :: (children.walk ++ [Event.leave])) ++ next.walk := by
    intro next
    simp [Forest.walk]
  have he := h.prepend (fun next hn => .element attributes hp hv hr hc hn) hw
  simpa using he

/-- An element is entered that stays open, and its children follow it. -/
theorem enter {name : String} (h : Finishes (name :: opened) events) (attributes : Attributes)
    (hp : ∀ outer ∈ opened.head?, ContentModel.impliesEnd name outer = false)
    (hv : ContentModel.isVoid name = false) (hr : ContentModel.rawMode? name = none) :
    Finishes opened (.enter name attributes :: events) := by
  obtain ⟨children, rest, hc, ho, rfl⟩ := h
  exact ho.wholeElement attributes hp (fun hvoid => by simp [hv] at hvoid) (Or.inl hr) hc

/-- Elements are ended by the start of another. -/
theorem endImplied {name : String} (h : Finishes (Nesting.endImplied name opened).2 events) :
    Finishes opened (eventsOf (Nesting.endImplied name opened).1 ++ events) := by
  induction opened with
  | nil => exact h
  | cons innermost outer ih =>
    unfold Nesting.endImplied at h ⊢
    split
    · rename_i hi
      rw [if_pos hi] at h
      exact (ih h).leave innermost
    · rename_i hi
      rw [if_neg hi] at h
      exact h

/-- Elements are ended by an end tag. -/
theorem endTag {name : String} (h : Finishes (Nesting.endTag name opened).2 events) :
    Finishes opened (eventsOf (Nesting.endTag name opened).1 ++ events) := by
  unfold Nesting.endTag at h ⊢
  split
  · rename_i hm
    rw [if_pos hm] at h
    have hl := length_eq_of_mem hm
    have hd : opened.drop (opened.takeWhile (· != name)).length = opened.dropWhile (· != name) := by
      have ha : (opened.takeWhile (· != name) ++ opened.dropWhile (· != name)).drop
          (opened.takeWhile (· != name)).length = opened.dropWhile (· != name) := List.drop_left
      rwa [List.takeWhile_append_dropWhile] at ha
    rw [← hd, List.drop_drop] at h
    rw [eventsOf_replicate_leave]
    exact replicate_leave (by omega) h
  · rename_i hm
    rw [if_neg hm] at h
    exact h

end Finishes

/-- After the elements that a start tag ends, it ends the innermost open element no more. -/
theorem impliesEnd_head_endImplied (name : String) (opened : OpenElements) :
    ∀ innermost ∈ (endImplied name opened).2.head?,
      ContentModel.impliesEnd name innermost = false := by
  induction opened with
  | nil => simp [endImplied]
  | cons innermost outer ih =>
    unfold endImplied
    split
    · exact ih
    · rename_i hi
      simpa using hi

/-- What a piece reports comes before what finishes the elements that it leaves open. -/
theorem finishes_step {opened : OpenElements} {piece : Piece} (hp : piece.IsRegular)
    {events : List Event} (h : Finishes (step opened piece).2 events) :
    Finishes opened (eventsOf (step opened piece).1 ++ events) := by
  cases piece with
  | text content => exact h.text hp
  | ignored => exact h
  | brokenTag name => exact h
  | endTag name => exact Finishes.endTag h
  | startTag name tag =>
    have hi := impliesEnd_head_endImplied name opened
    simp only [step, startTag] at h ⊢
    cases hs : tag.selfClosing || ContentModel.isVoid name with
    | true =>
      rw [hs] at h
      have hw := Finishes.wholeElement h tag.attributes hi (fun _ => rfl) (Or.inr rfl) .nil
      simpa [Forest.walk] using hw.endImplied
    | false =>
      rw [hs] at h
      rw [Bool.or_eq_false_iff] at hs
      have hr : ContentModel.rawMode? name = none := hp.resolve_right (by simp [hs.1])
      have hw := Finishes.enter h tag.attributes hi hs.2 hr
      simpa using hw.endImplied
  | rawElement name attributes content =>
    have hi := impliesEnd_head_endImplied name opened
    have hv : ContentModel.isVoid name = false := ContentModel.isVoid_of_rawMode? hp
    simp only [step, rawElement] at h ⊢
    by_cases hc : content = ""
    · have hw := Finishes.wholeElement h attributes hi (fun _ => rfl) (Or.inr rfl) .nil
      simpa [hc, Forest.walk] using hw.endImplied
    · have hw := Finishes.wholeElement h attributes hi (fun hvoid => by simp [hv] at hvoid)
        (Or.inr rfl) (.text hc .nil)
      simpa [hc, Forest.walk] using hw.endImplied

/-- The end of the input finishes the open elements. -/
theorem finishes_endOfInput (opened : OpenElements) :
    Finishes opened (eventsOf (endOfInput opened)) := by
  induction opened with
  | nil => exact ⟨.nil, .nil, rfl⟩
  | cons name outer ih => exact ih.leave name

/-- What is reported of pieces and the end of the input finishes the open elements. -/
theorem finishes_report {pieces : List Piece} (h : ∀ piece ∈ pieces, piece.IsRegular)
    (opened : OpenElements) : Finishes opened (eventsOf (report opened pieces)) := by
  induction pieces generalizing opened with
  | nil => exact finishes_endOfInput opened
  | cons piece pieces ih =>
    rw [eventsOf_report_cons]
    exact finishes_step (h piece List.mem_cons_self)
      (ih (fun other hm => h other (List.mem_cons_of_mem piece hm)) _)

end Nesting

open Nesting

/-- What is read follows the content models, however broken the markup is. The events are those of
a walk through exactly one forest; in it no element stands directly inside one that its start ends,
void elements are empty, raw-text elements hold at most one text, and no text is empty. No element
is given two attributes of one name. -/
theorem events_follow_content_models (markup : String) :
    (∃ forest : Forest, (∀ other : Forest, other.walk = events markup ↔ other = forest) ∧
      forest.fitsInto none = true ∧ forest.hasBareRawText = true ∧
      forest.hasFilledTexts = true) ∧
      ∀ name attributes, Event.enter name attributes ∈ events markup →
        attributes.names.Nodup := by
  have hf : Finishes [] (eventsOf (report [] (Piece.scan markup.toList))) :=
    finishes_report (fun _ hm => Piece.isRegular_of_mem_scan hm) []
  rw [← events_eq_eventsOf_report] at hf
  obtain ⟨forest, hm, hw⟩ := hf
  refine ⟨⟨forest, fun other => ⟨fun h => ?_, fun h => h ▸ hw.symm⟩, hm.fits, hm.raw, hm.texts⟩,
    fun _ attributes _ => attributes.nodup⟩
  have he : other.walk ++ [] = forest.walk ++ [] := by rw [h, hw]
  exact (Forest.walk_append_inj (by simp) (by simp) he).1

end ViewCode.Markup
