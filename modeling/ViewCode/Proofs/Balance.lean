import ViewCode.Proofs.Delivery
import ViewCode.Proofs.DraftSteps

/-!
# Balance of events

Along a stream of events the number of open elements rises and falls. The events of markup are
well bracketed, however broken the markup is: the height of the stream is at every piece the number
of names that the reader keeps open, and the end of the input closes what is left. A draft refuses
a well bracketed stream nowhere and can be finished after it.
-/

namespace ViewCode.Markup

/-- Whether the event enters an element. -/
def Event.isEnter : Event → Bool
  | .enter _ _ => true
  | .text _ | .leave => false

/-- Whether the event leaves an element. -/
def Event.isLeave : Event → Bool
  | .leave => true
  | .enter _ _ | .text _ => false

/-- How often the events enter an element. -/
def entered (events : List Event) : Nat :=
  events.countP Event.isEnter

/-- How often the events leave an element. -/
def left (events : List Event) : Nat :=
  events.countP Event.isLeave

theorem entered_cons (e : Event) (rest : List Event) :
    entered (e :: rest) = entered rest + if e.isEnter then 1 else 0 :=
  List.countP_cons

theorem left_cons (e : Event) (rest : List Event) :
    left (e :: rest) = left rest + if e.isLeave then 1 else 0 :=
  List.countP_cons

/-- Events that can be those of a whole document. -/
structure WellBracketed (events : List Event) : Prop where
  /-- At no point have more elements been left than entered. -/
  left_le : ∀ before, before <+: events → left before ≤ entered before
  /-- In the end, as many elements have been left as entered. -/
  left_eq : left events = entered events

/-- The number of open elements after the events, given the number before them, unless an element
is left where none is open. -/
def heightAfter? : Nat → List Event → Option Nat
  | height, [] => some height
  | height, .enter _ _ :: rest => heightAfter? (height + 1) rest
  | height, .text _ :: rest => heightAfter? height rest
  | 0, .leave :: _ => none
  | height + 1, .leave :: rest => heightAfter? height rest

/-- Heights are followed through one stream after another. -/
theorem heightAfter?_append (height : Nat) (first second : List Event) :
    heightAfter? height (first ++ second) =
      (heightAfter? height first).bind (heightAfter? · second) := by
  fun_induction heightAfter? height first with
  | case1 => rfl
  | case2 height name attributes rest ih => exact ih
  | case3 height content rest ih => exact ih
  | case4 => rfl
  | case5 height rest ih => exact ih

/-- A stream has a height exactly if at no point more elements have been left than were open or
entered, and the height is the number of those that are not left. -/
theorem heightAfter?_eq_some_iff {start finish : Nat} {events : List Event} :
    heightAfter? start events = some finish ↔
      (∀ before, before <+: events → left before ≤ start + entered before) ∧
        finish + left events = start + entered events := by
  induction events generalizing start with
  | nil => simp [heightAfter?, left, entered, eq_comm]
  | cons e rest ih =>
    -- The empty prefix asks for nothing, and every other one begins with the event.
    have hp : (∀ before, before <+: e :: rest → left before ≤ start + entered before) ↔
        ∀ before, before <+: rest → left (e :: before) ≤ start + entered (e :: before) := by
      constructor
      · intro h before hb
        exact h _ (List.cons_prefix_cons.2 ⟨rfl, hb⟩)
      · intro h before hb
        rcases List.prefix_cons_iff.1 hb with rfl | ⟨after, rfl, ha⟩
        · exact Nat.zero_le _
        · exact h after ha
    rw [hp]
    cases e with
    | enter name attributes =>
      rw [heightAfter?, ih]
      simp only [left_cons, entered_cons, Event.isLeave, Event.isEnter]
      grind
    | text content =>
      rw [heightAfter?, ih]
      simp only [left_cons, entered_cons, Event.isLeave, Event.isEnter]
      grind
    | leave =>
      simp only [left_cons, entered_cons, Event.isLeave, Event.isEnter]
      cases start with
      | zero =>
        constructor
        · intro h
          simp [heightAfter?] at h
        · rintro ⟨h, -⟩
          -- The event alone is a prefix that leaves too much.
          have hl := h [] List.nil_prefix
          simp [entered] at hl
      | succ height =>
        rw [heightAfter?, ih]
        grind

/-- A stream that goes from no open element to none is well bracketed. -/
theorem wellBracketed_of_heightAfter? {events : List Event}
    (h : heightAfter? 0 events = some 0) : WellBracketed events := by
  obtain ⟨hp, he⟩ := heightAfter?_eq_some_iff.1 h
  simp only [Nat.zero_add] at hp he
  exact ⟨hp, he⟩

namespace Nesting

/-- Leaving elements lowers the height by as many. -/
theorem heightAfter?_replicate_leave (count height : Nat) :
    heightAfter? (height + count) (List.replicate count .leave) = some height := by
  induction count with
  | zero => rfl
  | succ count ih => exact ih

/-- Ending elements by the start of another lowers the height to what stays open. -/
theorem heightAfter?_endImplied (name : String) (opened : OpenElements) :
    heightAfter? opened.length (eventsOf (endImplied name opened).1) =
      some (endImplied name opened).2.length := by
  induction opened with
  | nil => rfl
  | cons innermost outer ih =>
    unfold endImplied
    split
    · exact ih
    · rfl

/-- An end tag lowers the height to what stays open. -/
theorem heightAfter?_endTag (name : String) (opened : OpenElements) :
    heightAfter? opened.length (eventsOf (endTag name opened).1) =
      some (endTag name opened).2.length := by
  unfold endTag
  split
  · rename_i h
    have hl := heightAfter?_replicate_leave ((opened.takeWhile (· != name)).length + 1)
      ((opened.dropWhile (· != name)).drop 1).length
    rw [← length_eq_of_mem h] at hl
    rw [eventsOf_replicate_leave, hl]
  · rfl

/-- Along the events of a piece, the height of the stream is the number of open elements. -/
theorem heightAfter?_step (opened : OpenElements) (piece : Piece) :
    heightAfter? opened.length (eventsOf (step opened piece).1) =
      some (step opened piece).2.length := by
  cases piece with
  | text content => rfl
  | ignored => rfl
  | brokenTag name => rfl
  | endTag name => exact heightAfter?_endTag name opened
  | startTag name tag =>
    have hi := heightAfter?_endImplied name opened
    simp only [step, startTag]
    split <;> simp [heightAfter?_append, hi, heightAfter?]
  | rawElement name attributes content =>
    have hi := heightAfter?_endImplied name opened
    simp only [step, rawElement]
    split <;> simp [heightAfter?_append, hi, heightAfter?]

/-- The end of the input closes all that is open. -/
theorem heightAfter?_endOfInput (opened : OpenElements) :
    heightAfter? opened.length (eventsOf (endOfInput opened)) = some 0 := by
  induction opened with
  | nil => rfl
  | cons innermost outer ih => exact ih

/-- From any open elements, what is reported of pieces and the end of the input leaves none open. -/
theorem heightAfter?_report (opened : OpenElements) (pieces : List Piece) :
    heightAfter? opened.length (eventsOf (report opened pieces)) = some 0 := by
  induction pieces generalizing opened with
  | nil => exact heightAfter?_endOfInput opened
  | cons piece pieces ih =>
    rw [eventsOf_report_cons, heightAfter?_append, heightAfter?_step, Option.bind_some, ih]

end Nesting

/-- The events of markup return to the height from which they start. -/
theorem heightAfter?_events (markup : String) : heightAfter? 0 (events markup) = some 0 := by
  rw [events_eq_eventsOf_report]
  exact Nesting.heightAfter?_report [] _

end ViewCode.Markup

namespace ViewCode.Code.Draft

open ViewCode.Markup

/-- A draft takes every event of a stream that leaves no more elements than are open, and then has
as many open calls as the stream has open elements. -/
theorem sendAll_sink_of_heightAfter? {events : List Event} {draft : Draft} {height : Nat}
    (h : heightAfter? draft.calls.length events = some height) :
    ∃ after, Sink.sendAll sink events draft = .ok () after ∧ after.calls.length = height := by
  induction events generalizing draft with
  | nil => exact ⟨draft, rfl, Option.some.inj h⟩
  | cons e rest ih =>
    cases e with
    | enter name attributes =>
      rw [heightAfter?, ← length_calls_enter draft name attributes] at h
      exact ih h
    | text content =>
      rw [heightAfter?, ← length_calls_text draft content] at h
      exact ih h
    | leave =>
      cases hc : draft.calls with
      | nil =>
        rw [hc] at h
        simp [heightAfter?] at h
      | cons call outer =>
        have hl : sink .leave draft = _ := leave_of_calls hc
        rw [hc, List.length_cons, heightAfter?] at h
        rw [Sink.sendAll_cons_of_ok hl]
        exact ih h

/-- A draft without open calls can be finished. -/
theorem finish_of_no_calls {draft : Draft} (h : draft.calls.length = 0) :
    ∃ code, finish draft = .ok code { draft with code := "" } := by
  unfold finish
  rw [List.length_eq_zero_iff.1 h]
  exact ⟨_, rfl⟩

end ViewCode.Code.Draft
