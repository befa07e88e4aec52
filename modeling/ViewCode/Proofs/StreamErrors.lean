import ViewCode.Proofs.SubDocuments

/-!
# Streams that are not nested

A draft may be sent any events, nested or not. It refuses the first event that leaves an element
where none is open, and then stands as if the stream had ended there. A stream that it takes whole
may end inside elements; then it cannot be finished, and the label of the innermost one says where.
-/

namespace ViewCode.Code.Draft

open ViewCode.Markup

/-- Finishing takes the code out of the draft and changes nothing else, whether or not the code is
handed out. -/
theorem finish_empties (draft : Draft) :
    (∃ code, finish draft = .ok code { draft with code := "" }) ∨
      ∃ cause, finish draft = .error cause { draft with code := "" } := by
  unfold finish
  cases draft.calls with
  | nil => exact .inl ⟨_, rfl⟩
  | cons call outer => exact .inr ⟨_, rfl⟩

/-- A draft with an open call is not finished, and the label of the innermost one is named. -/
theorem finish_of_calls {draft : Draft} {call : OpenCall} {outer : List OpenCall}
    (h : draft.calls = call :: outer) :
    finish draft = .error (.stillOpen call.label) { draft with code := "" } := by
  unfold finish
  rw [h]

/-- Where no call is open, an event that leaves an element is refused and the draft stays. -/
theorem sendAll_append_leave {before : List Event} {draft written : Draft}
    (h : Sink.sendAll sink before draft = .ok () written) (hc : written.calls = [])
    (after : List Event) :
    Sink.sendAll sink (before ++ .leave :: after) draft = .error .nothingOpen written := by
  have hl : sink .leave written = .error .nothingOpen written := by
    simp [sink, leave, hc]
  rw [Sink.sendAll_append_of_ok h, Sink.sendAll_cons]
  simp only [bind, EStateM.bind, hl]

/-- A stream that returns to its start is the walk through a forest, and gives its code. -/
theorem exists_document {events : List Event} (h : heightAfter? 0 events = some 0)
    (settings : Settings) (draft : Draft) :
    ∃ forest : Forest, events = forest.walk ∧
      ∃ written, Sink.sendAll sink events (draft.restart settings) = .ok () written ∧
        written.calls = [] ∧
        finish written = .ok (Layout.document settings forest) { written with code := "" } := by
  obtain ⟨forest, rfl⟩ := exists_walk_of_heightAfter? h
  exact ⟨forest, rfl, _, sendAll_walk_restart settings forest draft, rfl,
    finish_rooted settings forest⟩

/-- A stream that falls below its start is refused at the event where it first does. -/
theorem sendAll_of_fallsBelow {events : List Event} (h : FallsBelow events) (settings : Settings)
    (draft : Draft) :
    ∃ written, Sink.sendAll sink events (draft.restart settings) = .error .nothingOpen written ∧
      ∃ before after, ∃ forest : Forest, events = before ++ .leave :: after ∧
        WellBracketed before ∧ before = forest.walk ∧
        Sink.sendAll sink before (draft.restart settings) = .ok () written ∧
        finish written = .ok (Layout.document settings forest) { written with code := "" } := by
  obtain ⟨before, after, rfl, hb⟩ := exists_surplus_leave (heightAfter?_zero_eq_none_iff.2 h)
  obtain ⟨forest, hw, written, hs, hc, hf⟩ := exists_document hb settings draft
  exact ⟨written, sendAll_append_leave hs hc after, before, after, forest, rfl,
    wellBracketed_of_heightAfter? hb, hw, hs, hf⟩

/-- Only a stream that falls below its start is refused. -/
theorem fallsBelow_of_error {events : List Event} {settings : Settings} {draft written : Draft}
    {cause : NestingError}
    (h : Sink.sendAll sink events (draft.restart settings) = .error cause written) :
    FallsBelow events := by
  rw [← heightAfter?_zero_eq_none_iff]
  cases hh : heightAfter? 0 events with
  | none => rfl
  | some height =>
    have hr : heightAfter? (draft.restart settings).calls.length events = some height := hh
    obtain ⟨taken, hs, -⟩ := sendAll_sink_of_heightAfter? hr
    rw [hs] at h
    cases h

/-- A stream that ends with elements open is taken but gives no code. The error names the innermost
of them, with the number of those around it. -/
theorem finish_of_elements_open {events : List Event} {height : Nat}
    (h : heightAfter? 0 events = some (height + 1)) (settings : Settings) (draft : Draft) :
    ∃ written, Sink.sendAll sink events (draft.restart settings) = .ok () written ∧
      ∃ outer name, stillOpen events = outer ++ [name] ∧
        finish written = .error (.stillOpen (name ++ toString outer.length))
          { written with code := "" } := by
  obtain ⟨before, name, attributes, forest, rfl, hb⟩ := exists_last_enter h
  have hr : heightAfter? (draft.restart settings).calls.length before = some height := hb
  obtain ⟨outside, hs, hl⟩ := sendAll_sink_of_heightAfter? hr
  have he : sink (.enter name attributes) outside = .ok () (outside.enter name attributes) := rfl
  -- The walk after the start of the element changes no label, so the one it was given is on top.
  obtain ⟨added, written, hw, hx, -⟩ :=
    exists_extends_of_walk forest (outside.enter name attributes)
  have hc : ∃ empty calls, written.calls = ⟨name ++ toString height, empty⟩ :: calls := by
    rw [hx.calls, ← hl]
    exact ⟨_, _, rfl⟩
  obtain ⟨empty, calls, hc⟩ := hc
  refine ⟨written, ?_, stillOpen before, name, stillOpen_append_enter_walk _ _ _ _, ?_⟩
  · rw [Sink.sendAll_append_of_ok hs, Sink.sendAll_cons_of_ok he, hw]
  · rw [finish_of_calls hc, length_stillOpen hb]

/-- A stream that is taken whole opens as many calls as it enters elements and closes as many as it
leaves. -/
theorem length_calls_of_sendAll {events : List Event} {draft written : Draft}
    (h : Sink.sendAll sink events draft = .ok () written) :
    written.calls.length + left events = draft.calls.length + entered events := by
  induction events generalizing draft with
  | nil =>
    rw [Sink.sendAll_nil] at h
    cases h
    rfl
  | cons e rest ih =>
    obtain ⟨next, he, hr⟩ := Sink.sendAll_cons_eq_ok h
    have hi := ih hr
    rw [left_cons, entered_cons]
    cases e with
    | enter name attributes =>
      rw [eq_enter_of_sink he, length_calls_enter] at hi
      simp only [Event.isLeave, Event.isEnter, Bool.false_eq_true, if_true, if_false]
      omega
    | text content =>
      rw [eq_text_of_sink he, length_calls_text] at hi
      simp only [Event.isLeave, Event.isEnter, Bool.false_eq_true, if_false]
      omega
    | leave =>
      cases hc : draft.calls with
      | nil => simp [sink, leave, hc] at he
      | cons call outer =>
        have hn := (settings_and_calls_of_leave he).2
        rw [hc] at hn
        simp only [Event.isLeave, Event.isEnter, Bool.false_eq_true, if_true, if_false,
          List.length_cons] at hn ⊢
        omega

/-- A stream that is taken whole can be finished exactly if it leaves as many elements as it enters,
and otherwise the error tells of the elements that are still open. -/
theorem finish_of_sendAll {events : List Event} {settings : Settings} {draft written : Draft}
    (h : Sink.sendAll sink events (draft.restart settings) = .ok () written) :
    ((∃ code emptied, finish written = .ok code emptied) ↔ entered events = left events) ∧
      (entered events ≠ left events → ∃ outer name, stillOpen events = outer ++ [name] ∧
        finish written = .error (.stillOpen (name ++ toString outer.length))
          { written with code := "" }) := by
  have hl : written.calls.length + left events = 0 + entered events := length_calls_of_sendAll h
  cases hh : heightAfter? 0 events with
  | none =>
    obtain ⟨refused, hs, -⟩ :=
      sendAll_of_fallsBelow (heightAfter?_zero_eq_none_iff.1 hh) settings draft
    rw [hs] at h
    cases h
  | some height =>
    have hn : height + left events = 0 + entered events := (heightAfter?_eq_some_iff.1 hh).2
    cases height with
    | zero =>
      obtain ⟨code, hf⟩ := finish_of_no_calls (by omega : written.calls.length = 0)
      exact ⟨⟨fun _ => by omega, fun _ => ⟨code, _, hf⟩⟩, fun hne => absurd (by omega) hne⟩
    | succ height =>
      obtain ⟨taken, hs, hf⟩ := finish_of_elements_open hh settings draft
      obtain rfl : taken = written := by
        rw [hs] at h
        exact (EStateM.Result.ok.inj h).2
      refine ⟨⟨?_, fun he => absurd he (by omega)⟩, fun _ => hf⟩
      rintro ⟨code, emptied, hc⟩
      obtain ⟨outer, name, -, he⟩ := hf
      rw [he] at hc
      cases hc

end ViewCode.Code.Draft
