import ViewCode.Proofs.Reading

/-!
# Delivery of events

What is reported of markup is one list that depends on the markup alone. A handler is given this
list in order, up to the first signal that it refuses, so that a sink can end the delivery but
cannot bend it: feeding it the markup is sending it the recorded events.
-/

namespace ViewCode.Markup

/-- The event of a signal, if it is not a notice. -/
def Signal.event? : Signal → Option Event
  | .event e => some e
  | .notice _ => none

namespace Nesting

/-- The events among the signals, in order. -/
def eventsOf (signals : List Signal) : List Event :=
  signals.filterMap Signal.event?

@[simp] theorem eventsOf_nil : eventsOf [] = [] := rfl

@[simp] theorem eventsOf_event (e : Event) (signals : List Signal) :
    eventsOf (.event e :: signals) = e :: eventsOf signals := rfl

@[simp] theorem eventsOf_notice (n : Notice) (signals : List Signal) :
    eventsOf (.notice n :: signals) = eventsOf signals := rfl

@[simp] theorem eventsOf_append (left right : List Signal) :
    eventsOf (left ++ right) = eventsOf left ++ eventsOf right :=
  List.filterMap_append

theorem eventsOf_replicate_leave (count : Nat) :
    eventsOf (List.replicate count (.event .leave)) = List.replicate count Event.leave := by
  simp [eventsOf, List.filterMap_replicate, Signal.event?]

/-- The events of a piece come before those of the pieces after it. -/
theorem eventsOf_report_cons (opened : OpenElements) (piece : Piece) (pieces : List Piece) :
    eventsOf (report opened (piece :: pieces)) =
      eventsOf (step opened piece).1 ++ eventsOf (report (step opened piece).2 pieces) :=
  eventsOf_append _ _

variable {ε σ : Type}

/-- A handler that drops notices is a sink that is sent the events. -/
theorem forM_handler (sink : Sink ε σ) (signals : List Signal) :
    signals.forM sink.handler = sink.sendAll (eventsOf signals) := by
  induction signals with
  | nil => rfl
  | cons signal signals ih =>
    cases signal with
    | event e => exact congrArg (fun rest => sink e >>= fun _ => rest) ih
    | notice n => exact ih

end Nesting

namespace Sink

variable {ε σ : Type}

theorem sendAll_nil (sink : Sink ε σ) (state : σ) : sink.sendAll [] state = .ok () state := rfl

/-- One event is sent before the others. -/
theorem sendAll_cons (sink : Sink ε σ) (e : Event) (rest : List Event) :
    sink.sendAll (e :: rest) = (do sink e; sink.sendAll rest) := rfl

/-- After an event that the sink takes, the others are sent to the state it reaches. -/
theorem sendAll_cons_of_ok {sink : Sink ε σ} {e : Event} {state next : σ}
    (h : sink e state = .ok () next) (rest : List Event) :
    sink.sendAll (e :: rest) state = sink.sendAll rest next := by
  rw [sendAll_cons]
  simp only [bind, EStateM.bind, h]

/-- A sink that takes all events takes the first and then the others. -/
theorem sendAll_cons_eq_ok {sink : Sink ε σ} {e : Event} {rest : List Event} {state after : σ}
    (h : sink.sendAll (e :: rest) state = .ok () after) :
    ∃ next, sink e state = .ok () next ∧ sink.sendAll rest next = .ok () after := by
  rw [sendAll_cons] at h
  simp only [bind, EStateM.bind] at h
  cases hs : sink e state with
  | ok _ next =>
    rw [hs] at h
    exact ⟨next, rfl, h⟩
  | error refusal next =>
    rw [hs] at h
    simp at h

/-- After events that the sink takes, others are sent to the state it reaches. -/
theorem sendAll_append_of_ok {sink : Sink ε σ} {first : List Event} {state next : σ}
    (h : sink.sendAll first state = .ok () next) (second : List Event) :
    sink.sendAll (first ++ second) state = sink.sendAll second next := by
  have ha : sink.sendAll (first ++ second) = (do sink.sendAll first; sink.sendAll second) :=
    List.forM_append
  rw [ha]
  simp only [bind, EStateM.bind, h]

/-- The sink that keeps every event refuses none. -/
theorem sendAll_keepAll (events : List Event) (kept : Array Event) :
    (keepAll : Sink ε (Array Event)).sendAll events kept = .ok () (kept ++ events.toArray) := by
  induction events generalizing kept with
  | nil => simp [sendAll, pure, EStateM.pure]
  | cons e rest ih =>
    have hs : (keepAll : Sink ε (Array Event)).sendAll (e :: rest) kept =
        (keepAll : Sink ε (Array Event)).sendAll rest (kept.push e) := rfl
    rw [hs, ih]
    simp

/-- A sink with room for all the events keeps them, each at one call. -/
theorem sendAll_keepFirst_of_le {limit : Nat} {events : List Event} {seen : Limited}
    (h : seen.kept.size + events.length ≤ limit) :
    (keepFirst limit).sendAll events seen =
      .ok () ⟨seen.kept ++ events.toArray, seen.calls + events.length⟩ := by
  induction events generalizing seen with
  | nil => simp [sendAll, pure, EStateM.pure]
  | cons e rest ih =>
    rw [List.length_cons] at h
    have hroom : seen.kept.size < limit := by omega
    have hs : keepFirst limit e seen = .ok () ⟨seen.kept.push e, seen.calls + 1⟩ :=
      if_pos hroom
    have hrest : (seen.kept.push e).size + rest.length ≤ limit := by
      rw [Array.size_push]
      omega
    rw [sendAll_cons_of_ok hs, ih hrest]
    simp only [List.length_cons, EStateM.Result.ok.injEq, Limited.mk.injEq, true_and]
    exact ⟨by simp, by omega⟩

/-- A sink that runs full keeps what it has room for and refuses at the next call. -/
theorem sendAll_keepFirst_of_lt {limit : Nat} {events : List Event} {seen : Limited}
    (hk : seen.kept.size ≤ limit) (h : limit < seen.kept.size + events.length) :
    (keepFirst limit).sendAll events seen =
      .error .full ⟨seen.kept ++ (events.take (limit - seen.kept.size)).toArray,
        seen.calls + (limit - seen.kept.size) + 1⟩ := by
  induction events generalizing seen with
  | nil =>
    rw [List.length_nil] at h
    omega
  | cons e rest ih =>
    rw [List.length_cons] at h
    by_cases hroom : seen.kept.size < limit
    · have hs : keepFirst limit e seen = .ok () ⟨seen.kept.push e, seen.calls + 1⟩ :=
        if_pos hroom
      have hl : limit - seen.kept.size = (limit - (seen.kept.push e).size) + 1 := by
        rw [Array.size_push]
        omega
      rw [sendAll_cons_of_ok hs,
        ih (by simp only [Array.size_push]; omega) (by simp only [Array.size_push]; omega), hl]
      simp only [List.take_succ_cons, EStateM.Result.error.injEq, Limited.mk.injEq, true_and]
      exact ⟨by simp, by omega⟩
    · have hs : keepFirst limit e seen = .error .full ⟨seen.kept, seen.calls + 1⟩ :=
        if_neg hroom
      have hl : limit - seen.kept.size = 0 := by omega
      rw [sendAll_cons, hl]
      simp [bind, EStateM.bind, hs]

/-- What a fresh sink of limited room has seen of the events, and whether it ran full. -/
theorem sendAll_keepFirst (limit : Nat) (events : List Event) :
    (keepFirst limit).sendAll events {} =
      let seen : Limited := ⟨(events.take limit).toArray, min (limit + 1) events.length⟩
      if limit < events.length then .error .full seen else .ok () seen := by
  dsimp only
  by_cases h : limit < events.length
  · have hm : min (limit + 1) events.length = limit + 1 := by omega
    rw [if_pos h, sendAll_keepFirst_of_lt (Nat.zero_le limit) (by simpa using h), hm]
    simp
  · have ht : events.take limit = events := List.take_of_length_le (by omega)
    have hm : min (limit + 1) events.length = events.length := by omega
    rw [if_neg h, sendAll_keepFirst_of_le (by simpa using h), ht, hm]
    simp

end Sink

open Nesting

/-- The recorded events are the events of the report. -/
theorem events_eq_eventsOf_report (markup : String) :
    events markup = eventsOf (report [] (Piece.scan markup.toList)) := by
  unfold events feed
  rw [observe_eq_forM, forM_handler, Sink.sendAll_keepAll]
  simp

/-- A sink that is fed the markup is sent the recorded events. -/
theorem feed_eq_sendAll {ε σ : Type} (markup : String) (sink : Sink ε σ) :
    feed markup sink = sink.sendAll (events markup) := by
  rw [events_eq_eventsOf_report, ← forM_handler, ← observe_eq_forM]
  rfl

/-- The sink never influences what is read. Feeding the markup to a sink has the result and the
final state of sending it the recorded events, whatever it refuses and when. So a sink with room
for a limited number of events keeps the first of them, is called once for each and once more if
there is an event too many, and just then ends the delivery. -/
theorem feed_independent_of_sink (markup : String) :
    (∀ (ε σ : Type) (sink : Sink ε σ) (state : σ),
      feed markup sink state = sink.sendAll (events markup) state) ∧
    ∀ limit : Nat,
      let seen : Sink.Limited :=
        ⟨((events markup).take limit).toArray, min (limit + 1) (events markup).length⟩
      feed markup (Sink.keepFirst limit) {} =
        if limit < (events markup).length then .error .full seen else .ok () seen := by
  constructor
  · intro ε σ sink state
    rw [feed_eq_sendAll]
  · intro limit
    rw [feed_eq_sendAll]
    exact Sink.sendAll_keepFirst limit (events markup)

end ViewCode.Markup
