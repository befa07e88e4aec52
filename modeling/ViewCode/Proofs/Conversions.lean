import ViewCode.Conversion
import ViewCode.Proofs.LayoutAgreement
import ViewCode.Proofs.Limits
import ViewCode.Proofs.Streams

/-!
# Conversions

A conversion sends the events of the markup to a draft that is started afresh and finishes it, and
what it notices on the way has no part in this. The events are those of a walk through a forest. So
a conversion never fails on account of nesting: it gives the layout of the forest, unless that is
too long for a text.
-/

namespace ViewCode

open ViewCode.Code ViewCode.Markup ViewCode.Markup.Nesting

/-- Noticing roots leaves the draft as it is. -/
theorem Observed.exists_noteRoots_eq (hadSeveral : Bool) (draft : Draft) (notices : Array Notice) :
    ∃ noted, noteRoots hadSeveral ⟨draft, notices⟩ = ⟨draft, noted⟩ := by
  unfold noteRoots
  split
  · exact ⟨_, rfl⟩
  · exact ⟨_, rfl⟩

/-- Collecting notices does not disturb the draft, which is sent the events of the signals. -/
theorem Observed.forM_handle (signals : List Signal) (draft : Draft) (notices : Array Notice) :
    ∃ noted, signals.forM Observed.handle ⟨draft, notices⟩ =
      match Sink.sendAll Draft.limitedSink (eventsOf signals) draft with
      | .ok _ after => .ok () ⟨after, noted⟩
      | .error cause after => .error cause ⟨after, noted⟩ := by
  induction signals generalizing draft notices with
  | nil => exact ⟨notices, rfl⟩
  | cons signal signals ih =>
    cases signal with
    | notice n => exact ih draft (notices.push n)
    | event e =>
      rw [eventsOf_event, Sink.sendAll_cons]
      cases he : Draft.limitedSink e draft with
      | ok _ next =>
        obtain ⟨noted, hn⟩ := exists_noteRoots_eq draft.multiRoot next notices
        have hh : Observed.handle (.event e) ⟨draft, notices⟩ = .ok () ⟨next, noted⟩ := by
          simp only [Observed.handle, he, hn]
        obtain ⟨all, ha⟩ := ih next noted
        refine ⟨all, ?_⟩
        rw [List.forM_eq_forM] at ha ⊢
        simp only [List.forM_cons, bind, EStateM.bind, hh, he, ha]
      | error cause next =>
        obtain ⟨noted, hn⟩ := exists_noteRoots_eq draft.multiRoot next notices
        have hh : Observed.handle (.event e) ⟨draft, notices⟩ = .error cause ⟨next, noted⟩ := by
          simp only [Observed.handle, he, hn]
        refine ⟨noted, ?_⟩
        rw [List.forM_eq_forM]
        simp only [List.forM_cons, bind, EStateM.bind, hh, he]

/-- A conversion has the result of sending the events of the markup to a limited draft that is
started afresh, and finishing it. -/
theorem Session.exists_convert_eq (markup : String) (session : Session) :
    ∃ notices, Session.convert markup session =
      match (do Sink.sendAll Draft.limitedSink (events markup); Draft.limitedFinish)
          (session.draft.restart session.settings) with
      | .ok code draft => .ok ⟨code, notices⟩ { session with draft := draft }
      | .error cause draft => .error ⟨cause, notices⟩ { session with draft := draft } := by
  obtain ⟨noted, hn⟩ := Observed.forM_handle (report [] (Piece.scan markup.toList))
    (session.draft.restart session.settings) #[]
  rw [← events_eq_eventsOf_report] at hn
  unfold Session.convert
  rw [observe_eq_forM, hn]
  simp only [bind, EStateM.bind]
  cases Sink.sendAll Draft.limitedSink (events markup)
      (session.draft.restart session.settings) with
  | error cause draft => exact ⟨_, rfl⟩
  | ok _ draft =>
    dsimp only
    cases Draft.limitedFinish draft with
    | error cause last => exact ⟨_, rfl⟩
    | ok code last => exact ⟨_, rfl⟩

/-- A conversion gives the layout of the forest whose walk the events are, unless that is too
long. -/
theorem Session.convert_of_walk {markup : String} {forest : Forest}
    (h : events markup = forest.walk) (session : Session) :
    ∃ notices after, Session.convert markup session =
      if (Layout.document session.settings forest).utf8ByteSize ≤ maxTextSize then
        .ok ⟨Layout.document session.settings forest, notices⟩ after
      else .error ⟨.tooLong, notices⟩ after := by
  obtain ⟨notices, hc⟩ := Session.exists_convert_eq markup session
  obtain ⟨last, hl⟩ := Draft.limited_eq
    (Draft.sendAll_walk_restart session.settings forest session.draft)
    (Draft.finish_rooted session.settings forest) rfl
  refine ⟨notices, { session with draft := last }, ?_⟩
  rw [hc, h, hl]
  by_cases hs : (Layout.document session.settings forest).utf8ByteSize ≤ maxTextSize
  · rw [if_pos hs, if_pos hs]
  · rw [if_neg hs, if_neg hs]

/-- A conversion succeeds, or breaks off because the code is too long. -/
theorem Session.convert_cases (markup : String) (session : Session) :
    (∃ conversion after, Session.convert markup session = .ok conversion after) ∨
      ∃ notices after, Session.convert markup session = .error ⟨.tooLong, notices⟩ after := by
  obtain ⟨forest, hw⟩ := exists_walk_of_heightAfter? (heightAfter?_events markup)
  obtain ⟨notices, after, hc⟩ := Session.convert_of_walk hw session
  split at hc
  · exact .inl ⟨_, after, hc⟩
  · exact .inr ⟨notices, after, hc⟩

/-- The code of markup is the layout of the forest whose walk its events are, unless that is too
long. -/
theorem convert_of_walk {markup : String} {forest : Forest} (h : events markup = forest.walk)
    (settings : Settings) :
    convert settings markup =
      if (Layout.document settings forest).utf8ByteSize ≤ maxTextSize then
        .ok (Layout.document settings forest)
      else .error .tooLong := by
  obtain ⟨notices, after, hc⟩ := Session.convert_of_walk h (Session.start settings)
  have hg : (Session.start settings).settings = settings := rfl
  rw [hg] at hc
  unfold convert
  rw [hc]
  by_cases hs : (Layout.document settings forest).utf8ByteSize ≤ maxTextSize
  · rw [if_pos hs, if_pos hs]
  · rw [if_neg hs, if_neg hs]

/-- The code depends on what the events do to a draft. -/
theorem convert_congr {markup other : String}
    (h : Sink.sendAll Draft.sink (events markup) = Sink.sendAll Draft.sink (events other))
    (settings : Settings) : convert settings markup = convert settings other := by
  obtain ⟨forest, hf⟩ := exists_walk_of_heightAfter? (heightAfter?_events markup)
  obtain ⟨second, hs⟩ := exists_walk_of_heightAfter? (heightAfter?_events other)
  have hr := Draft.sendAll_walk_restart settings forest { settings := settings }
  rw [← hf, h, hs, Draft.sendAll_walk_restart] at hr
  have hd := Draft.finish_rooted settings second
  rw [(EStateM.Result.ok.inj hr).2, Draft.finish_rooted] at hd
  rw [convert_of_walk hf, convert_of_walk hs, (EStateM.Result.ok.inj hd).1]

/-- The widest indentation by spaces. -/
def widestIndent : Indent :=
  ⟨.space, 18446744073709551615, by decide⟩

end ViewCode
