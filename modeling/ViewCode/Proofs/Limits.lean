import ViewCode.Proofs.Delivery
import ViewCode.Proofs.DraftSteps

/-!
# Limits on code

A draft breaks off where its code would get too long for a text, and does not even make an
indentation that would. Its code only grows, and all the indentation that is made becomes part of
it. So whether a limited draft breaks off on the way can be told from the end: it does so exactly if
the code is too long that a draft without limits hands out.
-/

namespace ViewCode

/-- A text that has all the characters of another in order is not smaller. -/
theorem Text.size_le_of_sublist {part whole : String} (h : part.toList.Sublist whole.toList) :
    part.utf8ByteSize ≤ whole.utf8ByteSize := by
  have hl := String.utf8Len_le_of_sublist h
  rwa [← String.utf8ByteSize_ofList, ← String.utf8ByteSize_ofList, String.ofList_toList,
    String.ofList_toList] at hl

/-- A joined text is not smaller than one of its parts. -/
theorem Text.size_le_intercalate {part : String} {parts : List String} (separator : String)
    (h : part ∈ parts) :
    part.utf8ByteSize ≤ (String.intercalate separator parts).utf8ByteSize := by
  induction parts with
  | nil => simp at h
  | cons first rest ih =>
    cases rest with
    | nil =>
      obtain rfl := List.mem_singleton.1 h
      rw [String.intercalate_singleton]
    | cons second rest =>
      rw [String.intercalate_cons_cons, String.utf8ByteSize_append, String.utf8ByteSize_append]
      rcases List.mem_cons.1 h with rfl | hr
      · omega
      · have hs := ih hr
        omega

/-- An indentation has one byte for each of its characters. -/
theorem Indent.size_atLevel (indent : Indent) (level : Nat) :
    (indent.atLevel level).utf8ByteSize = indent.width level := by
  have hc : indent.char.toChar.utf8Size = 1 := by
    cases indent.char <;> rfl
  unfold atLevel
  induction indent.width level with
  | zero => rfl
  | succ count ih =>
    rw [List.replicate_succ, String.ofList_cons, String.utf8ByteSize_append, ih,
      String.utf8ByteSize_singleton, hc, Nat.add_comm]

theorem Indent.fits_iff {indent : Indent} {level : Nat} :
    indent.fits level = true ↔ (indent.atLevel level).utf8ByteSize ≤ maxTextSize := by
  rw [size_atLevel, fits, decide_eq_true_eq]

namespace Code.Draft

open ViewCode.Markup ViewCode.Text

/-- Dividing an item from what stands before it takes no code away. -/
theorem size_le_beginItem (draft : Draft) :
    draft.code.utf8ByteSize ≤ draft.beginItem.code.utf8ByteSize := by
  unfold beginItem
  split
  · unfold beginRoot
    split
    · rw [String.utf8ByteSize_append]
      omega
    · exact Nat.le_refl _
  · simp only [push, String.utf8ByteSize_append]
    omega

/-- An item that is begun comes after all the code. -/
theorem size_add_le_beginItem_push (draft : Draft) (code : String) :
    draft.code.utf8ByteSize + code.utf8ByteSize ≤
      (draft.beginItem.push code).code.utf8ByteSize := by
  have hb := size_le_beginItem draft
  simp only [push, String.utf8ByteSize_append]
  omega

/-- Arguments on lines of their own are not smaller than the indentation of a line. -/
theorem size_le_argumentLines {argument : String} {arguments : List String} (indent : Indent)
    (level : Nat) (h : argument ∈ arguments) :
    (indent.atLevel level).utf8ByteSize ≤ (argumentLines indent level arguments).utf8ByteSize := by
  have hl := Text.size_le_intercalate "," (List.mem_map_of_mem
    (f := fun argument => "\n" ++ indent.atLevel level ++ argument) h)
  simp only [String.utf8ByteSize_append] at hl
  unfold argumentLines
  omega

/-- An event takes no code away, and adds the indentation of all its levels. -/
theorem size_le_of_sink {e : Event} {draft next : Draft} (h : sink e draft = .ok () next) :
    draft.code.utf8ByteSize ≤ next.code.utf8ByteSize ∧
      ∀ level ∈ draft.levels e,
        (draft.settings.indent.atLevel level).utf8ByteSize ≤ next.code.utf8ByteSize := by
  cases e with
  | enter name attributes =>
    let traits := argumentLines draft.settings.indent (draft.calls.length + 1)
      (Traits.ofAttributes draft.settings.ids attributes).calls
    have hs := size_add_le_beginItem_push draft
      (draft.indentAt draft.calls.length ++ name ++ "![" ++ traits)
    have hn : next.code.utf8ByteSize = (draft.beginItem.push
        (draft.indentAt draft.calls.length ++ name ++ "![" ++ traits)).code.utf8ByteSize := by
      rw [eq_enter_of_sink h]
      rfl
    rw [← hn] at hs
    simp only [String.utf8ByteSize_append, indentAt] at hs
    refine ⟨by omega, fun level hl => ?_⟩
    rcases List.mem_cons.1 hl with rfl | ht
    · omega
    · obtain ⟨trait, hm, rfl⟩ := List.mem_map.1 ht
      have ha : _ ≤ traits.utf8ByteSize := size_le_argumentLines draft.settings.indent _ hm
      omega
  | text content =>
    rw [eq_text_of_sink h]
    simp only [text, levels]
    by_cases hb : (String.ofList (trim isMargin content.toList)).isEmpty = true
    · simp only [if_pos hb]
      exact ⟨Nat.le_refl _, by simp⟩
    · have hs := size_add_le_beginItem_push draft (draft.indentAt draft.calls.length ++
        literal (String.ofList (trim isMargin content.toList)))
      simp only [if_neg hb, List.mem_singleton, forall_eq]
      rw [String.utf8ByteSize_append] at hs
      constructor
      · omega
      · exact Nat.le_trans (Nat.le_add_right _ _) (Nat.le_trans (Nat.le_add_left _ _) hs)
  | leave =>
    cases hc : draft.calls with
    | nil => simp [sink, leave, hc] at h
    | cons call outer =>
      have hn : sink .leave draft = _ := leave_of_calls hc
      rw [h] at hn
      cases hn
      cases he : call.empty with
      | true => simp [levels, hc, he, push, String.utf8ByteSize_append]
      | false =>
        simp only [levels, hc, he, push, String.utf8ByteSize_append, indentAt, Bool.false_eq_true,
          if_false, List.mem_singleton, forall_eq]
        omega

/-- A limited draft takes an event as any draft does, and breaks off exactly if the code gets too
long: indentation that is too long would make it so. -/
theorem exists_limitedSink_eq (e : Event) (draft : Draft) :
    ∃ stopped, limitedSink e draft =
      match sink e draft with
      | .error cause next => .error (.nesting cause) next
      | .ok _ next =>
        if next.code.utf8ByteSize ≤ maxTextSize then .ok () next else .error .tooLong stopped := by
  unfold limitedSink
  split
  · cases sink e draft with
    | ok _ next => exact ⟨next, rfl⟩
    | error cause next => exact ⟨next, rfl⟩
  · rename_i hf
    refine ⟨draft, ?_⟩
    have hlevel : ∃ level ∈ draft.levels e, draft.settings.indent.fits level = false := by
      simpa using hf
    obtain ⟨level, hl, hlong⟩ := hlevel
    rw [← Bool.not_eq_true, Indent.fits_iff] at hlong
    cases hs : sink e draft with
    | ok _ next =>
      have hw := (size_le_of_sink hs).2 level hl
      dsimp only
      rw [if_neg (by omega)]
    | error cause next =>
      -- Only leaving an element is refused, and then nothing is indented.
      cases e with
      | enter name attributes => cases hs
      | text content => cases hs
      | leave =>
        cases hc : draft.calls with
        | nil => simp [levels, hc] at hl
        | cons call outer =>
          have hn : sink .leave draft = _ := leave_of_calls hc
          rw [hs] at hn
          cases hn

/-- Events take no code away. -/
theorem size_le_of_sendAll {events : List Event} {draft after : Draft}
    (h : Sink.sendAll sink events draft = .ok () after) :
    draft.code.utf8ByteSize ≤ after.code.utf8ByteSize := by
  induction events generalizing draft with
  | nil =>
    cases h
    exact Nat.le_refl _
  | cons e rest ih =>
    obtain ⟨next, he, hr⟩ := Sink.sendAll_cons_eq_ok h
    exact Nat.le_trans (size_le_of_sink he).1 (ih hr)

/-- A limited draft takes events that a draft takes, unless the code is too long after them. -/
theorem sendAll_limitedSink {events : List Event} {draft after : Draft}
    (h : Sink.sendAll sink events draft = .ok () after)
    (hd : draft.code.utf8ByteSize ≤ maxTextSize) :
    ∃ stopped, Sink.sendAll limitedSink events draft =
      if after.code.utf8ByteSize ≤ maxTextSize then .ok () after else .error .tooLong stopped := by
  induction events generalizing draft with
  | nil =>
    cases h
    exact ⟨after, by rw [if_pos hd]; rfl⟩
  | cons e rest ih =>
    obtain ⟨next, he, hr⟩ := Sink.sendAll_cons_eq_ok h
    obtain ⟨stopped, hs⟩ := exists_limitedSink_eq e draft
    rw [he] at hs
    dsimp only at hs
    by_cases hn : next.code.utf8ByteSize ≤ maxTextSize
    · rw [if_pos hn] at hs
      rw [Sink.sendAll_cons_of_ok hs]
      exact ih hr hn
    · have ha := size_le_of_sendAll hr
      rw [if_neg hn] at hs
      refine ⟨stopped, ?_⟩
      rw [if_neg (by omega), Sink.sendAll_cons]
      simp only [bind, EStateM.bind, hs]

/-- Indenting the lines of code takes no character away and adds the unit at the front. -/
theorem size_le_indentLines (unit code : String) :
    unit.utf8ByteSize ≤ (indentLines unit code).utf8ByteSize ∧
      code.utf8ByteSize ≤ (indentLines unit code).utf8ByteSize := by
  have hc : ∀ text : List Char,
      text.Sublist (text.flatMap fun c => if c = '\n' then c :: unit.toList else [c]) := by
    intro text
    induction text with
    | nil => exact List.nil_sublist _
    | cons c rest ih =>
      rw [List.flatMap_cons]
      split
      · exact (ih.trans (List.sublist_append_right unit.toList _)).cons_cons c
      · exact ih.cons_cons c
  unfold indentLines
  constructor
  · apply Text.size_le_of_sublist
    rw [String.toList_ofList]
    exact List.sublist_append_left _ _
  · apply Text.size_le_of_sublist
    rw [String.toList_ofList]
    exact (hc code.toList).trans (List.sublist_append_right _ _)

/-- Several roots as a vector are not smaller than one level of indentation or the roots. -/
theorem size_le_wrap (indent : Indent) (code : String) :
    indent.unit.utf8ByteSize ≤ (wrap indent code).utf8ByteSize ∧
      code.utf8ByteSize ≤ (wrap indent code).utf8ByteSize := by
  have hl := size_le_indentLines indent.unit code
  simp only [wrap, String.utf8ByteSize_append]
  omega

/-- What is handed out is not smaller than what was written. -/
theorem size_le_of_finish {draft emptied : Draft} {code : String}
    (h : finish draft = .ok code emptied) :
    draft.code.utf8ByteSize ≤ code.utf8ByteSize := by
  unfold finish at h
  cases hc : draft.calls with
  | cons call outer => simp [hc] at h
  | nil =>
    rw [hc] at h
    cases h
    split
    · exact (size_le_wrap draft.settings.indent draft.code).2
    · exact Nat.le_refl _

/-- A limited draft is finished as any draft is, and breaks off exactly if the code is too long. -/
theorem limitedFinish_eq (draft : Draft) :
    limitedFinish draft =
      match finish draft with
      | .error cause next => .error (.nesting cause) next
      | .ok code next =>
        if code.utf8ByteSize ≤ maxTextSize then .ok code next else .error .tooLong next := by
  unfold limitedFinish
  dsimp only
  split
  · rename_i hw
    simp only [Bool.and_eq_true, List.isEmpty_iff, Bool.not_eq_true', ← Bool.not_eq_true,
      Indent.fits_iff] at hw
    obtain ⟨⟨hc, hm⟩, hlong⟩ := hw
    have hu := (size_le_wrap draft.settings.indent draft.code).1
    rw [Indent.unit] at hu
    simp only [finish, hc, hm, if_true]
    rw [if_neg (by omega)]
  · rfl

/-- Events that a draft takes, and after which it is finished, give the same code in a limited
draft, unless that is too long. -/
theorem limited_eq {events : List Event} {draft written emptied : Draft} {code : String}
    (hw : Sink.sendAll sink events draft = .ok () written)
    (hf : finish written = .ok code emptied) (hd : draft.code = "") :
    ∃ last, (do Sink.sendAll limitedSink events; limitedFinish) draft =
      if code.utf8ByteSize ≤ maxTextSize then .ok code last else .error .tooLong last := by
  have hz : draft.code.utf8ByteSize ≤ maxTextSize := by
    rw [hd]
    decide
  obtain ⟨stopped, hs⟩ := sendAll_limitedSink hw hz
  have hc := size_le_of_finish hf
  by_cases hn : written.code.utf8ByteSize ≤ maxTextSize
  · rw [if_pos hn] at hs
    refine ⟨emptied, ?_⟩
    simp only [bind, EStateM.bind, hs, limitedFinish_eq, hf]
  · rw [if_neg hn] at hs
    refine ⟨stopped, ?_⟩
    rw [if_neg (by omega)]
    simp only [bind, EStateM.bind, hs]

end Code.Draft

end ViewCode
