import Mathlib.Data.List.Basic
import ViewCode.Proofs.Balance
import ViewCode.Proofs.Literals

/-!
# Literals in wrapped code

The code that a draft writes holds the texts and attribute values of its events, in order. Where
several roots are wrapped in a vector, every line of the code is indented, also a line that begins
inside a literal: so wrapping keeps the literals and puts one unit of indentation after each line
break in them.
-/

namespace ViewCode.Code

open ViewCode.Markup ViewCode.Text

/-- The texts that the event puts into the code, in order. -/
def eventStrings (ids : IdPolicy) : Event → List String
  | .enter _ attributes => (Traits.ofAttributes ids attributes).strings
  | .text content =>
    let inner := trim isMargin content.toList
    if inner.isEmpty then [] else [String.ofList inner]
  | .leave => []

/-- How many items the events add to the top level, given the number of elements that are open
before them. A text that is all margin is no item. -/
def rootItems : Nat → List Event → Nat
  | _, [] => 0
  | height, .enter _ _ :: rest => (if height = 0 then 1 else 0) + rootItems (height + 1) rest
  | height, .text content :: rest =>
    (if height = 0 ∧ trim isMargin content.toList ≠ [] then 1 else 0) + rootItems height rest
  | height, .leave :: rest => rootItems (height - 1) rest

namespace Draft

/-- A stream of events keeps the settings. -/
theorem settings_of_sendAll {events : List Event} {draft written : Draft}
    (h : Sink.sendAll sink events draft = .ok () written) : written.settings = draft.settings := by
  induction events generalizing draft with
  | nil =>
    rw [Sink.sendAll_nil] at h
    cases h
    rfl
  | cons e rest ih =>
    obtain ⟨next, he, hr⟩ := Sink.sendAll_cons_eq_ok h
    rw [ih hr, settings_of_sink he]

/-- What a draft has written: its code holds the texts, and there are as many items at the top
level. -/
structure Wrote (draft : Draft) (texts : List String) (roots : Nat) : Prop where
  /-- The code holds the texts. -/
  holds : Holds draft.code texts
  /-- There is code as soon as there is an item. -/
  code_eq_empty_iff : draft.code = "" ↔ roots = 0
  /-- A second item at the top level has been noted. -/
  multiRoot_iff : draft.multiRoot = true ↔ 2 ≤ roots
  /-- An open call belongs to an item at the top level. -/
  roots_pos : draft.calls ≠ [] → 0 < roots

namespace Wrote

variable {draft : Draft} {texts : List String} {roots : Nat}

/-- Nothing has been written in a draft that is started afresh. -/
theorem restart (draft : Draft) (settings : Settings) : (draft.restart settings).Wrote [] 0 where
  holds := .of_not_mem (by simp [Draft.restart])
  code_eq_empty_iff := by simp [Draft.restart]
  multiRoot_iff := by simp [Draft.restart]
  roots_pos h := absurd rfl h

/-- An item that is begun adds its texts, and itself where no call is open. -/
theorem beginItem_push (h : draft.Wrote texts roots) {code : String} {more : List String}
    (hc : Holds code more) (hn : code ≠ "") :
    (draft.beginItem.push code).Wrote (texts ++ more)
      (roots + if draft.calls.length = 0 then 1 else 0) := by
  cases ho : draft.calls with
  | nil =>
    have hb : draft.beginItem = draft.beginRoot := by
      unfold beginItem
      rw [ho]
    rw [hb, beginRoot]
    by_cases hr : roots = 0
    · have he := h.code_eq_empty_iff.2 hr
      have hm : draft.multiRoot = false := by
        rw [← Bool.not_eq_true, h.multiRoot_iff]
        omega
      rw [if_neg (by simp [he, hm])]
      exact ⟨h.holds.append hc, by simp [push, he, hn], by simp [push, hm, hr],
        fun hne => absurd ho hne⟩
    · have he : draft.code ≠ "" := fun e => hr (h.code_eq_empty_iff.1 e)
      rw [if_pos (by simp [he])]
      refine ⟨(h.holds.append_right (by decide)).append hc, by simp [push, he], ?_,
        fun hne => absurd ho hne⟩
      simp only [push, List.length_nil, if_true, true_iff]
      omega
  | cons call outer =>
    have hp := h.roots_pos (by simp [ho])
    have he : draft.code ≠ "" := fun e => absurd (h.code_eq_empty_iff.1 e) (by omega)
    have hb : Holds (draft.code ++ if call.empty then "\n" else ",\n") texts :=
      h.holds.append_right (by split <;> decide)
    have hr : (roots + if (call :: outer).length = 0 then 1 else 0) = roots := by simp
    unfold beginItem
    rw [ho, hr]
    refine ⟨hb.append hc, ?_, h.multiRoot_iff, fun _ => hp⟩
    simp only [push, String.append_eq_empty_iff, he, false_and, false_iff]
    omega

/-- Entering an element adds the texts of its traits. -/
theorem enter (h : draft.Wrote texts roots) {name : String} (hn : '\x22' ∉ name.toList)
    (attributes : Attributes) :
    (draft.enter name attributes).Wrote
      (texts ++ (Traits.ofAttributes draft.settings.ids attributes).strings)
      (roots + if draft.calls.length = 0 then 1 else 0) := by
  have hq : ∀ level, '\x22' ∉ (draft.settings.indent.atLevel level).toList :=
    not_mem_atLevel (by decide) (by decide) draft.settings.indent
  have hl : '\x22' ∉ ("\n" ++ draft.settings.indent.atLevel (draft.calls.length + 1)).toList := by
    simp [hq]
  have ht : Holds (argumentLines draft.settings.indent (draft.calls.length + 1)
      (Traits.ofAttributes draft.settings.ids attributes).calls) _ :=
    (Traits.holdAll_calls _).map_append_left hl |>.intercalate (by decide)
  have ho : '\x22' ∉ (draft.indentAt draft.calls.length ++ name ++ "![").toList := by
    simp [indentAt, hq, hn]
  have hw := h.beginItem_push (ht.append_left ho) (by simp [String.append_eq_empty_iff])
  refine ⟨hw.holds, hw.code_eq_empty_iff, hw.multiRoot_iff, fun _ => ?_⟩
  cases hc : draft.calls with
  | nil =>
    simp only [List.length_nil, if_true]
    omega
  | cons call outer =>
    have hp := h.roots_pos (by simp [hc])
    omega

/-- A text adds itself without its margins, unless nothing is left of it. -/
theorem text (h : draft.Wrote texts roots) (content : String) :
    (draft.text content).Wrote (texts ++ eventStrings draft.settings.ids (.text content))
      (roots + if draft.calls.length = 0 ∧ trim isMargin content.toList ≠ [] then 1 else 0) := by
  unfold Draft.text eventStrings
  cases ht : trim isMargin content.toList with
  | nil => simpa [ht] using h
  | cons c inner =>
    have hq : '\x22' ∉ (draft.indentAt draft.calls.length).toList :=
      not_mem_atLevel (by decide) (by decide) _ _
    have hi : Holds (draft.indentAt draft.calls.length ++ literal (String.ofList (c :: inner)))
        [String.ofList (c :: inner)] := (Holds.literal _).append_left hq
    have hw := h.beginItem_push hi (by simp [literal, String.append_eq_empty_iff])
    simpa [ht] using hw

/-- Leaving an element adds nothing. -/
theorem leave (h : draft.Wrote texts roots) {after : Draft} (hl : leave draft = .ok () after) :
    after.Wrote texts roots := by
  cases hc : draft.calls with
  | nil => simp [Draft.leave, hc] at hl
  | cons call outer =>
    have hp := h.roots_pos (by simp [hc])
    have he : draft.code ≠ "" := fun e => absurd (h.code_eq_empty_iff.1 e) (by omega)
    have hq : '\x22' ∉ (if call.empty then "]"
        else "\n" ++ draft.indentAt outer.length ++ "]").toList := by
      have hi : '\x22' ∉ (draft.indentAt outer.length).toList :=
        not_mem_atLevel (by decide) (by decide) _ _
      split
      · decide
      · simp [hi]
    rw [leave_of_calls hc] at hl
    cases hl
    refine ⟨h.holds.append_right hq, ?_, h.multiRoot_iff, fun _ => hp⟩
    simp only [push, String.append_eq_empty_iff, he, false_and, false_iff]
    omega

/-- A stream of events adds the texts of all its events and its items at the top level. -/
theorem sendAll (h : draft.Wrote texts roots) {events : List Event} {written : Draft}
    (hn : ∀ name attributes, Event.enter name attributes ∈ events → '\x22' ∉ name.toList)
    (hs : Sink.sendAll sink events draft = .ok () written) :
    written.Wrote (texts ++ events.flatMap (eventStrings draft.settings.ids))
      (roots + rootItems draft.calls.length events) := by
  induction events generalizing draft texts roots with
  | nil =>
    rw [Sink.sendAll_nil] at hs
    cases hs
    simpa [rootItems] using h
  | cons e rest ih =>
    obtain ⟨next, he, hr⟩ := Sink.sendAll_cons_eq_ok hs
    have hm : ∀ name attributes, Event.enter name attributes ∈ rest → '\x22' ∉ name.toList :=
      fun name attributes hi => hn name attributes (List.mem_cons_of_mem e hi)
    rw [List.flatMap_cons, ← List.append_assoc]
    cases e with
    | enter name attributes =>
      have hw := h.enter (hn name attributes List.mem_cons_self) attributes
      rw [eq_enter_of_sink he] at hr
      have hi := ih hw hm hr
      rw [settings_enter, length_calls_enter] at hi
      rw [rootItems, ← Nat.add_assoc]
      exact hi
    | text content =>
      have hw := h.text content
      rw [eq_text_of_sink he] at hr
      have hi := ih hw hm hr
      rw [settings_text, length_calls_text] at hi
      rw [rootItems, ← Nat.add_assoc]
      exact hi
    | leave =>
      have hw := h.leave he
      have hi := ih hw hm hr
      obtain ⟨hset, hlen⟩ := settings_and_calls_of_leave he
      rw [hset, hlen] at hi
      rw [rootItems, eventStrings, List.append_nil]
      exact hi

end Wrote

end Draft

/-- What follows the character in a text where a unit is put after each line break. -/
def afterChar (unit : List Char) (c : Char) : List Char :=
  if c = '\n' then unit else []

/-- The characters with the unit after each line break. -/
def breakWith (unit text : List Char) : List Char :=
  text.flatMap fun c => c :: afterChar unit c

/-- The text with one unit of indentation after each of its line breaks. -/
def indentBreaks (unit text : String) : String :=
  String.ofList (breakWith unit.toList text.toList)

theorem afterChar_of_ne {c : Char} (h : c ≠ '\n') (unit : List Char) : afterChar unit c = [] :=
  if_neg h

/-- Nothing but the unit is put after a character. -/
theorem not_mem_afterChar {unit : List Char} {d : Char} (h : d ∉ unit) (c : Char) :
    d ∉ afterChar unit c := by
  unfold afterChar
  split
  · exact h
  · exact List.not_mem_nil

theorem breakWith_cons (unit : List Char) (c : Char) (text : List Char) :
    breakWith unit (c :: text) = c :: (afterChar unit c ++ breakWith unit text) :=
  List.flatMap_cons

/-- Each line break makes the text longer by the unit. -/
theorem length_breakWith (unit text : List Char) :
    (breakWith unit text).length = text.length + text.count '\n' * unit.length := by
  induction text with
  | nil => simp [breakWith]
  | cons c text ih =>
    rw [breakWith_cons, List.length_cons, List.length_append, ih, List.length_cons]
    by_cases h : c = '\n'
    · have ha : afterChar unit c = unit := if_pos h
      rw [ha, h, List.count_cons_self, Nat.add_mul]
      omega
    · rw [afterChar_of_ne h, List.count_cons_of_ne h, List.length_nil]
      omega

/-- Only a text with a line break is changed by a unit that is not empty. -/
theorem indentBreaks_eq_self_iff {unit text : String} (hu : unit.toList ≠ []) :
    indentBreaks unit text = text ↔ '\n' ∉ text.toList := by
  rw [indentBreaks, ← String.toList_inj, String.toList_ofList]
  constructor
  · intro h
    have hl := length_breakWith unit.toList text.toList
    have hp := List.length_pos_iff.2 hu
    rw [h] at hl
    have hz : text.toList.count '\n' * unit.toList.length = 0 := by omega
    exact List.count_eq_zero.1 ((Nat.mul_eq_zero.1 hz).resolve_right (by omega))
  · intro h
    have hs : ∀ c ∈ text.toList, c :: afterChar unit.toList c = [c] := by
      intro c hc
      have hn : c ≠ '\n' := fun e => h (e ▸ hc)
      rw [afterChar_of_ne hn]
    rw [breakWith, List.flatMap_congr hs, List.flatMap_singleton']

namespace Scan

/-- Where a scan stands after the same code with the unit after each line break. -/
def broken (unit : List Char) : Scan → Scan
  | outside => outside
  | inside value => inside (breakWith unit value)
  | escaped value => escaped (breakWith unit value)

/-- What is put after line breaks is passed over outside literals and belongs to the value in
one. -/
theorem literals_breakWith {unit : List Char} (hq : '\x22' ∉ unit) (hb : '\\' ∉ unit)
    (scan : Scan) (code : List Char) :
    (scan.broken unit).literals (breakWith unit code) =
      (scan.literals code).map fun value => String.ofList (breakWith unit value.toList) := by
  induction code generalizing scan with
  | nil => cases scan <;> rfl
  | cons c code ih =>
    have haq := not_mem_afterChar hq c
    have hab := not_mem_afterChar hb c
    -- One more character in a literal comes with what is put after it.
    have hv : ∀ value, (inside (breakWith unit value ++ [c])).literals
        (afterChar unit c ++ breakWith unit code) =
          ((inside (value ++ [c])).broken unit).literals (breakWith unit code) := by
      intro value
      rw [literals_inside_append haq hab]
      simp [broken, breakWith]
    rw [breakWith_cons]
    cases scan with
    | outside =>
      rw [broken, literals, literals]
      by_cases hc : c = '\x22'
      · have hn : c ≠ '\n' := by
          rw [hc]
          decide
        rw [if_pos hc, afterChar_of_ne hn]
        exact ih (inside [])
      · rw [if_neg hc, literals_outside_append haq]
        exact ih outside
    | inside value =>
      rw [broken, literals, literals]
      by_cases hc : c = '\x22'
      · rw [if_pos hc, if_pos hc, literals_outside_append haq, List.map_cons,
          String.toList_ofList]
        exact congrArg _ (ih outside)
      · rw [if_neg hc, if_neg hc]
        by_cases hs : c = '\\'
        · have hn : c ≠ '\n' := by
            rw [hs]
            decide
          rw [if_pos hs, if_pos hs, afterChar_of_ne hn]
          exact ih (escaped value)
        · rw [if_neg hs, if_neg hs, hv, ih]
    | escaped value => rw [broken, literals, literals, hv, ih]

/-- No literal ends in code without quotes. -/
theorem literals_of_not_mem {plain : List Char} (h : '\x22' ∉ plain) (scan : Scan) :
    scan.literals plain = [] := by
  induction plain generalizing scan with
  | nil => cases scan <;> rfl
  | cons c plain ih =>
    have hc : c ≠ '\x22' := fun e => h (e ▸ List.mem_cons_self)
    have hr := ih fun hm => h (List.mem_cons_of_mem c hm)
    cases scan with
    | outside => rw [literals, hr]
    | inside value => rw [literals, if_neg hc, hr]
    | escaped value => rw [literals, hr]

/-- No literal is added by code without quotes at the end. -/
theorem literals_append_of_not_mem {plain : List Char} (h : '\x22' ∉ plain) (scan : Scan)
    (code : List Char) : scan.literals (code ++ plain) = scan.literals code := by
  induction code generalizing scan with
  | nil =>
    rw [List.nil_append, literals_of_not_mem h]
    cases scan <;> rfl
  | cons c code ih =>
    rw [List.cons_append]
    cases scan with
    | outside => rw [literals, literals, ih]
    | inside value => rw [literals, literals, ih, ih]
    | escaped value => rw [literals, literals, ih]

end Scan

/-- One level of indentation is not empty. -/
theorem unit_ne_nil (indent : Indent) : indent.unit.toList ≠ [] := by
  have hs : UInt64.ofNat 1 * indent.size = indent.size := by simp
  have hp : 0 < indent.size.toNat := indent.size_pos
  rw [Indent.unit, Indent.atLevel, String.toList_ofList, Indent.width, hs]
  simp only [ne_eq, List.replicate_eq_nil_iff]
  omega

/-- Wrapping code puts a unit of indentation after each line break in its literals, and leaves them
alone otherwise. -/
theorem literals_wrap (indent : Indent) (code : String) :
    literals (Draft.wrap indent code) = (literals code).map (indentBreaks indent.unit) := by
  have hq : '\x22' ∉ indent.unit.toList := not_mem_atLevel (by decide) (by decide) indent 1
  have hb : '\\' ∉ indent.unit.toList := not_mem_atLevel (by decide) (by decide) indent 1
  have hw : (Draft.wrap indent code).toList = ("vec![\n".toList ++ indent.unit.toList) ++
      breakWith indent.unit.toList code.toList ++ "\n]".toList := by
    have hi : ∀ c : Char, (if c = '\n' then c :: indent.unit.toList else [c]) =
        c :: afterChar indent.unit.toList c := by
      intro c
      unfold afterChar
      split <;> rfl
    simp [Draft.wrap, Draft.indentLines, breakWith, hi]
  have hl : '\x22' ∉ "vec![\n".toList ++ indent.unit.toList := by simp [hq]
  rw [literals, hw, List.append_assoc, Scan.literals_outside_append hl,
    Scan.literals_append_of_not_mem (by decide)]
  exact Scan.literals_breakWith hq hb .outside code.toList

namespace Draft

/-- A draft takes a well bracketed stream, can be finished after it, and has written what the
events add to nothing. -/
theorem exists_written {events : List Event} (hb : WellBracketed events)
    (hn : ∀ name attributes, Event.enter name attributes ∈ events → '\x22' ∉ name.toList)
    (settings : Settings) (draft : Draft) :
    ∃ written, Sink.sendAll sink events (draft.restart settings) = .ok () written ∧
      written.settings = settings ∧ written.calls = [] ∧
      written.Wrote (events.flatMap (eventStrings settings.ids)) (rootItems 0 events) := by
  have hh : heightAfter? (draft.restart settings).calls.length events = some 0 := by
    refine heightAfter?_eq_some_iff.2 ⟨fun before hp => ?_, ?_⟩
    · exact Nat.le_trans (hb.left_le before hp) (Nat.le_add_left _ _)
    · simpa [Draft.restart] using hb.left_eq
  obtain ⟨written, hs, hc⟩ := sendAll_sink_of_heightAfter? hh
  have hw := (Wrote.restart draft settings).sendAll hn hs
  rw [List.nil_append, Nat.zero_add] at hw
  exact ⟨written, hs, settings_of_sendAll hs, List.length_eq_zero_iff.1 hc, hw⟩

/-- Wrapping several roots changes a literal at its line breaks only. The code of a draft holds the
texts of the events, in order; the finished code holds the same with one unit of indentation after
each line break; so both hold the same values exactly if none of these has a line break. -/
theorem literals_finish_of_several_roots {events : List Event} (hb : WellBracketed events)
    (hn : ∀ name attributes, Event.enter name attributes ∈ events → '\x22' ∉ name.toList)
    (hr : 2 ≤ rootItems 0 events) (settings : Settings) (draft : Draft) :
    ∃ written code emptied,
      Sink.sendAll sink events (draft.restart settings) = .ok () written ∧
        finish written = .ok code emptied ∧
        literals written.code = events.flatMap (eventStrings settings.ids) ∧
        literals code = (literals written.code).map (indentBreaks settings.indent.unit) ∧
        (literals code = literals written.code ↔
          ∀ value ∈ literals written.code, '\n' ∉ value.toList) := by
  obtain ⟨written, hs, hset, hc, hw⟩ := exists_written hb hn settings draft
  have hm : written.multiRoot = true := hw.multiRoot_iff.2 hr
  have hf : finish written =
      .ok (wrap settings.indent written.code) { written with code := "" } := by
    simp [finish, hc, hm, hset]
  have hl := literals_wrap settings.indent written.code
  refine ⟨written, _, _, hs, hf, hw.holds.literals_eq, hl, ?_⟩
  have hi : ∀ value, indentBreaks settings.indent.unit value = id value ↔
      '\n' ∉ value.toList := fun value => indentBreaks_eq_self_iff (unit_ne_nil settings.indent)
  have hid := List.map_id (literals written.code)
  rw [hl]
  nth_rewrite 2 [← hid]
  rw [List.map_inj_left]
  exact forall₂_congr fun value _ => hi value

/-- An element with a line break in its title, and a text after it. -/
def brokenTitle : List Event :=
  [.enter "p" ⟨[("title", "x\ny")], by decide⟩, .text " say \"hi\" ", .leave, .text "end"]

/-- The title is the one literal that wrapping changes. -/
theorem literals_finish_brokenTitle :
    (WellBracketed brokenTitle ∧ 2 ≤ rootItems 0 brokenTitle) ∧
      ∃ written code emptied,
        Sink.sendAll sink brokenTitle (restart { settings := {} } {}) = .ok () written ∧
          finish written = .ok code emptied ∧
          literals written.code = ["title", "x\ny", "say \"hi\"", "end"] ∧
          literals code = ["title", "x\n  y", "say \"hi\"", "end"] := by
  have hb : WellBracketed brokenTitle := wellBracketed_of_heightAfter? rfl
  have hr : 2 ≤ rootItems 0 brokenTitle := by decide +kernel
  have hn : ∀ name attributes, Event.enter name attributes ∈ brokenTitle →
      '\x22' ∉ name.toList := by
    intro name attributes h
    simp only [brokenTitle, List.mem_cons, Event.enter.injEq, List.not_mem_nil, or_false,
      reduceCtorEq] at h
    rw [h.1]
    decide
  obtain ⟨written, code, emptied, hs, hf, hw, hc, -⟩ :=
    literals_finish_of_several_roots hb hn hr {} { settings := {} }
  have ht : brokenTitle.flatMap (eventStrings .blank) = ["title", "x\ny", "say \"hi\"", "end"] := by
    decide +kernel
  refine ⟨⟨hb, hr⟩, written, code, emptied, hs, hf, hw.trans ht, ?_⟩
  rw [hc, hw]
  decide +kernel

/-- Wrapping does not keep all literals: a text with a line break is changed where it is one of two
roots. -/
theorem literals_not_kept_by_finish :
    ¬ ∀ (events : List Event) (settings : Settings) (draft written emptied : Draft)
        (code : String),
      WellBracketed events →
      (∀ name attributes, Event.enter name attributes ∈ events → '\x22' ∉ name.toList) →
      2 ≤ rootItems 0 events →
      Sink.sendAll sink events (draft.restart settings) = .ok () written →
      finish written = .ok code emptied →
      literals code = literals written.code := by
  intro h
  have hb : WellBracketed [.text "a\nb", .enter "br" ∅, .leave] :=
    wellBracketed_of_heightAfter? rfl
  have hk := h [.text "a\nb", .enter "br" ∅, .leave] {} { settings := {} } _ _ _ hb (by simp)
    (by decide +kernel) rfl rfl
  revert hk
  decide +kernel

end Draft

end ViewCode.Code
