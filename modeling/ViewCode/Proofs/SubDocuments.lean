import Mathlib.Data.List.TakeWhile
import ViewCode.Proofs.LayoutAgreement
import ViewCode.Proofs.Streams

/-!
# Documents inside other code

A draft need not be started afresh before markup is sent to it. Whatever it holds, the events of
markup only add items where it stands: in the innermost open call, or at the top level. All that the
draft had before is still there, and the innermost open call has an argument now if it had one
before or if the markup shows anything.
-/

namespace ViewCode

open ViewCode.Code ViewCode.Markup ViewCode.Text

/-- Nothing is left of a text without its margins exactly if it is all margin. -/
theorem Text.trim_eq_nil_iff {p : Char → Bool} {text : List Char} :
    trim p text = [] ↔ ∀ c ∈ text, p c = true := by
  have hd : trim p text = [] ↔ ∀ c ∈ text.dropWhile p, p c = true := by
    simp [trim, trimEnd, List.dropWhile_eq_nil_iff]
  rw [hd]
  constructor
  · intro h
    cases ht : text.dropWhile p with
    | nil => exact List.dropWhile_eq_nil_iff.1 ht
    | cons c rest =>
      have hc := List.head?_dropWhile_not p text
      rw [ht] at h hc
      simp [h c List.mem_cons_self] at hc
  · intro h c hc
    exact h c (List.dropWhile_subset p hc)

/-- The event shows something in the code: it enters an element, or it is a text that is not all
margin. -/
def Markup.Event.IsShown : Event → Prop
  | .enter _ _ => True
  | .text content => ∃ c ∈ content.toList, isMargin c = false
  | .leave => False

namespace Code

/-- A text has no item exactly if it shows nothing. -/
theorem Layout.textItem?_eq_none_iff {content : String} :
    textItem? content = none ↔ ¬(Event.text content).IsShown := by
  unfold textItem?
  cases ht : trim isMargin content.toList with
  | nil => simpa [Event.IsShown] using trim_eq_nil_iff.1 ht
  | cons c rest =>
    have hn : ¬∀ c ∈ content.toList, isMargin c = true := by
      rw [← trim_eq_nil_iff, ht]
      simp
    simpa [Event.IsShown] using hn

/-- A forest has no items exactly if no event of a walk through it shows anything. -/
theorem Layout.items_eq_nil_iff {settings : Settings} {level : Nat} {forest : Forest} :
    items settings level forest = [] ↔ ∀ e ∈ forest.walk, ¬e.IsShown := by
  induction forest with
  | nil => simp [items, Forest.walk]
  | element name attributes children next =>
    have hs : (Event.enter name attributes).IsShown := trivial
    simp [items, Forest.walk, hs]
  | text content next ih =>
    simp [items, Forest.walk, ih, textItem?_eq_none_iff]

/-- The open calls, the innermost of which is no longer empty if it is filled. -/
def fillInnermost (filled : Bool) : List OpenCall → List OpenCall
  | [] => []
  | call :: outer => { call with empty := call.empty && !filled } :: outer

theorem fillInnermost_false (calls : List OpenCall) : fillInnermost false calls = calls := by
  cases calls <;> simp [fillInnermost]

/-- Filling a call twice fills it once. -/
theorem fillInnermost_fillInnermost (first second : Bool) (calls : List OpenCall) :
    fillInnermost second (fillInnermost first calls) = fillInnermost (first || second) calls := by
  cases calls <;> simp [fillInnermost, Bool.and_assoc]

namespace Draft

/-- What becomes of a draft where it stands, given whether anything was added to it. -/
structure Extends (added : Bool) (before after : Draft) : Prop where
  /-- The settings stay. -/
  settings : after.settings = before.settings
  /-- Code is added at the end only. -/
  code : ∃ more, after.code = before.code ++ more
  /-- The open calls stay, and the innermost is filled by what is added. -/
  calls : after.calls = fillInnermost added before.calls
  /-- What had several roots still has them. -/
  multiRoot_of_multiRoot : before.multiRoot = true → after.multiRoot = true
  /-- There are no new roots inside an open call. -/
  multiRoot_of_calls : before.calls ≠ [] → after.multiRoot = before.multiRoot

namespace Extends

theorem refl (draft : Draft) : Extends false draft draft where
  settings := rfl
  code := ⟨"", by simp⟩
  calls := (fillInnermost_false draft.calls).symm
  multiRoot_of_multiRoot := id
  multiRoot_of_calls _ := rfl

theorem trans {first second : Bool} {before between after : Draft}
    (hf : Extends first before between) (hs : Extends second between after) :
    Extends (first || second) before after where
  settings := hs.settings.trans hf.settings
  code := by
    obtain ⟨more, hm⟩ := hf.code
    obtain ⟨others, ho⟩ := hs.code
    exact ⟨more ++ others, by rw [ho, hm, String.append_assoc]⟩
  calls := by rw [hs.calls, hf.calls, fillInnermost_fillInnermost]
  multiRoot_of_multiRoot h := hs.multiRoot_of_multiRoot (hf.multiRoot_of_multiRoot h)
  multiRoot_of_calls h := by
    have hb : between.calls ≠ [] := by
      rw [hf.calls]
      cases hc : before.calls with
      | nil => exact absurd hc h
      | cons call outer => simp [fillInnermost]
    exact (hs.multiRoot_of_calls hb).trans (hf.multiRoot_of_calls h)

/-- An item is added where the draft stands. -/
theorem addItem (draft : Draft) (item : String) : Extends true draft (draft.addItem item) := by
  unfold Draft.addItem beginItem
  cases hc : draft.calls with
  | nil =>
    have hn : draft.calls = fillInnermost true draft.calls := by
      rw [hc]
      rfl
    dsimp only [beginRoot]
    split
    · exact ⟨rfl, ⟨_, String.append_assoc⟩, hn, fun _ => rfl, fun h => absurd hc h⟩
    · exact ⟨rfl, ⟨_, rfl⟩, hn, id, fun h => absurd hc h⟩
  | cons call outer =>
    refine ⟨rfl, ⟨_, String.append_assoc⟩, ?_, id, fun _ => rfl⟩
    rw [hc]
    simp [push, fillInnermost]

/-- Items extend a draft. -/
theorem foldl_addItem (draft : Draft) (items : List String) :
    Extends (!items.isEmpty) draft (items.foldl Draft.addItem draft) := by
  induction items generalizing draft with
  | nil => exact refl draft
  | cons item items ih => exact (addItem draft item).trans (ih (draft.addItem item))

end Extends

/-- From any draft, a walk is taken whole and extends it, and adds something exactly if one of its
events shows something. -/
theorem exists_extends_of_walk (forest : Forest) (draft : Draft) :
    ∃ added after, Sink.sendAll sink forest.walk draft = .ok () after ∧
      Extends added draft after ∧ (added = true ↔ ∃ e ∈ forest.walk, e.IsShown) := by
  let items := Layout.items draft.settings draft.calls.length forest
  have hi : items = [] ↔ ∀ e ∈ forest.walk, ¬e.IsShown := Layout.items_eq_nil_iff
  have ha : (!items.isEmpty) = true ↔ ∃ e ∈ forest.walk, e.IsShown := by
    simp [hi]
  exact ⟨_, _, sendAll_walk forest draft, Extends.foldl_addItem draft items, ha⟩

end Draft

end Code

end ViewCode
