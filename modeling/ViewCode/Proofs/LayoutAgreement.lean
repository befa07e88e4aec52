import ViewCode.Proofs.Delivery
import ViewCode.Proofs.DraftSteps

/-!
# Agreement of drafts with the layout

A draft writes code as events come, by appending only. The layout describes the code of a whole
document by recursion on its forest. The two agree: wherever a draft stands, the events of a walk
through a forest add the items of the forest to it, one after another.
-/

namespace ViewCode.Code

open ViewCode.Markup ViewCode.Text

namespace Layout

/-- A call is not empty. -/
theorem call_ne_empty (indent : Indent) (level : Nat) (name : String) (arguments : List String) :
    call indent level name arguments ≠ "" := by
  unfold call
  split <;> simp [String.append_eq_empty_iff]

/-- The item of a text is not empty. -/
theorem ne_empty_of_textItem? {content item : String} (h : textItem? content = some item) :
    item ≠ "" := by
  unfold textItem? at h
  split at h
  · simp at h
  · rw [← Option.some.inj h, literal]
    simp [String.append_eq_empty_iff]

/-- No item of a forest is empty. -/
theorem ne_empty_of_mem_items {settings : Settings} {level : Nat} {forest : Forest}
    {item : String} (h : item ∈ items settings level forest) : item ≠ "" := by
  induction forest generalizing level with
  | nil => simp [items] at h
  | text content next ih =>
    simp only [items, List.mem_append, Option.mem_toList] at h
    rcases h with ht | hn
    · exact ne_empty_of_textItem? ht
    · exact ih hn
  | element name attributes children next _ ih =>
    simp only [items, List.mem_cons] at h
    rcases h with rfl | hn
    · exact call_ne_empty _ _ _ _
    · exact ih hn

/-- Nothing is indented at the top level. -/
theorem atLevel_zero (indent : Indent) : indent.atLevel 0 = "" := by
  simp [Indent.atLevel, Indent.width]

/-- What stands before the first part of a joined text stands before the whole. -/
theorem intercalate_append_cons (separator before first : List Char) (rest : List (List Char)) :
    separator.intercalate ((before ++ first) :: rest) =
      before ++ separator.intercalate (first :: rest) := by
  cases rest <;> simp

/-- Putting a text at the front and after each line break puts it before each line. -/
theorem append_flatMap_eq_intercalate (unit code : List Char) :
    (unit ++ code.flatMap fun c => if c = '\n' then c :: unit else [c]) =
      ['\n'].intercalate ((split (· == '\n') code).map (unit ++ ·)) := by
  induction code with
  | nil => simp [split]
  | cons c rest ih =>
    obtain ⟨part, parts, hs⟩ := exists_split_eq_cons (· == '\n') rest
    rw [hs, List.map_cons, intercalate_append_cons, List.append_cancel_left_eq] at ih
    by_cases hc : c = '\n'
    · simp [split, hc, hs, ih, intercalate_append_cons]
    · simp [split, hc, hs, ih, intercalate_append_cons, List.intercalate_cons_cons_left]

/-- The code of several roots is moved to the right as the layout has it. -/
theorem indentLines_eq_deeper (indent : Indent) (code : String) :
    Draft.indentLines indent.unit code = deeper indent code := by
  apply String.toList_inj.1
  rw [Draft.indentLines, deeper, String.toList_ofList, String.toList_intercalate,
    append_flatMap_eq_intercalate]
  simp [Function.comp_def]

end Layout

namespace Draft

/-- From any draft, the events of a walk through a forest add the items of its nodes. -/
theorem sendAll_walk (forest : Forest) (draft : Draft) :
    Sink.sendAll sink forest.walk draft =
      .ok () ((Layout.items draft.settings draft.calls.length forest).foldl addItem draft) := by
  induction forest generalizing draft with
  | nil => rfl
  | text content next ih =>
    have hs : sink (.text content) draft = .ok () (draft.text content) := rfl
    rw [Forest.walk, Sink.sendAll_cons_of_ok hs, ih, text_eq, Layout.items]
    cases Layout.textItem? content with
    | none => rfl
    | some item => simp
  | element name attributes children next ihc ihn =>
    -- The children go into a draft with one more open call, which is the level of their items.
    have hs : sink (.enter name attributes) draft = .ok () (draft.enter name attributes) := rfl
    have hc := ihc (draft.enter name attributes)
    have hl : sink .leave _ = _ := leave_foldl_addItem_enter draft name attributes
      (Layout.items draft.settings (draft.calls.length + 1) children)
    rw [settings_enter, length_calls_enter] at hc
    rw [Forest.walk, Sink.sendAll_cons_of_ok hs, Sink.sendAll_append_of_ok hc,
      Sink.sendAll_cons_of_ok hl, ihn, settings_addItem, length_calls_addItem]
    rfl

/-- The draft in which the roots have been written and no call is open. -/
def rooted (settings : Settings) (roots : List String) : Draft where
  settings := settings
  code := String.intercalate ",\n" roots
  multiRoot := 1 < roots.length

/-- An item at the top level is one more root. -/
theorem addItem_rooted (settings : Settings) {roots : List String} (item : String)
    (h : ∀ root ∈ roots, root ≠ "") :
    (rooted settings roots).addItem item = rooted settings (roots ++ [item]) := by
  cases roots with
  | nil => simp [rooted, addItem, beginItem, beginRoot, push, indentAt, Layout.atLevel_zero]
  | cons root rest =>
    have hr : root ≠ "" := h root List.mem_cons_self
    have hc : String.intercalate ",\n" (root :: rest) ≠ "" := by
      cases rest with
      | nil => simpa using hr
      | cons second rest => simp [String.append_eq_empty_iff]
    have hj : String.intercalate ",\n" (root :: rest ++ [item]) =
        String.intercalate ",\n" (root :: rest) ++ ",\n" ++ item := by
      rw [String.intercalate_append_of_ne_nil (by simp) (by simp), String.intercalate_singleton]
    unfold rooted
    rw [hj]
    simp [addItem, beginItem, beginRoot, push, indentAt, Layout.atLevel_zero, hc]

/-- Items at the top level are more roots, in order. -/
theorem foldl_addItem_rooted (settings : Settings) (roots items : List String)
    (h : ∀ root ∈ roots ++ items, root ≠ "") :
    items.foldl addItem (rooted settings roots) = rooted settings (roots ++ items) := by
  induction items generalizing roots with
  | nil => simp
  | cons item items ih =>
    have hr : ∀ root ∈ roots, root ≠ "" :=
      fun root hm => h root (List.mem_append_left _ hm)
    have hi : ∀ root ∈ roots ++ [item] ++ items, root ≠ "" := by
      simpa using h
    rw [List.foldl_cons, addItem_rooted settings item hr, ih _ hi]
    simp

/-- What is handed out of a draft with roots: nothing, one root, or a vector. -/
theorem finish_rooted (settings : Settings) (forest : Forest) :
    finish (rooted settings (Layout.items settings 0 forest)) =
      .ok (Layout.document settings forest)
        { rooted settings (Layout.items settings 0 forest) with code := "" } := by
  unfold finish Layout.document wrap
  rw [Layout.indentLines_eq_deeper]
  match Layout.items settings 0 forest with
  | [] => simp [rooted]
  | [item] => simp [rooted]
  | first :: second :: rest => simp [rooted]

/-- A walk through a forest writes its items as roots into a draft that is started afresh. -/
theorem sendAll_walk_restart (settings : Settings) (forest : Forest) (draft : Draft) :
    Sink.sendAll sink forest.walk (draft.restart settings) =
      .ok () (rooted settings (Layout.items settings 0 forest)) := by
  have hr : draft.restart settings = rooted settings [] := by
    simp [restart, rooted]
  have hi := foldl_addItem_rooted settings [] (Layout.items settings 0 forest)
    (fun root hm => Layout.ne_empty_of_mem_items hm)
  rw [hr, sendAll_walk]
  exact congrArg (EStateM.Result.ok ()) hi

end Draft

end ViewCode.Code
