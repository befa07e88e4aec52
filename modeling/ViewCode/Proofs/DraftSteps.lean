import ViewCode.Code.Draft
import ViewCode.Code.Layout

/-!
# Steps of a draft

What one event does to a draft, in terms of items. A text that counts is added as one item. An
element is entered by beginning an item with its call, and from then on the call has a list of
arguments that grows at its end, until the element is left.
-/

namespace ViewCode.Code.Draft

open ViewCode.Markup ViewCode.Text

/-- A draft takes an event that enters an element. -/
theorem eq_enter_of_sink {draft next : Draft} {name : String} {attributes : Attributes}
    (h : sink (.enter name attributes) draft = .ok () next) : next = draft.enter name attributes :=
  (EStateM.Result.ok.inj h).2.symm

/-- A draft takes a text. -/
theorem eq_text_of_sink {draft next : Draft} {content : String}
    (h : sink (.text content) draft = .ok () next) : next = draft.text content :=
  (EStateM.Result.ok.inj h).2.symm

/-- Adds an item on a line of its own, divided from what stands before it. -/
def addItem (draft : Draft) (item : String) : Draft :=
  draft.beginItem.push (draft.indentAt draft.calls.length ++ item)

/-- The draft after the opening of a call and some arguments of it, which begins where the given
draft ends. -/
def calling (begun : Draft) (label opening : String) (arguments : List String) : Draft :=
  { begun with
    code := begun.code ++ opening ++
      argumentLines begun.settings.indent (begun.calls.length + 1) arguments
    calls := ⟨label, arguments.isEmpty⟩ :: begun.calls }

/-- Dividing an item from what stands before it keeps the settings. -/
@[simp] theorem settings_beginItem (draft : Draft) : draft.beginItem.settings = draft.settings := by
  unfold beginItem
  split
  · unfold beginRoot
    split <;> rfl
  · rfl

/-- Dividing an item from what stands before it opens and closes no call. -/
@[simp] theorem length_calls_beginItem (draft : Draft) :
    draft.beginItem.calls.length = draft.calls.length := by
  unfold beginItem
  split
  · unfold beginRoot
    split <;> rfl
  · rename_i call outer h
    rw [h]
    rfl

/-- Adding an item keeps the settings. -/
@[simp] theorem settings_addItem (draft : Draft) (item : String) :
    (draft.addItem item).settings = draft.settings :=
  settings_beginItem draft

/-- Adding an item opens and closes no call. -/
@[simp] theorem length_calls_addItem (draft : Draft) (item : String) :
    (draft.addItem item).calls.length = draft.calls.length :=
  length_calls_beginItem draft

/-- A text adds its item, if it has one. -/
theorem text_eq (draft : Draft) (content : String) :
    draft.text content = ((Layout.textItem? content).map draft.addItem).getD draft := by
  unfold text Layout.textItem?
  cases h : trim isMargin content.toList with
  | nil => rfl
  | cons c rest =>
    have hn : (String.ofList (c :: rest)).isEmpty = false := by simp
    simp only [hn]
    rfl

/-- Entering an element begins an item with a call that has the traits for arguments. -/
theorem enter_eq (draft : Draft) (name : String) (attributes : Attributes) :
    draft.enter name attributes =
      calling draft.beginItem (name ++ toString draft.calls.length)
        (draft.indentAt draft.calls.length ++ name ++ "![")
        (Traits.ofAttributes draft.settings.ids attributes).calls := by
  simp [enter, calling, push, String.append_assoc]

/-- Entering an element keeps the settings. -/
@[simp] theorem settings_enter (draft : Draft) (name : String) (attributes : Attributes) :
    (draft.enter name attributes).settings = draft.settings :=
  settings_beginItem draft

/-- Entering an element opens one call. -/
@[simp] theorem length_calls_enter (draft : Draft) (name : String) (attributes : Attributes) :
    (draft.enter name attributes).calls.length = draft.calls.length + 1 :=
  congrArg (· + 1) (length_calls_beginItem draft)

/-- Writing a text opens and closes no call. -/
theorem length_calls_text (draft : Draft) (content : String) :
    (draft.text content).calls.length = draft.calls.length := by
  rw [text_eq]
  cases Layout.textItem? content with
  | none => rfl
  | some item => exact length_calls_addItem draft item

/-- Writing a text keeps the settings. -/
theorem settings_text (draft : Draft) (content : String) :
    (draft.text content).settings = draft.settings := by
  rw [text_eq]
  cases Layout.textItem? content with
  | none => rfl
  | some item => exact settings_addItem draft item

/-- Leaving an element closes the innermost open call. -/
theorem leave_of_calls {draft : Draft} {call : OpenCall} {outer : List OpenCall}
    (h : draft.calls = call :: outer) :
    leave draft = .ok () ({ draft with calls := outer }.push
      (if call.empty then "]" else "\n" ++ draft.indentAt outer.length ++ "]")) := by
  unfold leave
  rw [h]

/-- Leaving an element keeps the settings and closes one call. -/
theorem settings_and_calls_of_leave {draft after : Draft} (h : leave draft = .ok () after) :
    after.settings = draft.settings ∧ after.calls.length = draft.calls.length - 1 := by
  cases hc : draft.calls with
  | nil => simp [leave, hc] at h
  | cons call outer =>
    rw [leave_of_calls hc] at h
    cases h
    exact ⟨rfl, rfl⟩

/-- No event changes the settings. -/
theorem settings_of_sink {e : Event} {draft next : Draft} (h : sink e draft = .ok () next) :
    next.settings = draft.settings := by
  cases e with
  | enter name attributes => rw [eq_enter_of_sink h, settings_enter]
  | text content => rw [eq_text_of_sink h, settings_text]
  | leave => exact (settings_and_calls_of_leave h).1

/-- One more argument is divided from those before it by a comma. -/
theorem argumentLines_append_singleton (indent : Indent) (level : Nat) (arguments : List String)
    (item : String) :
    argumentLines indent level (arguments ++ [item]) =
      argumentLines indent level arguments ++
        ((if arguments.isEmpty then "\n" else ",\n") ++ (indent.atLevel level ++ item)) := by
  unfold argumentLines
  cases arguments with
  | nil => simp [String.append_assoc]
  | cons first rest =>
    have hc : ∀ line, ",\n" ++ line = "," ++ ("\n" ++ line) := fun line => by
      rw [← String.append_assoc]
      rfl
    rw [List.map_append, String.intercalate_append_of_ne_nil (by simp) (by simp)]
    simp [String.append_assoc, hc]

/-- An item that is added inside a call is its last argument. -/
theorem addItem_calling (begun : Draft) (label opening : String) (arguments : List String)
    (item : String) :
    (calling begun label opening arguments).addItem item =
      calling begun label opening (arguments ++ [item]) := by
  unfold calling
  rw [argumentLines_append_singleton]
  simp [addItem, beginItem, push, indentAt, String.append_assoc]

/-- Items that are added inside a call are its last arguments, in order. -/
theorem foldl_addItem_calling (begun : Draft) (label opening : String)
    (arguments items : List String) :
    items.foldl addItem (calling begun label opening arguments) =
      calling begun label opening (arguments ++ items) := by
  induction items generalizing arguments with
  | nil => simp
  | cons item items ih =>
    rw [List.foldl_cons, addItem_calling, ih, List.append_assoc]
    rfl

/-- Leaving an element ends its call as the layout has it. -/
theorem leave_calling (begun : Draft) (label indentation name : String)
    (arguments : List String) :
    leave (calling begun label (indentation ++ name ++ "![") arguments) =
      .ok () (begun.push (indentation ++
        Layout.call begun.settings.indent begun.calls.length name arguments)) := by
  have hc : (calling begun label (indentation ++ name ++ "![") arguments).calls =
      ⟨label, arguments.isEmpty⟩ :: begun.calls := rfl
  rw [leave_of_calls hc]
  unfold Layout.call
  cases arguments with
  | nil => simp [calling, push, argumentLines, String.append_assoc]
  | cons first rest => simp [calling, push, argumentLines, indentAt, String.append_assoc]

/-- An element that is entered, given items and left again is one item, its call. -/
theorem leave_foldl_addItem_enter (draft : Draft) (name : String) (attributes : Attributes)
    (items : List String) :
    leave (items.foldl addItem (draft.enter name attributes)) =
      .ok () (draft.addItem (Layout.call draft.settings.indent draft.calls.length name
        ((Traits.ofAttributes draft.settings.ids attributes).calls ++ items))) := by
  rw [enter_eq, foldl_addItem_calling, leave_calling, settings_beginItem, length_calls_beginItem]
  rfl

end ViewCode.Code.Draft
