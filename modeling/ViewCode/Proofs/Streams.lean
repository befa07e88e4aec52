import ViewCode.Markup.Forest
import ViewCode.Proofs.Balance

/-!
# The shape of streams

A stream of events that returns to the height from which it starts, and never falls below it, is the
walk through a forest. Any other stream fails in one of two ways, and each has a place. Where it
falls below its start, there is a first event that leaves an element which it has not entered. Where
it ends above its start, there is a last element which it has entered and not left, and what comes
after the start of this element is again a walk.
-/

namespace ViewCode.Markup

/-- The events end all the open elements, given their number: for each of them come the nodes that
it still gets and its end, and then come nodes at the top level. -/
def Completes : Nat → List Event → Prop
  | 0, events => ∃ forest : Forest, events = forest.walk
  | height + 1, events => ∃ (forest : Forest) (rest : List Event),
    Completes height rest ∧ events = forest.walk ++ .leave :: rest

namespace Completes

variable {height : Nat} {events : List Event}

/-- A node may come first. -/
theorem prepend {node : Forest → Forest} {front : List Event} (h : Completes height events)
    (hw : ∀ next, (node next).walk = front ++ next.walk) : Completes height (front ++ events) := by
  cases height with
  | zero =>
    obtain ⟨forest, rfl⟩ := h
    exact ⟨node forest, (hw forest).symm⟩
  | succ height =>
    obtain ⟨forest, rest, ho, rfl⟩ := h
    refine ⟨node forest, rest, ho, ?_⟩
    rw [hw, List.append_assoc]

/-- A stream that leaves no element open ends all that were open before it. -/
theorem of_heightAfter? (h : heightAfter? height events = some 0) : Completes height events := by
  fun_induction heightAfter? height events with
  | case1 height =>
    obtain rfl : height = 0 := Option.some.inj h
    exact ⟨.nil, rfl⟩
  | case2 height name attributes rest ih =>
    obtain ⟨children, after, ho, rfl⟩ := ih h
    have hw : ∀ next, (Forest.element name attributes children next).walk =
        (.enter name attributes :: (children.walk ++ [.leave])) ++ next.walk := by
      intro next
      simp [Forest.walk]
    have he := ho.prepend hw
    simpa using he
  | case3 height content rest ih =>
    have hw : ∀ next, (Forest.text content next).walk = [.text content] ++ next.walk := fun _ => rfl
    exact (ih h).prepend hw
  | case4 => simp at h
  | case5 height rest ih => exact ⟨.nil, rest, ih h, rfl⟩

end Completes

/-- A stream that returns to its start and never falls below it is a walk. -/
theorem exists_walk_of_heightAfter? {events : List Event} (h : heightAfter? 0 events = some 0) :
    ∃ forest : Forest, events = forest.walk :=
  Completes.of_heightAfter? h

/-- The events fall below their start: at some point they have left more elements than they have
entered. -/
def FallsBelow (events : List Event) : Prop :=
  ∃ before, before <+: events ∧ entered before < left before

/-- A stream has no height exactly if at some point more elements have been left than were open or
entered. -/
theorem heightAfter?_eq_none_iff {start : Nat} {events : List Event} :
    heightAfter? start events = none ↔
      ∃ before, before <+: events ∧ start + entered before < left before := by
  constructor
  · intro h
    apply Classical.byContradiction
    intro hn
    -- Then the stream has a height: the number of elements that are not left.
    have hp : ∀ before, before <+: events → left before ≤ start + entered before :=
      fun before hb => Nat.not_lt.1 fun hl => hn ⟨before, hb, hl⟩
    have hf := hp events (List.prefix_refl events)
    have hs : heightAfter? start events = some (start + entered events - left events) :=
      heightAfter?_eq_some_iff.2 ⟨hp, Nat.sub_add_cancel hf⟩
    rw [h] at hs
    simp at hs
  · rintro ⟨before, hb, hl⟩
    cases h : heightAfter? start events with
    | none => rfl
    | some finish =>
      have hp := (heightAfter?_eq_some_iff.1 h).1 before hb
      omega

/-- A stream falls below its start exactly if it has no height over nothing. -/
theorem heightAfter?_zero_eq_none_iff {events : List Event} :
    heightAfter? 0 events = none ↔ FallsBelow events := by
  rw [heightAfter?_eq_none_iff, FallsBelow]
  simp only [Nat.zero_add]

instance (events : List Event) : Decidable (FallsBelow events) :=
  decidable_of_iff _ heightAfter?_zero_eq_none_iff

/-- Where a stream has no height, it first leaves all the open elements and those that it has
entered, and then one more. -/
theorem exists_surplus_leave {start : Nat} {events : List Event}
    (h : heightAfter? start events = none) :
    ∃ before after, events = before ++ .leave :: after ∧ heightAfter? start before = some 0 := by
  fun_induction heightAfter? start events with
  | case1 => simp at h
  | case2 height name attributes rest ih =>
    obtain ⟨before, after, rfl, hb⟩ := ih h
    exact ⟨.enter name attributes :: before, after, rfl, hb⟩
  | case3 height content rest ih =>
    obtain ⟨before, after, rfl, hb⟩ := ih h
    exact ⟨.text content :: before, after, rfl, hb⟩
  | case4 rest => exact ⟨[], rest, rfl, rfl⟩
  | case5 height rest ih =>
    obtain ⟨before, after, rfl, hb⟩ := ih h
    exact ⟨.leave :: before, after, rfl, hb⟩

/-- A stream that ends at some height above nothing has either entered the element at this height
itself, and returned to it in the end, or has never fallen below the height. -/
theorem exists_last_enter_or {start finish : Nat} {events : List Event}
    (h : heightAfter? start events = some (finish + 1)) :
    (∃ before name attributes inner, events = before ++ .enter name attributes :: inner ∧
        heightAfter? start before = some finish ∧ heightAfter? 0 inner = some 0) ∨
      ∃ more, start = finish + 1 + more ∧ heightAfter? more events = some 0 := by
  fun_induction heightAfter? start events with
  | case1 height => exact .inr ⟨0, Option.some.inj h, rfl⟩
  | case2 height name attributes rest ih =>
    rcases ih h with ⟨before, other, otherAttributes, inner, rfl, hb, hi⟩ | ⟨more, hm, hr⟩
    · exact .inl ⟨.enter name attributes :: before, other, otherAttributes, inner, rfl, hb, hi⟩
    · -- The rest stays above the height: this event reaches it, or starts above it already.
      cases more with
      | zero =>
        obtain rfl : height = finish := by omega
        exact .inl ⟨[], name, attributes, rest, rfl, rfl, hr⟩
      | succ more => exact .inr ⟨more, by omega, hr⟩
  | case3 height content rest ih =>
    rcases ih h with ⟨before, name, attributes, inner, rfl, hb, hi⟩ | ⟨more, hm, hr⟩
    · exact .inl ⟨.text content :: before, name, attributes, inner, rfl, hb, hi⟩
    · exact .inr ⟨more, hm, hr⟩
  | case4 => simp at h
  | case5 height rest ih =>
    rcases ih h with ⟨before, name, attributes, inner, rfl, hb, hi⟩ | ⟨more, hm, hr⟩
    · exact .inl ⟨.leave :: before, name, attributes, inner, rfl, hb, hi⟩
    · exact .inr ⟨more + 1, by omega, hr⟩

/-- In a stream that ends with elements open, a walk comes after the start of the last of them. -/
theorem exists_last_enter {finish : Nat} {events : List Event}
    (h : heightAfter? 0 events = some (finish + 1)) :
    ∃ before name attributes, ∃ forest : Forest,
      events = before ++ .enter name attributes :: forest.walk ∧
        heightAfter? 0 before = some finish := by
  rcases exists_last_enter_or h with ⟨before, name, attributes, inner, rfl, hb, hi⟩ | ⟨more, hm, -⟩
  · obtain ⟨forest, rfl⟩ := exists_walk_of_heightAfter? hi
    exact ⟨before, name, attributes, forest, rfl, hb⟩
  · omega

/-- The names of the elements that the events enter and do not leave, outermost first. An element is
left where the events after its start fall below it. -/
def stillOpen : List Event → List String
  | [] => []
  | .enter name _ :: rest => if FallsBelow rest then stillOpen rest else name :: stillOpen rest
  | .text _ :: rest => stillOpen rest
  | .leave :: rest => stillOpen rest

example : stillOpen [.enter "ul" ∅, .enter "li" ∅, .leave, .enter "li" ∅, .text "x"] =
    ["ul", "li"] := by
  decide

/-- What does not fall below its start makes nothing before it fall below. -/
theorem fallsBelow_append {before after : List Event} (h : ¬FallsBelow after) :
    FallsBelow (before ++ after) ↔ FallsBelow before := by
  rw [← heightAfter?_zero_eq_none_iff, ← heightAfter?_zero_eq_none_iff, heightAfter?_append]
  cases heightAfter? 0 before with
  | none => simp
  | some height =>
    have hn : heightAfter? height after ≠ none := by
      intro hf
      obtain ⟨part, hp, hl⟩ := heightAfter?_eq_none_iff.1 hf
      exact h ⟨part, hp, by omega⟩
    simp [hn]

/-- What does not fall below its start leaves open what is open before it. -/
theorem stillOpen_append {before after : List Event} (h : ¬FallsBelow after) :
    stillOpen (before ++ after) = stillOpen before ++ stillOpen after := by
  induction before with
  | nil => rfl
  | cons e before ih =>
    cases e with
    | enter name attributes =>
      simp only [List.cons_append, stillOpen, fallsBelow_append h, ih]
      split <;> rfl
    | text content => exact ih
    | leave => exact ih

/-- A walk returns to the height from which it starts. -/
theorem heightAfter?_walk (forest : Forest) (height : Nat) :
    heightAfter? height forest.walk = some height := by
  induction forest generalizing height with
  | nil => rfl
  | element name attributes children next ihc ihn =>
    rw [Forest.walk, heightAfter?, heightAfter?_append, ihc]
    exact ihn height
  | text content next ih => exact ih height

/-- A walk leaves nothing open, whatever follows. -/
theorem stillOpen_walk_append (forest : Forest) (rest : List Event) :
    stillOpen (forest.walk ++ rest) = stillOpen rest := by
  induction forest generalizing rest with
  | nil => rfl
  | element name attributes children next ihc ihn =>
    -- The end of the element is where the events after its start fall below it.
    have hf : FallsBelow (children.walk ++ .leave :: (next.walk ++ rest)) := by
      rw [← heightAfter?_zero_eq_none_iff, heightAfter?_append, heightAfter?_walk]
      rfl
    simp only [Forest.walk, List.cons_append, List.append_assoc, stillOpen, if_pos hf, ihc, ihn]
  | text content next ih => exact ih rest

/-- A walk leaves nothing open. -/
theorem stillOpen_walk (forest : Forest) : stillOpen forest.walk = [] := by
  have hw := stillOpen_walk_append forest []
  rwa [List.append_nil] at hw

/-- The last element that a stream leaves open is the last of those that are still open. -/
theorem stillOpen_append_enter_walk (before : List Event) (name : String) (attributes : Attributes)
    (forest : Forest) :
    stillOpen (before ++ .enter name attributes :: forest.walk) = stillOpen before ++ [name] := by
  have hw : ¬FallsBelow forest.walk := by
    rw [← heightAfter?_zero_eq_none_iff, heightAfter?_walk]
    simp
  have he : ¬FallsBelow (.enter name attributes :: forest.walk) := by
    rw [← heightAfter?_zero_eq_none_iff, heightAfter?, heightAfter?_walk]
    simp
  rw [stillOpen_append he, stillOpen, if_neg hw, stillOpen_walk]

/-- The height of a stream is the number of elements that are still open after it. -/
theorem length_stillOpen {events : List Event} {height : Nat}
    (h : heightAfter? 0 events = some height) : (stillOpen events).length = height := by
  induction height generalizing events with
  | zero =>
    obtain ⟨forest, rfl⟩ := exists_walk_of_heightAfter? h
    rw [stillOpen_walk]
    rfl
  | succ height ih =>
    obtain ⟨before, name, attributes, forest, rfl, hb⟩ := exists_last_enter h
    rw [stillOpen_append_enter_walk, List.length_append, ih hb]
    rfl

end ViewCode.Markup
