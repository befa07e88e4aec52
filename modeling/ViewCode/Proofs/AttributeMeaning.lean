import Mathlib.Data.List.Forall2
import ViewCode.Proofs.Delivery
import ViewCode.Proofs.DraftSteps

/-!
# Code and the meaning of attributes

Attributes mean the same if nothing that is written for them differs: the id counts by its value or
by its presence, the class by its names, the style by its declarations, and all other attributes as
they stand. Two streams of events that differ only in attributes of the same meaning do the same to
a draft, and so their code is the same.
-/

namespace ViewCode.Code

open ViewCode.Markup ViewCode.Text

/-- The attributes mean the same, given what becomes of ids. Where the id, the class and the style
stand among the others does not count. -/
structure SameMeaning (ids : IdPolicy) (first second : Attributes) : Prop where
  /-- Both have an id or neither has one, and its value is the same unless it is left blank. -/
  id : Option.Rel (fun value other => ids = .blank ∨ value = other) (first.get? "id")
    (second.get? "id")
  /-- Both have the same class names in the same order. No class is one without names. -/
  classes : words ((first.get? "class").getD "").toList =
    words ((second.get? "class").getD "").toList
  /-- Both have a style or neither has one, and it has the same declarations. -/
  style : Option.Rel (fun value other => Declaration.parse value = Declaration.parse other)
    (first.get? "style") (second.get? "style")
  /-- All other attributes are the same, in the same order. -/
  others : first.entries.filter (·.1 ∉ ["id", "class", "style"]) =
    second.entries.filter (·.1 ∉ ["id", "class", "style"])

/-- Values that are optional have the same image exactly if both are there with the same image or
neither is. -/
theorem map_eq_map_iff_rel {α β : Type} {f : α → β} {first second : Option α} :
    first.map f = second.map f ↔ Option.Rel (fun a b => f a = f b) first second := by
  cases first <;> cases second <;> simp

/-- The text for an id is the same exactly if the value is or ids are left blank. -/
theorem Traits.idText_eq_iff {ids : IdPolicy} {value other : String} :
    idText ids value = idText ids other ↔ ids = .blank ∨ value = other := by
  cases ids <;> simp [idText]

/-- The class names are those in the value, which is empty if there is no class. -/
theorem Traits.classes_ofAttributes (ids : IdPolicy) (attributes : Attributes) :
    (ofAttributes ids attributes).classes =
      (words ((attributes.get? "class").getD "").toList).map String.ofList := by
  cases h : attributes.get? "class" with
  | none => simp [ofAttributes, h, words, split]
  | some value => simp [ofAttributes, h, classNames]

/-- Attributes have the same traits exactly if they mean the same. -/
theorem Traits.ofAttributes_eq_iff {ids : IdPolicy} {first second : Attributes} :
    ofAttributes ids first = ofAttributes ids second ↔ SameMeaning ids first second := by
  have hi : (ofAttributes ids first).id = (ofAttributes ids second).id ↔
      Option.Rel (fun value other => ids = .blank ∨ value = other) (first.get? "id")
        (second.get? "id") := by
    simp only [ofAttributes, map_eq_map_iff_rel, idText_eq_iff]
  have hc : (ofAttributes ids first).classes = (ofAttributes ids second).classes ↔
      words ((first.get? "class").getD "").toList =
        words ((second.get? "class").getD "").toList := by
    rw [classes_ofAttributes, classes_ofAttributes]
    exact (List.map_injective_iff.2 fun _ _ => String.ofList_injective).eq_iff
  have hs : (ofAttributes ids first).style = (ofAttributes ids second).style ↔
      Option.Rel (fun value other => Declaration.parse value = Declaration.parse other)
        (first.get? "style") (second.get? "style") := map_eq_map_iff_rel
  have ho : ∀ attributes : Attributes, (ofAttributes ids attributes).others =
      attributes.entries.filter (·.1 ∉ ["id", "class", "style"]) := by
    intro attributes
    have hf : ∀ name, isOther name = decide (name ∉ ["id", "class", "style"]) := by
      intro name
      rw [Bool.eq_iff_iff]
      simp [isOther, and_assoc]
    simp only [ofAttributes, hf]
  constructor
  · intro h
    exact ⟨hi.1 (by rw [h]), hc.1 (by rw [h]), hs.1 (by rw [h]), by rw [← ho, ← ho, h]⟩
  · intro h
    have hother : (ofAttributes ids first).others = (ofAttributes ids second).others := by
      rw [ho, ho, h.others]
    simp only [ofAttributes, mk.injEq]
    exact ⟨hi.2 h.id, hc.2 h.classes, hs.2 h.style, hother⟩

/-- The pairs have the same name, and the same value unless the name is that of an id. -/
def AlikeButId (entry other : String × String) : Prop :=
  entry.1 = other.1 ∧ (entry.1 ≠ "id" → entry.2 = other.2)

/-- What stands under a name is there in both lists or in neither, and is the same for other names
than that of an id. -/
theorem rel_lookup {entries others : List (String × String)}
    (h : List.Forall₂ AlikeButId entries others) (name : String) :
    Option.Rel (fun value other => name ≠ "id" → value = other) (entries.lookup name)
      (others.lookup name) := by
  induction h with
  | nil => exact .none
  | @cons entry other rest more he _ ih =>
    obtain ⟨hn, hv⟩ := he
    by_cases hk : name = entry.1
    · subst hk
      rw [List.lookup_cons_self, List.lookup_cons, hn, beq_self_eq_true]
      exact .some (hn ▸ hv)
    · have hb : (name == entry.1) = false := beq_false_of_ne hk
      rw [List.lookup_cons, List.lookup_cons, ← hn, hb]
      exact ih

/-- Pairs under other names than those of traits are the same in both lists. -/
theorem filter_eq_filter {entries others : List (String × String)}
    (h : List.Forall₂ AlikeButId entries others) :
    entries.filter (·.1 ∉ ["id", "class", "style"]) =
      others.filter (·.1 ∉ ["id", "class", "style"]) := by
  induction h with
  | nil => rfl
  | @cons entry other rest more he _ ih =>
    obtain ⟨hn, hv⟩ := he
    by_cases hk : entry.1 ∉ ["id", "class", "style"]
    · have hi : entry.1 ≠ "id" := fun e => hk (by simp [e])
      have he : entry = other := Prod.ext hn (hv hi)
      subst he
      rw [List.filter_cons, List.filter_cons, ih]
    · have ho : ¬other.1 ∉ ["id", "class", "style"] := hn ▸ hk
      rw [List.filter_cons_of_neg (by simpa using hk), List.filter_cons_of_neg (by simpa using ho),
        ih]

/-- The attributes differ in the value of an id at most. -/
def DifferInId (first second : Attributes) : Prop :=
  List.Forall₂ AlikeButId first.entries second.entries

/-- Where ids are left blank, attributes that differ in the value of an id mean the same. -/
theorem DifferInId.sameMeaning {first second : Attributes} (h : DifferInId first second) :
    SameMeaning .blank first second := by
  have hr : ∀ name, Option.Rel (fun value other => name ≠ "id" → value = other)
      (first.get? name) (second.get? name) := rel_lookup h
  have heq : ∀ name, name ≠ "id" → first.get? name = second.get? name := by
    intro name hn
    match first.get? name, second.get? name, hr name with
    | _, _, .none => rfl
    | _, _, .some hv => exact congrArg some (hv hn)
  refine ⟨?_, ?_, ?_, filter_eq_filter h⟩
  · match first.get? "id", second.get? "id", hr "id" with
    | _, _, .none => exact .none
    | _, _, .some _ => exact .some (.inl rfl)
  · rw [heq "class" (by decide)]
  · rw [heq "style" (by decide)]
    exact map_eq_map_iff_rel.1 rfl

/-- The events are of the same kind with the same names and texts, and the attributes of an element
stand in the given relation. -/
inductive AlikeBut (same : Attributes → Attributes → Prop) : Event → Event → Prop where
  /-- The same element is entered. -/
  | enter (name : String) {first second : Attributes} :
      same first second → AlikeBut same (.enter name first) (.enter name second)
  /-- The same text is met. -/
  | text (content : String) : AlikeBut same (.text content) (.text content)
  /-- An element is left. -/
  | leave : AlikeBut same .leave .leave

theorem AlikeBut.mono {same other : Attributes → Attributes → Prop}
    (h : ∀ {first second}, same first second → other first second) {e f : Event}
    (ha : AlikeBut same e f) : AlikeBut other e f := by
  cases ha with
  | enter name hs => exact .enter name (h hs)
  | text content => exact .text content
  | leave => exact .leave

namespace Draft

/-- What comes of sending events to the draft: whether they are taken, the draft after them, and the
outcome of finishing that draft, which is asked for in any case. -/
def outcome (draft : Draft) (events : List Event) :
    EStateM.Result NestingError Draft Unit × EStateM.Result NestingError Draft String :=
  let sent := Sink.sendAll sink events draft
  match sent with
  | .ok _ after => (sent, finish after)
  | .error _ after => (sent, finish after)

/-- An event does the same to a draft as one with attributes of the same meaning. -/
theorem sink_congr {draft : Draft} {e other : Event}
    (h : AlikeBut (SameMeaning draft.settings.ids) e other) : sink e draft = sink other draft := by
  cases h with
  | @enter name first second hs =>
    have he : draft.enter name first = draft.enter name second := by
      unfold enter
      rw [Traits.ofAttributes_eq_iff.2 hs]
    exact congrArg (EStateM.Result.ok ()) he
  | text content => rfl
  | leave => rfl

/-- A stream does the same to a draft as one with attributes of the same meaning. -/
theorem sendAll_congr {ids : IdPolicy} {first second : List Event}
    (h : List.Forall₂ (AlikeBut (SameMeaning ids)) first second) {draft : Draft}
    (hd : draft.settings.ids = ids) :
    Sink.sendAll sink first draft = Sink.sendAll sink second draft := by
  induction h generalizing draft with
  | nil => rfl
  | @cons e other rest more he _ ih =>
    rw [← hd] at he
    have hs := sink_congr he
    cases ho : sink other draft with
    | ok _ next =>
      rw [ho] at hs
      rw [Sink.sendAll_cons_of_ok hs, Sink.sendAll_cons_of_ok ho]
      exact ih ((congrArg Settings.ids (settings_of_sink ho)).trans hd)
    | error cause refused =>
      rw [ho] at hs
      rw [Sink.sendAll_cons, Sink.sendAll_cons]
      simp only [bind, EStateM.bind, hs, ho]

/-- The code depends on the meaning of attributes only. From any draft, two streams with the same
names and texts in which the attributes of each element mean the same are taken or refused alike,
leave the same draft and are finished with the same outcome. In particular, where ids are left
blank, no value of an id counts. -/
theorem outcome_depends_on_meaning (draft : Draft) :
    (∀ first second : List Event,
      List.Forall₂ (AlikeBut (SameMeaning draft.settings.ids)) first second →
        draft.outcome first = draft.outcome second) ∧
      (draft.settings.ids = .blank → ∀ first second : List Event,
        List.Forall₂ (AlikeBut DifferInId) first second →
          draft.outcome first = draft.outcome second) := by
  have hsame : ∀ first second : List Event,
      List.Forall₂ (AlikeBut (SameMeaning draft.settings.ids)) first second →
        draft.outcome first = draft.outcome second := by
    intro first second h
    rw [outcome, outcome, sendAll_congr h rfl]
  refine ⟨hsame, fun hblank first second h => hsame first second ?_⟩
  rw [hblank]
  exact h.imp fun _ _ ha => ha.mono DifferInId.sameMeaning

/-- A link with all kinds of attributes, in a paragraph with a class that has no names. -/
def plainLink : List Event :=
  [.enter "p" ⟨[("class", " ")], by decide⟩,
   .enter "a" ⟨[("href", "/"), ("id", "x"), ("class", " b  c"), ("style", "color:red;"),
    ("rel", "r")], by decide⟩, .leave, .leave]

/-- The same link with its attributes in another order and written otherwise. -/
def shuffledLink : List Event :=
  [.enter "p" ∅,
   .enter "a" ⟨[("style", "; color : red"), ("href", "/"), ("rel", "r"), ("class", "b c"),
    ("id", "y")], by decide⟩, .leave, .leave]

/-- Both links have the same code where ids are left blank, and so have two paragraphs with
different ids. -/
theorem outcome_shuffledLink :
    (List.Forall₂ (AlikeBut (SameMeaning .blank)) plainLink shuffledLink ∧
      outcome { settings := {} } plainLink = outcome { settings := {} } shuffledLink) ∧
      DifferInId ⟨[("id", "x")], by decide⟩ ⟨[("id", "y")], by decide⟩ ∧
      outcome { settings := {} } [.enter "p" ⟨[("id", "x")], by decide⟩, .leave] =
        outcome { settings := {} } [.enter "p" ⟨[("id", "y")], by decide⟩, .leave] := by
  have hp : SameMeaning .blank ⟨[("class", " ")], by decide⟩ ∅ :=
    Traits.ofAttributes_eq_iff.1 (by decide +kernel)
  have ha : List.Forall₂ (AlikeBut (SameMeaning .blank)) plainLink shuffledLink :=
    .cons (.enter "p" hp) (.cons (.enter "a" (Traits.ofAttributes_eq_iff.1 (by decide +kernel)))
      (.cons .leave (.cons .leave .nil)))
  have hd : DifferInId ⟨[("id", "x")], by decide⟩ ⟨[("id", "y")], by decide⟩ :=
    .cons ⟨rfl, fun h => absurd rfl h⟩ .nil
  obtain ⟨hsame, hid⟩ := outcome_depends_on_meaning { settings := {} }
  exact ⟨⟨ha, hsame _ _ ha⟩, hd, hid rfl _ _ (.cons (.enter "p" hd) (.cons .leave .nil))⟩

end Draft

end ViewCode.Code
