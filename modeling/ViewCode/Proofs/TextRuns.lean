import Mathlib.Data.List.TakeWhile
import ViewCode.Text.Blank

/-!
# Runs of characters

A text is taken apart at the end of a run of characters of one class, or at the first character of
a class. Where a run ends is known from the text after it, which must not begin with a character of
the class.
-/

namespace ViewCode.Text

/-- The text does not begin with a character of the class. -/
def Stops (p : Char → Bool) (text : List Char) : Prop :=
  ∀ c ∈ text.head?, p c = false

theorem stops_nil (p : Char → Bool) : Stops p [] := by
  intro c hc
  simp at hc

theorem stops_cons {p : Char → Bool} {c : Char} (h : p c = false) (rest : List Char) :
    Stops p (c :: rest) := by
  intro d hd
  rw [List.head?_cons, Option.mem_some_iff] at hd
  exact hd ▸ h

/-- A run of the class ends where the text after it stops the class. -/
theorem takeWhile_append_of_stops {p : Char → Bool} {run rest : List Char}
    (hr : ∀ c ∈ run, p c = true) (hs : Stops p rest) : (run ++ rest).takeWhile p = run := by
  cases rest with
  | nil => rw [List.takeWhile_append_of_pos hr, List.takeWhile_nil, List.append_nil]
  | cons c rest =>
    rw [List.takeWhile_append_of_pos hr, List.takeWhile_cons_of_neg (by simp [hs c rfl]),
      List.append_nil]

/-- What comes after a run of the class is what stops the class. -/
theorem dropWhile_append_of_stops {p : Char → Bool} {run rest : List Char}
    (hr : ∀ c ∈ run, p c = true) (hs : Stops p rest) : (run ++ rest).dropWhile p = rest := by
  cases rest with
  | nil => exact List.dropWhile_append_of_pos hr
  | cons c rest =>
    rw [List.dropWhile_append_of_pos hr, List.dropWhile_cons_of_neg (by simp [hs c rfl])]

/-- Trimming takes away the characters of the class after a text that has none. -/
theorem trimEnd_append_of_forall {p : Char → Bool} {text margin : List Char}
    (ht : ∀ c ∈ text, p c = false) (hm : ∀ c ∈ margin, p c = true) :
    trimEnd p (text ++ margin) = text := by
  have hr : ∀ c ∈ margin.reverse, p c = true := fun c hc => hm c (List.mem_reverse.1 hc)
  have hs : Stops p text.reverse :=
    fun c hc => ht c (List.mem_reverse.1 (List.mem_of_mem_head? hc))
  rw [trimEnd, List.reverse_append, dropWhile_append_of_stops hr hs, List.reverse_reverse]

/-- The first character of a class is the one before which there is none. -/
theorem splitFirst?_append_cons {p : Char → Bool} {before : List Char} {c : Char}
    (hb : ∀ d ∈ before, p d = false) (hc : p c = true) (after : List Char) :
    splitFirst? p (before ++ c :: after) = some (before, after) := by
  have hr : ∀ d ∈ before, (!p d) = true := fun d hd => by simp [hb d hd]
  have hs : Stops (!p ·) (c :: after) := stops_cons (by simp [hc]) after
  simp only [splitFirst?, takeWhile_append_of_stops hr hs, dropWhile_append_of_stops hr hs]

/-- A text begins with a run of each class. -/
theorem exists_run (p : Char → Bool) (text : List Char) :
    ∃ run, (∀ c ∈ run, p c = true) ∧ text = run ++ text.dropWhile p :=
  ⟨text.takeWhile p, fun _ hc => List.mem_takeWhile_imp hc, List.takeWhile_append_dropWhile.symm⟩

/-- What comes after a run of a class stops the class. -/
theorem stops_dropWhile (p : Char → Bool) (text : List Char) : Stops p (text.dropWhile p) := by
  intro c hc
  have hn := List.head?_dropWhile_not p text
  rw [Option.mem_def.1 hc] at hn
  simpa using hn

end ViewCode.Text
