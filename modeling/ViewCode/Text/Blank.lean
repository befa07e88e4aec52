/-!
# Blanks and the splitting of text

Three classes of blank characters matter. The Unicode property White_Space bounds names and values;
the five blanks of the markup language may stand between the parts of a tag; and at the ends of a
text the byte order mark counts as blank, too. Text is cut at single characters only, and cutting
loses nothing but the separators.
-/

namespace ViewCode.Text

/-- The Unicode property White_Space. The zero-width space and the byte order mark lack it. -/
def isBlank (c : Char) : Bool :=
  (0x9 ≤ c.toNat && c.toNat ≤ 0xD) || c.toNat == 0x20 || c.toNat == 0x85 || c.toNat == 0xA0 ||
    c.toNat == 0x1680 || (0x2000 ≤ c.toNat && c.toNat ≤ 0x200A) || c.toNat == 0x2028 ||
    c.toNat == 0x2029 || c.toNat == 0x202F || c.toNat == 0x205F || c.toNat == 0x3000

/-- The blanks that may separate the parts of a tag: space, tab, line feed, form feed and carriage
return. The vertical tab is not among them. -/
def isTagBlank (c : Char) : Bool :=
  c == ' ' || c == '\t' || c == '\n' || c == '\x0c' || c == '\r'

/-- Whether the character does not count at the ends of a text: a blank or a byte order mark. -/
def isMargin (c : Char) : Bool :=
  isBlank c || c == '\uFEFF'

/-- A blank of a tag is a blank. -/
theorem isBlank_of_isTagBlank {c : Char} (h : isTagBlank c = true) : isBlank c = true := by
  simp only [isTagBlank, Bool.or_eq_true, beq_iff_eq] at h
  rcases h with (((rfl | rfl) | rfl) | rfl) | rfl <;> decide

/-- The text without the characters of the class at its end. -/
def trimEnd (p : Char → Bool) (text : List Char) : List Char :=
  (text.reverse.dropWhile p).reverse

/-- The text without the characters of the class at either end. -/
def trim (p : Char → Bool) (text : List Char) : List Char :=
  trimEnd p (text.dropWhile p)

/-- The parts of the text between characters of the class, empty parts included. There is always
one part more than there are separators. -/
def split (p : Char → Bool) : List Char → List (List Char)
  | [] => [[]]
  | c :: rest =>
    if p c then [] :: split p rest
    else match split p rest with
      | [] => [[c]]
      | part :: parts => (c :: part) :: parts

/-- There is always a first part. -/
theorem exists_split_eq_cons (p : Char → Bool) (text : List Char) :
    ∃ part parts, split p text = part :: parts := by
  cases text with
  | nil => exact ⟨[], [], rfl⟩
  | cons c rest =>
    unfold split
    split
    · exact ⟨_, _, rfl⟩
    · split
      · exact ⟨_, _, rfl⟩
      · exact ⟨_, _, rfl⟩

/-- The text before the first character of the class and the text after it, if there is one. -/
def splitFirst? (p : Char → Bool) (text : List Char) : Option (List Char × List Char) :=
  match text.dropWhile (!p ·) with
  | [] => none
  | _ :: after => some (text.takeWhile (!p ·), after)

/-- The maximal runs of characters that are not blank, in order. -/
def words (text : List Char) : List (List Char) :=
  (split isBlank text).filter (!·.isEmpty)

/-- What the class drops and what it keeps make up the text. -/
theorem splitFirst?_append {p : Char → Bool} {text before after : List Char}
    (h : splitFirst? p text = some (before, after)) :
    ∃ c, p c = true ∧ text = before ++ c :: after := by
  unfold splitFirst? at h
  split at h
  · simp at h
  · rename_i c rest hd
    simp only [Option.some.injEq, Prod.mk.injEq] at h
    obtain ⟨rfl, rfl⟩ := h
    refine ⟨c, ?_, ?_⟩
    · have hc := List.head?_dropWhile_not (!p ·) text
      rw [hd] at hc
      simpa using hc
    · rw [← hd, List.takeWhile_append_dropWhile]

/-- Where the first character of a class is looked for, none stands before it. -/
theorem forall_mem_of_splitFirst? {p : Char → Bool} {text before after : List Char}
    (h : splitFirst? p text = some (before, after)) : ∀ c ∈ before, p c = false := by
  unfold splitFirst? at h
  split at h
  · simp at h
  · simp only [Option.some.injEq, Prod.mk.injEq] at h
    intro c hc
    rw [← h.1] at hc
    simpa using List.all_eq_true.1 List.all_takeWhile c hc

end ViewCode.Text
