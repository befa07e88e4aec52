import ViewCode.Proofs.Decoding
import ViewCode.Text.Lowercase

/-!
# Writing of names and texts

A name may be written with any of its letters as capitals, and is read in lower case again. In
texts and values the ampersand and one more character are written as references, and decoding
gives the characters back.
-/

namespace ViewCode.Markup

open ViewCode.Text

/-- Whether the character is ASCII and not a capital. -/
def isPlain (c : Char) : Bool :=
  c.toNat < 0x80 && !c.isUpper

/-- The text spells the name, with any of its letters as capitals. -/
def Spells (written : List Char) (name : String) : Prop :=
  written.map Char.toLower = name.toList

instance (written : List Char) (name : String) : Decidable (Spells written name) :=
  inferInstanceAs (Decidable (_ = _))

/-- A letter has a code between those of `A` and `z`. -/
theorem toNat_of_isAlpha {c : Char} (h : c.isAlpha = true) : 65 ≤ c.toNat ∧ c.toNat ≤ 122 := by
  simp only [Char.isAlpha, Char.isUpper, Char.isLower, Bool.or_eq_true, Bool.and_eq_true,
    decide_eq_true_eq] at h
  rcases h with ⟨hl, hu⟩ | ⟨hl, hu⟩
  · have ha : 65 ≤ c.toNat := UInt32.le_iff_toNat_le.1 hl
    have hz : c.toNat ≤ 90 := UInt32.le_iff_toNat_le.1 hu
    omega
  · have ha : 97 ≤ c.toNat := UInt32.le_iff_toNat_le.1 hl
    have hz : c.toNat ≤ 122 := UInt32.le_iff_toNat_le.1 hu
    omega

/-- A letter differs from every character that is not one. -/
theorem ne_of_isAlpha {c d : Char} (h : c.isAlpha = true) (hd : d.isAlpha = false) : c ≠ d := by
  intro e
  rw [e, hd] at h
  exact Bool.false_ne_true h

/-- A letter is no blank. -/
theorem isBlank_of_isAlpha {c : Char} (h : c.isAlpha = true) : isBlank c = false := by
  have hb := toNat_of_isAlpha h
  simp only [isBlank, Bool.or_eq_false_iff, Bool.and_eq_false_iff, decide_eq_false_iff_not,
    beq_eq_false_iff_ne]
  omega

namespace Spells

variable {written : List Char} {name : String}

/-- A written character is a capital or stands in the name. -/
theorem isUpper_or_mem (h : Spells written name) {c : Char} (hc : c ∈ written) :
    c.isUpper = true ∨ c ∈ name.toList := by
  by_cases hu : c.isUpper = true
  · exact Or.inl hu
  · have hm : c.toLower ∈ written.map Char.toLower := List.mem_map_of_mem hc
    rw [Char.toLower_eq_of_not_isUpper hu, h] at hm
    exact Or.inr hm

/-- A class of characters that has all letters and the characters of the name has the written
characters. -/
theorem forall_mem (h : Spells written name) {p : Char → Bool}
    (hl : ∀ c : Char, c.isAlpha = true → p c = true) (hn : ∀ c ∈ name.toList, p c = true) :
    ∀ c ∈ written, p c = true := by
  intro c hc
  rcases h.isUpper_or_mem hc with hi | hi
  · exact hl c (by simp [Char.isAlpha, hi])
  · exact hn c hi

/-- A written ASCII name is read in lower case again. -/
theorem lower_eq (h : Spells written name) (hn : ∀ c ∈ name.toList, isPlain c = true) :
    lower written = name.toList := by
  have ha : ∀ c ∈ written, decide (c.toNat < 0x80) = true := by
    refine h.forall_mem (fun c hc => ?_) (fun c hc => (Bool.and_eq_true_iff.1 (hn c hc)).1)
    have hb := toNat_of_isAlpha hc
    exact decide_eq_true (by omega)
  rw [lower, lowerAfter_ascii [] written (by simpa using ha)]
  exact h

/-- A name without capitals is spelled by itself. -/
theorem self (h : ∀ c ∈ name.toList, isPlain c = true) : Spells name.toList name := by
  have hl : ∀ c ∈ name.toList, c.toLower = id c := by
    intro c hc
    have hu := (Bool.and_eq_true_iff.1 (h c hc)).2
    exact Char.toLower_eq_of_not_isUpper (by simpa using hu)
  rw [Spells, List.map_congr_left hl, List.map_id]

/-- Something is written for a name that is not empty. -/
theorem ne_nil (h : Spells written name) (hn : name ≠ "") : written ≠ [] := by
  rintro rfl
  exact hn (String.toList_eq_nil_iff.1 h.symm)

/-- A name that begins with a small letter is written with a letter at the front. -/
theorem exists_cons {initial : Char} {rest : List Char} (h : Spells written name)
    (hn : name.toList = initial :: rest) (hi : initial.isLower = true) :
    ∃ c others, written = c :: others ∧ c.isAlpha = true := by
  unfold Spells at h
  rw [hn] at h
  obtain ⟨c, others, rfl, hc, -⟩ := List.map_eq_cons_iff.1 h
  refine ⟨c, others, rfl, ?_⟩
  rw [← Char.isLower_toLower_eq_isAlpha, hc, hi]

end Spells

/-- The reference by the given name. -/
def referTo (name : String) : List Char :=
  '&' :: (name.toList ++ [';'])

/-- The character as it is written where an ampersand and another special character, for which
there is a named reference, cannot stand for themselves. -/
def escapedAs (special : Char) (name : String) (c : Char) : List Char :=
  if c = '&' then referTo "amp" else if c = special then referTo name else [c]

/-- The content of a text as it is written. -/
def writeText (content : List Char) : List Char :=
  content.flatMap (escapedAs '<' "lt")

/-- The value of an attribute as it is written between double quotes. -/
def writeValue (value : List Char) : List Char :=
  value.flatMap (escapedAs '\x22' "quot")

namespace Reference

/-- A reference is decoded to its character, and what follows is decoded on its own. -/
theorem decode_referTo {name : String} {c : Char} (hi : name.toList.all isInner = true)
    (hr : resolve? name.toList = some c) (rest : List Char) :
    decode (referTo name ++ rest) = c :: decode rest := by
  have ha := List.all_eq_true.1 hi
  have hd : (name.toList ++ [';'] ++ rest).dropWhile isInner = ';' :: rest := by
    rw [List.append_assoc, List.dropWhile_append_of_pos ha]
    rfl
  have ht : (name.toList ++ [';'] ++ rest).takeWhile isInner = name.toList := by
    rw [List.append_assoc, List.takeWhile_append_of_pos ha]
    simp [isInner]
  have hn : next? (name.toList ++ [';'] ++ rest) = some (c, rest) := by
    simp only [next?, hd, ht, hr, Option.map_some]
  rw [referTo, List.cons_append, decode_ampersand, hn]

/-- Decoding undoes escaping. -/
theorem decode_flatMap_escapedAs {special : Char} {name : String}
    (hi : name.toList.all isInner = true) (hr : resolve? name.toList = some special)
    (text : List Char) : decode (text.flatMap (escapedAs special name)) = text := by
  induction text with
  | nil => rw [List.flatMap_nil, decode]
  | cons c rest ih =>
    rw [List.flatMap_cons]
    by_cases ha : c = '&'
    · have he : escapedAs special name c = referTo "amp" := if_pos ha
      rw [he, decode_referTo (by decide) (by decide +kernel : _ = some '&'), ih, ha]
    · by_cases hs : c = special
      · have he : escapedAs special name c = referTo name := by
          rw [escapedAs, if_neg ha, if_pos hs]
        rw [he, decode_referTo hi hr, ih, hs]
      · have he : escapedAs special name c = [c] := by
          rw [escapedAs, if_neg ha, if_neg hs]
        rw [he, List.singleton_append, decode_cons_of_ne ha, ih]

/-- A text is read as it was before it was written. -/
theorem decode_writeText (content : List Char) : decode (writeText content) = content :=
  decode_flatMap_escapedAs (by decide) (by decide +kernel) content

theorem decoded_writeText (content : String) : decoded (writeText content.toList) = content := by
  rw [decoded, decode_writeText, String.ofList_toList]

/-- A value is read as it was before it was written. -/
theorem decoded_writeValue (value : String) : decoded (writeValue value.toList) = value := by
  rw [decoded, writeValue, decode_flatMap_escapedAs (by decide) (by decide +kernel),
    String.ofList_toList]

end Reference

/-- Something is written for a text that is not empty. -/
theorem writeText_ne_nil {content : List Char} (h : content ≠ []) : writeText content ≠ [] := by
  intro e
  have hd := Reference.decode_writeText content
  rw [e, Reference.decode] at hd
  exact h hd.symm

/-- What is escaped does not occur in what is written. -/
theorem not_mem_flatMap_escapedAs {special : Char} {name : String}
    (hm : special ∉ referTo "amp") (hn : special ∉ referTo name) (text : List Char) :
    special ∉ text.flatMap (escapedAs special name) := by
  intro h
  obtain ⟨c, _, hc⟩ := List.mem_flatMap.1 h
  unfold escapedAs at hc
  split at hc
  · exact hm hc
  · split at hc
    · exact hn hc
    · rename_i hs
      exact hs (List.mem_singleton.1 hc).symm

end ViewCode.Markup
