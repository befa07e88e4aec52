import ViewCode.Proofs.Scanning
import ViewCode.Proofs.TagReading

/-!
# Reading of pieces

What the first piece of content is, for the three forms that documents are written in: a text up to
the next markup, a start tag, and an end tag. In each case it is known what is left.
-/

namespace ViewCode.Markup

open ViewCode.Text

/-- Whether the text can be the name of an element as it is read from ASCII. -/
def isTagName (name : String) : Bool :=
  match name.toList with
  | [] => false
  | initial :: rest =>
    initial.isLower && rest.all fun c => isPlain c && Content.isTagNameChar c

/-- A letter can stand in the name of a tag. -/
theorem Content.isTagNameChar_of_isAlpha {c : Char} (h : c.isAlpha = true) :
    isTagNameChar c = true := by
  have hb := isBlank_of_isAlpha h
  have hn : ∀ d : Char, d.isAlpha = false → c ≠ d := fun d => ne_of_isAlpha h
  simp [isTagNameChar, hb, hn]

/-- A small letter is ASCII and not a capital. -/
theorem isPlain_of_isLower {c : Char} (h : c.isLower = true) : isPlain c = true := by
  have ha : c.isAlpha = true := by simp [Char.isAlpha, h]
  have hb := toNat_of_isAlpha ha
  have hu := Char.not_isUpper_of_isLower h
  simp only [isPlain, hu, Bool.not_false, Bool.and_true, decide_eq_true_eq]
  omega

/-- The characters of a tag name are plain and can stand in one. -/
theorem forall_mem_of_isTagName {name : String} (h : isTagName name = true) :
    ∀ c ∈ name.toList, isPlain c = true ∧ Content.isTagNameChar c = true := by
  unfold isTagName at h
  split at h
  · exact absurd h Bool.false_ne_true
  · rename_i initial rest hn
    simp only [Bool.and_eq_true, List.all_eq_true] at h
    intro c hc
    rw [hn] at hc
    rcases List.mem_cons.1 hc with rfl | hr
    · have ha : c.isAlpha = true := by simp [Char.isAlpha, h.1]
      exact ⟨isPlain_of_isLower h.1, Content.isTagNameChar_of_isAlpha ha⟩
    · exact h.2 c hr

namespace Spells

variable {written : List Char} {name : String}

/-- A written tag name begins with a letter. -/
theorem exists_cons_of_isTagName (h : Spells written name) (hn : isTagName name = true) :
    ∃ c others, written = c :: others ∧ c.isAlpha = true := by
  unfold isTagName at hn
  split at hn
  · exact absurd hn Bool.false_ne_true
  · rename_i initial rest hi
    rw [Bool.and_eq_true] at hn
    exact h.exists_cons hi hn.1

/-- The characters of a written tag name can stand in one. -/
theorem isTagNameChar (h : Spells written name) (hn : isTagName name = true) :
    ∀ c ∈ written, Content.isTagNameChar c = true :=
  h.forall_mem (fun _ hl => Content.isTagNameChar_of_isAlpha hl)
    fun c hc => (forall_mem_of_isTagName hn c hc).2

/-- A written tag name is read as the name. -/
theorem ofList_lower (h : Spells written name) (hn : isTagName name = true) :
    String.ofList (lower written) = name := by
  rw [h.lower_eq fun c hc => (forall_mem_of_isTagName hn c hc).1, String.ofList_toList]

end Spells

/-- The content is at its end, or at something that is not read as text. -/
def AtMarkup : List Char → Prop
  | [] => True
  | c :: rest => c = '<' ∧ Piece.isText (Content.first c rest).1.kind = false

namespace Content

/-- A letter after `<` begins a start tag. -/
theorem opening_of_isAlpha {c : Char} (h : c.isAlpha = true) (rest : List Char) :
    opening ('<' :: c :: rest) = .startTag := by
  unfold opening
  split
  all_goals simp_all

/-- A letter after `</` begins an end tag. -/
theorem opening_end_of_isAlpha {c : Char} (h : c.isAlpha = true) (rest : List Char) :
    opening ('<' :: '/' :: c :: rest) = .endTag := by
  simp [opening, h]

/-- Text without `<` is one token up to the next `<`. -/
theorem next?_of_stops {text after : List Char} (hn : text ≠ []) (hl : '<' ∉ text)
    (hs : Stops (· != '<') after) : next? (text ++ after) = some (⟨.text, text⟩, after) := by
  cases text with
  | nil => exact absurd rfl hn
  | cons c others =>
    have hc : c ≠ '<' := fun e => hl (e ▸ List.mem_cons_self)
    have ho : ∀ d ∈ others, (d != '<') = true := by
      intro d hd
      exact bne_iff_ne.2 fun e => hl (e ▸ List.mem_cons_of_mem c hd)
    have hk : opening (c :: (others ++ after)) = .text := by
      simp [opening, hc]
    rw [List.cons_append, next?, first, hk]
    simp only [takeWhile_append_of_stops ho hs, dropWhile_append_of_stops ho hs]

/-- Text without `<` that markup or the end of the input follows is one token. -/
theorem next?_text {text after : List Char} (hn : text ≠ []) (hl : '<' ∉ text)
    (ha : AtMarkup after) : next? (text ++ after) = some (⟨.text, text⟩, after) := by
  apply next?_of_stops hn hl
  cases after with
  | nil => exact stops_nil _
  | cons d rest => exact stops_cons (by simp [ha.1]) rest

end Content

namespace Piece

/-- No text is read where markup begins. -/
theorem textRun_of_atMarkup {content : List Char} (h : AtMarkup content) :
    textRun content = ([], content) := by
  rw [textRun]
  cases content with
  | nil => rfl
  | cons c rest =>
    split
    · rfl
    · rename_i token after hn
      rw [Content.next?, Option.some.injEq] at hn
      rw [AtMarkup, hn] at h
      simp [h.2]

/-- Text is one piece up to the markup that follows it. -/
theorem next?_text {text after : List Char} (hn : text ≠ []) (hl : '<' ∉ text)
    (ha : AtMarkup after) :
    next? (text ++ after) = some (.text (Reference.decoded text), after) := by
  rw [next?, Content.next?_text hn hl ha]
  simp [ofToken, textRun_of_atMarkup ha]

end Piece

section Tags

variable {written : List Char} {name : String} (hs : Spells written name)
  (hn : isTagName name = true)

include hs hn

/-- A written name after `<` is the token of a start tag. -/
theorem Content.next?_startTag {inner : List Char} (hi : Stops isTagNameChar inner) :
    next? ('<' :: (written ++ inner)) = some (⟨.startTag, '<' :: written⟩, inner) := by
  have hc := hs.isTagNameChar hn
  obtain ⟨c, others, rfl, ha⟩ := hs.exists_cons_of_isTagName hn
  have hk : opening ('<' :: (c :: others ++ inner)) = .startTag := opening_of_isAlpha ha _
  rw [next?, first, hk]
  simp only [takeWhile_append_of_stops hc hi, dropWhile_append_of_stops hc hi]

/-- A written name after `</`, up to `>`, is the token of an end tag. -/
theorem Content.next?_endTag (rest : List Char) :
    next? ('<' :: '/' :: (written ++ '>' :: rest)) =
      some (⟨.endTag, '<' :: '/' :: (written ++ ['>'])⟩, rest) := by
  have hc := hs.isTagNameChar hn
  obtain ⟨c, others, rfl, ha⟩ := hs.exists_cons_of_isTagName hn
  have hk : opening ('<' :: '/' :: (c :: others ++ '>' :: rest)) = .endTag :=
    opening_end_of_isAlpha ha _
  have hg : ∀ d ∈ '<' :: '/' :: c :: others, (d == '>') = false := by
    intro d hd
    rw [List.mem_cons, List.mem_cons] at hd
    rcases hd with rfl | rfl | hd
    · rfl
    · rfl
    · have ht := hc d hd
      simp only [isTagNameChar, Bool.and_eq_true, bne_iff_ne] at ht
      exact beq_false_of_ne ht.2
  have hf : splitFirst? (· == '>') ('<' :: '/' :: (c :: others ++ '>' :: rest)) =
      some ('<' :: '/' :: c :: others, rest) := splitFirst?_append_cons hg (by simp) rest
  rw [next?, first, hk]
  simp only [upToGreater, hf]
  rfl

/-- The name in a start tag is read off its token. -/
theorem TagName.ofStart_written : ofStart ('<' :: written) = name := by
  obtain ⟨c, others, rfl, ha⟩ := hs.exists_cons_of_isTagName hn
  have hc : c ≠ '<' := ne_of_isAlpha ha (by decide)
  have hd : ('<' :: c :: others).dropWhile (· == '<') = c :: others := by simp [hc]
  rw [ofStart, hd, hs.ofList_lower hn]

/-- The name in an end tag is read off its token. -/
theorem TagName.ofEnd_written : ofEnd ('<' :: '/' :: (written ++ ['>'])) = name := by
  have hc := hs.isTagNameChar hn
  simp only [Content.isTagNameChar, Bool.and_eq_true, bne_iff_ne, ne_eq] at hc
  have hd : dropEndMarks ('<' :: '/' :: (written ++ ['>'])) = written ++ ['>'] := by
    obtain ⟨c, others, rfl, ha⟩ := hs.exists_cons_of_isTagName hn
    have hl : c ≠ '<' := ne_of_isAlpha ha (by decide)
    simp [dropEndMarks, hl]
  have ht : trimEnd (· == '>') (written ++ ['>']) = written :=
    trimEnd_append_of_forall (fun c hm => beq_false_of_ne (hc c hm).2) (by simp)
  have he : ∀ c ∈ written, isEndNameChar c = true :=
    fun c hm => by simp [isEndNameChar, (hc c hm).1]
  have hw := takeWhile_append_of_stops he (stops_nil isEndNameChar)
  rw [List.append_nil] at hw
  rw [ofEnd, hd, ht, hw, hs.ofList_lower hn]

end Tags

namespace Piece

variable {written : List Char} {name : String} (hs : Spells written name)
  (hn : isTagName name = true)

include hs hn

/-- A written start tag begins markup. -/
theorem atMarkup_startTag {inner : List Char} (hi : Stops Content.isTagNameChar inner) :
    AtMarkup ('<' :: (written ++ inner)) := by
  have ht := Content.next?_startTag hs hn hi
  rw [Content.next?, Option.some.injEq] at ht
  exact ⟨rfl, by rw [ht]; rfl⟩

/-- A written end tag begins markup. -/
theorem atMarkup_endTag (rest : List Char) : AtMarkup ('<' :: '/' :: (written ++ '>' :: rest)) := by
  have ht := Content.next?_endTag hs hn rest
  rw [Content.next?, Option.some.injEq] at ht
  exact ⟨rfl, by rw [ht]; rfl⟩

/-- A written start tag is the piece of its name, its inside and what belongs to it. -/
theorem next?_startTag {inner : List Char} (hi : Stops Content.isTagNameChar inner) :
    next? ('<' :: (written ++ inner)) = some (ofStartTag name inner) := by
  rw [next?, Content.next?_startTag hs hn hi, Option.map_some]
  simp only [ofToken, TagName.ofStart_written hs hn]

/-- A written end tag is the piece of its name. -/
theorem next?_endTag (rest : List Char) :
    next? ('<' :: '/' :: (written ++ '>' :: rest)) = some (.endTag name, rest) := by
  rw [next?, Content.next?_endTag hs hn rest, Option.map_some]
  simp only [ofToken, TagName.ofEnd_written hs hn]

end Piece

end ViewCode.Markup
