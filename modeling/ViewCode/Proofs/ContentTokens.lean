import ViewCode.Proofs.PieceReading

/-!
# Tokens of content as a relation

What the first token of content is can be said without a scanner: text runs up to the next `<`,
markup is known by the few characters it begins with, and it ends with its name, its `-->` or the
next `>`. The scanner finds exactly the token that this relation describes.
-/

namespace ViewCode.Markup.Content

open ViewCode.Text

/-- What markup of a kind begins with. -/
inductive Mark : Kind → List Char → Prop where
  | comment : Mark .comment ['<', '!', '-', '-']
  | declaration {c : Char} : c.isAlpha = true ∨ c = '[' → Mark .declaration ['<', '!', c]
  | processingInstruction : Mark .processingInstruction ['<', '?']
  | endTag {c : Char} : c.isAlpha = true → Mark .endTag ['<', '/', c]
  | startTag {c : Char} : c.isAlpha = true → Mark .startTag ['<', c]

/-- Whether markup of the kind is ended by the next `>`. -/
def Kind.isBounded : Kind → Bool
  | .declaration | .processingInstruction | .endTag => true
  | .comment | .startTag | .text | .lessThan | .unterminated => false

/-- What is ended by a `>` is not read as text. -/
theorem isText_of_isBounded {kind : Kind} (h : kind.isBounded = true) :
    Piece.isText kind = false := by
  cases kind with
  | declaration => rfl
  | processingInstruction => rfl
  | endTag => rfl
  | _ => exact absurd h Bool.false_ne_true

/-- What the first token of content is. -/
inductive Lexes : List Char → Token → List Char → Prop where
  /-- Text runs up to the next `<`. -/
  | text {run after : List Char} : run ≠ [] → '<' ∉ run → Stops (· != '<') after →
      Lexes (run ++ after) ⟨.text, run⟩ after
  /-- A `<` is a token of its own where no markup begins. -/
  | lessThan {after : List Char} :
      (∀ {kind mark more}, Mark kind mark → '<' :: after ≠ mark ++ more) →
      Lexes ('<' :: after) ⟨.lessThan, ['<']⟩ after
  /-- The beginning of a start tag ends with its name. -/
  | startTag {name after : List Char} {c : Char} : c.isAlpha = true →
      (∀ d ∈ name, isTagNameChar d = true) → Stops isTagNameChar after →
      Lexes ('<' :: c :: (name ++ after)) ⟨.startTag, '<' :: c :: name⟩ after
  /-- A comment runs up to its `-->`. -/
  | comment {text body after : List Char} : commentBody text = (body, after) →
      Lexes ('<' :: '!' :: '-' :: '-' :: text) ⟨.comment, '<' :: '!' :: '-' :: '-' :: body⟩ after
  /-- A declaration, a processing instruction and an end tag run up to the next `>`. -/
  | bounded {kind : Kind} {mark inner after : List Char} : Mark kind mark →
      kind.isBounded = true → '>' ∉ inner →
      Lexes (mark ++ (inner ++ '>' :: after)) ⟨kind, mark ++ (inner ++ ['>'])⟩ after
  /-- Without a `>` they run to the end of the input and are no markup. -/
  | unterminated {kind : Kind} {mark inner : List Char} : Mark kind mark →
      kind.isBounded = true → '>' ∉ inner → Lexes (mark ++ inner) ⟨.unterminated, mark ++ inner⟩ []

namespace Mark

variable {kind : Kind} {mark : List Char}

/-- Every mark begins with a `<`. -/
theorem exists_cons (h : Mark kind mark) : ∃ rest, mark = '<' :: rest := by
  cases h <;> exact ⟨_, rfl⟩

/-- By its mark markup is known. -/
theorem opening_append (h : Mark kind mark) (after : List Char) :
    opening (mark ++ after) = kind := by
  cases h with
  | comment => rfl
  | @declaration c hc =>
    have hd : c ≠ '-' := by
      rcases hc with hc | rfl
      · exact ne_of_isAlpha hc rfl
      · decide
    simp [opening, hd, hc]
  | processingInstruction => rfl
  | endTag hc => exact opening_end_of_isAlpha hc after
  | startTag hc => exact opening_of_isAlpha hc after

/-- No mark has a `<` but its first character, and none has a `>`. -/
theorem not_mem (h : Mark kind mark) : '<' ∉ mark.tail ∧ '>' ∉ mark := by
  have hn : ∀ c d : Char, c.isAlpha = true → d.isAlpha = false → d ≠ c :=
    fun c d hc hd => (ne_of_isAlpha hc hd).symm
  cases h with
  | comment => decide
  | declaration hc =>
    rcases hc with hc | rfl
    · simp [hn _ _ hc]
    · decide
  | processingInstruction => decide
  | endTag hc => simp [hn _ _ hc]
  | startTag hc => simp [hn _ _ hc]

/-- Markup has no `>` before the one that ends it. -/
theorem not_mem_append {inner : List Char} (h : Mark kind mark) (hg : '>' ∉ inner) :
    '>' ∉ mark ++ inner := by
  simp [h.not_mem.2, hg]

/-- What begins with a mark begins with a `<`. -/
theorem less_isPrefix (h : Mark kind mark) (more : List Char) : ['<'] <+: mark ++ more := by
  obtain ⟨rest, rfl⟩ := h.exists_cons
  exact ⟨rest ++ more, rfl⟩

end Mark

/-- The first token and what comes after make up the content. -/
theorem Lexes.eq_append {content after : List Char} {token : Token}
    (h : Lexes content token after) : content = token.lexeme ++ after := by
  cases h with
  | @comment text body after hb =>
    have ha := commentBody_append text
    rw [hb] at ha
    simp [← ha]
  | _ => simp

/-- Where no markup begins, a `<` begins nothing. -/
theorem opening_eq_lessThan {after : List Char}
    (h : ∀ {kind mark more}, Mark kind mark → '<' :: after ≠ mark ++ more) :
    opening ('<' :: after) = .lessThan := by
  generalize hc : '<' :: after = content at h ⊢
  fun_cases opening content with
  | case1 rest => exact absurd rfl (h .comment)
  | case2 c rest _ ha => exact absurd rfl (h (.declaration (by simpa using ha)))
  | case3 => rfl
  | case4 rest => exact absurd rfl (h .processingInstruction)
  | case5 c rest ha => exact absurd rfl (h (.endTag ha))
  | case6 => rfl
  | case7 c rest _ _ _ _ ha => exact absurd rfl (h (.startTag ha))
  | case8 => rfl
  | case9 => rfl
  | case10 _ _ _ _ _ hl hn =>
    cases after with
    | nil => exact absurd hc.symm hn
    | cons c rest => exact absurd hc.symm (hl c rest)

/-- A token that is ended by the next `>` is looked for where it begins. -/
theorem next?_of_isBounded {kind : Kind} {mark : List Char} (hm : Mark kind mark)
    (hk : kind.isBounded = true) (more : List Char) :
    next? (mark ++ more) = some (upToGreater kind (mark ++ more)) := by
  have ho := hm.opening_append more
  obtain ⟨rest, rfl⟩ := hm.exists_cons
  rw [List.cons_append] at ho ⊢
  rw [next?, first, ho]
  cases kind with
  | declaration => rfl
  | processingInstruction => rfl
  | endTag => rfl
  | _ => exact absurd hk Bool.false_ne_true

theorem next?_of_lexes {content after : List Char} {token : Token}
    (h : Lexes content token after) : next? content = some (token, after) := by
  cases h with
  | text hn hl hs => exact next?_of_stops hn hl hs
  | lessThan hm => rw [next?, first, opening_eq_lessThan hm]
  | startTag hc hn hs =>
    have hca := isTagNameChar_of_isAlpha hc
    rw [next?, first, opening_of_isAlpha hc]
    simp only [List.takeWhile_cons_of_pos hca, List.dropWhile_cons_of_pos hca,
      takeWhile_append_of_stops hn hs, dropWhile_append_of_stops hn hs]
  | comment hb => simp [next?, first, opening, hb]
  | @bounded kind mark inner after hm hk hg =>
    have hn : ∀ c ∈ mark ++ inner, (c == '>') = false := by
      intro c hc
      refine beq_false_of_ne fun e => ?_
      subst e
      exact hm.not_mem_append hg hc
    have hs := splitFirst?_append_cons hn (by simp : ('>' == '>') = true) after
    rw [List.append_assoc] at hs
    rw [next?_of_isBounded hm hk, upToGreater, hs]
    simp
  | @unterminated kind mark inner hm hk hg =>
    have hn := hm.not_mem_append hg
    have hs : splitFirst? (· == '>') (mark ++ inner) = none := by
      cases hs : splitFirst? (· == '>') (mark ++ inner) with
      | none => rfl
      | some split =>
        obtain ⟨c, hc, ha⟩ := splitFirst?_append hs
        obtain rfl : c = '>' := by simpa using hc
        rw [ha] at hn
        simp at hn
    rw [next?_of_isBounded hm hk, upToGreater, hs]

theorem exists_lexes_of_mark {kind : Kind} {mark : List Char} (hm : Mark kind mark)
    (more : List Char) : ∃ token after, Lexes (mark ++ more) token after := by
  have hb : kind.isBounded = true → ∃ token after, Lexes (mark ++ more) token after := by
    intro hk
    by_cases hg : '>' ∈ more
    · obtain ⟨inner, after, rfl, hi⟩ := List.eq_append_cons_of_mem hg
      exact ⟨_, _, .bounded hm hk hi⟩
    · exact ⟨_, _, .unterminated hm hk hg⟩
  cases hm with
  | comment => exact ⟨_, _, .comment (Prod.mk.eta (p := commentBody more)).symm⟩
  | startTag hc =>
    obtain ⟨name, hn, ht⟩ := exists_run isTagNameChar more
    have hl := Lexes.startTag hc hn (stops_dropWhile isTagNameChar more)
    rw [← ht] at hl
    exact ⟨_, _, hl⟩
  | declaration => exact hb rfl
  | processingInstruction => exact hb rfl
  | endTag => exact hb rfl

/-- Content that is not empty has a first token. -/
theorem exists_lexes {content : List Char} (hc : content ≠ []) :
    ∃ token after, Lexes content token after := by
  by_cases hm : ∃ kind mark more, Mark kind mark ∧ content = mark ++ more
  · obtain ⟨kind, mark, more, hm, rfl⟩ := hm
    exact exists_lexes_of_mark hm more
  · obtain ⟨c, rest, rfl⟩ := List.exists_cons_of_ne_nil hc
    by_cases hl : c = '<'
    · subst hl
      exact ⟨_, _, .lessThan fun hmark he => hm ⟨_, _, _, hmark, he⟩⟩
    · obtain ⟨run, hr, ht⟩ := exists_run (· != '<') rest
      rw [ht, ← List.cons_append]
      refine ⟨_, _, .text (List.cons_ne_nil c run) ?_ (stops_dropWhile (· != '<') rest)⟩
      intro hmem
      rcases List.mem_cons.1 hmem with he | he
      · exact hl he.symm
      · simpa using hr '<' he

/-- The first token of content is what the relation says. -/
theorem next?_eq_some_iff {content after : List Char} {token : Token} :
    next? content = some (token, after) ↔ Lexes content token after := by
  refine ⟨fun h => ?_, next?_of_lexes⟩
  have hn : content ≠ [] := by
    rintro rfl
    simp [next?] at h
  obtain ⟨found, left, hl⟩ := exists_lexes hn
  have he := next?_of_lexes hl
  rw [h] at he
  cases he
  exact hl

end ViewCode.Markup.Content
