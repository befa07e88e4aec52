import ViewCode.Proofs.AttributeForms
import ViewCode.Proofs.ContentTokens
import ViewCode.Proofs.RawElements

/-!
# Locality of reading

A tag ends with its `>`, a comment with `-->`, a raw-text element with its end tag. What is read up
to there is the same whatever comes after. So reading takes a part of the markup that has a `>` in
it and can be cut behind that part; only text, and what is never ended, has its end where something
else begins.
-/

namespace ViewCode.Text

/-- Whether a text stops a class is seen at its first character. -/
theorem Stops.append {p : Char → Bool} {text rest : List Char} (h : Stops p (text ++ rest))
    (hn : text ≠ []) (other : List Char) : Stops p (text ++ other) := by
  obtain ⟨c, others, rfl⟩ := List.exists_cons_of_ne_nil hn
  exact stops_cons (h c rfl) _

/-- A text that begins with what a character is not in begins with it before that character. -/
theorem exists_append_of_not_mem {c : Char} {text front rest after : List Char} (hc : c ∉ front)
    (h : text ++ c :: rest = front ++ after) :
    ∃ more, text = front ++ more ∧ after = more ++ c :: rest := by
  rcases List.append_eq_append_iff.1 h with ⟨beyond, hf, ha⟩ | ⟨more, ht, ha⟩
  · cases beyond with
    | nil => exact ⟨[], by simpa using hf.symm, by simpa using ha.symm⟩
    | cons d others =>
      obtain ⟨rfl, -⟩ := List.cons.inj ha
      rw [hf] at hc
      simp at hc
  · exact ⟨more, ht, ha⟩

end ViewCode.Text

namespace ViewCode.Markup

open ViewCode.Text

/-- Reading takes a part of the text that has a `>` in it, and takes that part whatever comes after
it. -/
def Takes (reads : List Char → List Char → Prop) (text left : List Char) : Prop :=
  ∃ taken, '>' ∈ taken ∧ text = taken ++ left ∧ ∀ other, reads (taken ++ other) other

/-- Reading leads from the text to what comes after, and takes the same part of the text as long as
a part of what comes after stays that has a `>` in it. -/
def Passes (reads : List Char → List Char → Prop) (text after : List Char) : Prop :=
  ∀ kept left, '>' ∈ kept → after = kept ++ left →
    ∃ taken, text = taken ++ (kept ++ left) ∧
      ∀ other, reads (taken ++ (kept ++ other)) (kept ++ other)

/-- What is passed before something that is taken is taken with it. -/
theorem Passes.takes {first second both : List Char → List Char → Prop}
    {text after left : List Char} (hp : Passes first text after) (ht : Takes second after left)
    (hb : ∀ {text after left}, first text after → second after left → both text left) :
    Takes both text left := by
  obtain ⟨kept, hg, rfl, ho⟩ := ht
  obtain ⟨taken, rfl, hf⟩ := hp kept left hg rfl
  refine ⟨taken ++ kept, List.mem_append_right taken hg, by simp, fun other => ?_⟩
  rw [List.append_assoc]
  exact hb (hf other) (ho other)

namespace Takes

variable {reads : List Char → List Char → Prop} {text left : List Char}

theorem mono {wider : List Char → List Char → Prop} (h : Takes reads text left)
    (hw : ∀ {text left}, reads text left → wider text left) : Takes wider text left := by
  obtain ⟨taken, hg, ht, ho⟩ := h
  exact ⟨taken, hg, ht, fun other => hw (ho other)⟩

/-- What is taken is passed. -/
theorem passes (h : Takes reads text left) : Passes reads text left := by
  rintro kept rest - rfl
  obtain ⟨taken, -, ht, ho⟩ := h
  exact ⟨taken, ht, fun other => ho (kept ++ other)⟩

end Takes

namespace Tag

/-- Whether a token of the kind ends the tag. -/
def Kind.isEnd : Kind → Bool
  | .close | .selfClose => true
  | .equals | .doubleQuoted | .singleQuoted | .name | .slash | .stray | .unterminated => false

/-- A quoted string that is ended is the same whatever comes after it. -/
theorem quotedToken_append {kind : Kind} {quote : Char} {rest kept left : List Char}
    {token : Token} (h : quotedToken kind quote rest = (token, kept ++ left)) (hk : kept ≠ []) :
    ∃ run, rest = run ++ (kept ++ left) ∧
      ∀ other, quotedToken kind quote (run ++ (kept ++ other)) = (token, kept ++ other) := by
  unfold quotedToken at h
  split at h
  · rename_i inner after hs
    obtain ⟨rfl, rfl⟩ := Prod.mk.inj h
    obtain ⟨d, hd, rfl⟩ := splitFirst?_append hs
    have hi := forall_mem_of_splitFirst? hs
    refine ⟨inner ++ [d], by simp, fun other => ?_⟩
    have hf := splitFirst?_append_cons hi hd (kept ++ other)
    simp [quotedToken, hf]
  · obtain ⟨-, hn⟩ := Prod.mk.inj h
    simp [hk] at hn

/-- A quoted string does not end the tag. -/
theorem isEnd_quotedToken (quote : Char) (rest : List Char) :
    (quotedToken .doubleQuoted quote rest).1.kind.isEnd = false ∧
      (quotedToken .singleQuoted quote rest).1.kind.isEnd = false := by
  unfold quotedToken
  split <;> exact ⟨rfl, rfl⟩

/-- A token of a tag is the same whatever comes after the text that is kept behind it. Behind the
end of the tag nothing has to be kept. -/
theorem first_append {c : Char} {rest kept left : List Char} {token : Token}
    (h : first c rest = (token, kept ++ left)) (hk : token.kind.isEnd = false → kept ≠ []) :
    ∃ run, (token.kind.isEnd = true → '>' ∈ c :: run) ∧ rest = run ++ (kept ++ left) ∧
      ∀ other, first c (run ++ (kept ++ other)) = (token, kept ++ other) := by
  revert h
  fun_cases first c rest with
  | case1 _ hc =>
    intro h
    obtain ⟨rfl, rfl⟩ := Prod.mk.inj h
    exact ⟨[], fun _ => by simp [hc], rfl, fun other => by simp [first, hc]⟩
  | case2 _ _ hc =>
    intro h
    obtain ⟨rfl, rfl⟩ := Prod.mk.inj h
    exact ⟨[], fun he => absurd he Bool.false_ne_true, rfl, fun other => by simp [first, hc]⟩
  | case3 _ _ hc =>
    intro h
    obtain ⟨rfl, rfl⟩ := Prod.mk.inj h
    exact ⟨['>'], fun _ => by simp, rfl, fun other => by simp [first, hc]⟩
  | case4 _ _ _ hc hn =>
    intro h
    obtain ⟨rfl, rfl⟩ := Prod.mk.inj h
    obtain ⟨d, others, rfl⟩ := List.exists_cons_of_ne_nil (hk rfl)
    have hd : d ≠ '>' := fun e => hn _ (by rw [e]; rfl)
    exact ⟨[], fun he => absurd he Bool.false_ne_true, rfl, fun other => by simp [first, hc, hd]⟩
  | case5 _ _ _ _ hc =>
    intro h
    have he := (isEnd_quotedToken c rest).1
    rw [h] at he
    obtain ⟨run, hr, ho⟩ := quotedToken_append h (hk he)
    exact ⟨run, fun ht => absurd ht (by simp [he]), hr, fun other => by
      simpa [first, hc] using ho other⟩
  | case6 _ _ _ _ _ hc =>
    intro h
    have he := (isEnd_quotedToken c rest).2
    rw [h] at he
    obtain ⟨run, hr, ho⟩ := quotedToken_append h (hk he)
    exact ⟨run, fun ht => absurd ht (by simp [he]), hr, fun other => by
      simpa [first, hc] using ho other⟩
  | case7 _ _ _ _ _ _ hc =>
    intro h
    obtain ⟨rfl, ha⟩ := Prod.mk.inj h
    have hs : Stops isNameChar (kept ++ left) := ha ▸ stops_dropWhile isNameChar rest
    have hr : ∀ d ∈ rest.takeWhile isNameChar, isNameChar d = true :=
      fun d hd => List.mem_takeWhile_imp hd
    refine ⟨rest.takeWhile isNameChar, fun he => absurd he Bool.false_ne_true, ?_, fun other => ?_⟩
    · rw [← ha, List.takeWhile_append_dropWhile]
    · have ho := hs.append (hk rfl) other
      rw [first_of_isNameChar hc, takeWhile_append_of_stops hr ho,
        dropWhile_append_of_stops hr ho]
  | case8 _ hg he hs hd hq hc =>
    intro h
    obtain ⟨rfl, rfl⟩ := Prod.mk.inj h
    exact ⟨[], fun ht => absurd ht Bool.false_ne_true, rfl, fun other => by
      simp [first, hg, he, hs, hd, hq, hc]⟩

/-- The first token of a tag, with the blanks before it, is the same whatever comes after the text
that is kept behind it. -/
theorem next?_append {text kept left : List Char} {token : Token}
    (h : next? text = some (token, kept ++ left))
    (hk : token.kind.isEnd = false → kept ≠ []) :
    ∃ taken, (token.kind.isEnd = true → '>' ∈ taken) ∧ text = taken ++ (kept ++ left) ∧
      ∀ other, next? (taken ++ (kept ++ other)) = some (token, kept ++ other) := by
  unfold next? at h
  split at h
  · simp at h
  · rename_i c rest hd
    obtain ⟨run, he, hr, ho⟩ := first_append (Option.some.inj h) hk
    have hb : ∀ d ∈ text.takeWhile isTagBlank, isTagBlank d = true :=
      fun d hm => List.mem_takeWhile_imp hm
    have hs : Stops isTagBlank (c :: rest) := hd ▸ stops_dropWhile isTagBlank text
    refine ⟨text.takeWhile isTagBlank ++ c :: run, ?_, ?_, fun other => ?_⟩
    · exact fun hend => List.mem_append_right _ (he hend)
    · rw [List.append_assoc, List.cons_append, ← hr, ← hd, List.takeWhile_append_dropWhile]
    · have hso : Stops isTagBlank (c :: (run ++ (kept ++ other))) := stops_cons (hs c rfl) _
      rw [List.append_assoc, List.cons_append, next?, dropWhile_append_of_stops hb hso]
      exact congrArg some (ho other)

/-- What the value after an equals sign is, behind blanks, and what comes after it. -/
inductive Gives : List Char → List Char → List Char → Prop where
  /-- A `>` in place of the value makes it empty and is left. -/
  | greater {blanks rest : List Char} : (∀ c ∈ blanks, isBlank c = true) →
      Gives (blanks ++ '>' :: rest) [] (blanks ++ '>' :: rest)
  /-- A value in quotes ends with its quote. -/
  | quoted {blanks content rest : List Char} {quote : Char} :
      (∀ c ∈ blanks, isBlank c = true) → quote = '\x22' ∨ quote = '\x27' → quote ∉ content →
      Gives (blanks ++ quote :: (content ++ quote :: rest)) content rest
  /-- A value without quotes ends where something comes that cannot stand in it. -/
  | unquoted {blanks content rest : List Char} :
      (∀ c ∈ blanks, isBlank c = true) → content ≠ [] → (∀ c ∈ content, isBareChar c = true) →
      content.head? ∉ [some '\x22', some '\x27'] → Stops isBareChar rest →
      Gives (blanks ++ (content ++ rest)) content rest

/-- The value is the one that is given. -/
theorem value_of_gives {text content after : List Char} (h : Gives text content after) :
    value text = (some content, after) := by
  cases h with
  | greater hb =>
    rw [value, dropWhile_append_of_stops hb (stops_cons (by decide) _)]
    rfl
  | quoted hb hq hc => exact value_quoted hq hb hc after
  | unquoted hb hn hc hq hs => exact value_unquoted hb hn hc hq hs

/-- A value that is found is given. -/
theorem gives_of_value {text content after : List Char} (h : value text = (some content, after)) :
    Gives text content after := by
  obtain ⟨blanks, hb, ht⟩ := exists_run isBlank text
  have hs := stops_dropWhile isBlank text
  unfold value at h
  split at h
  · simp at h
  · rename_i c rest hd
    rw [hd] at ht hs
    split at h
    · rename_i hg
      obtain ⟨hn, rfl⟩ := Prod.mk.inj h
      obtain rfl := Option.some.inj hn
      rw [ht, hg]
      exact .greater hb
    · rename_i hg
      split at h
      · rename_i hq
        split at h
        · rename_i inner left hsplit
          obtain ⟨hn, rfl⟩ := Prod.mk.inj h
          obtain rfl := Option.some.inj hn
          obtain ⟨d, hdc, rfl⟩ := splitFirst?_append hsplit
          obtain rfl : d = c := by simpa using hdc
          have hi : d ∉ inner := fun hm => by simpa using forall_mem_of_splitFirst? hsplit d hm
          rw [ht]
          exact .quoted hb hq hi
        · simp at h
      · rename_i hq
        obtain ⟨hn, rfl⟩ := Prod.mk.inj h
        obtain rfl := Option.some.inj hn
        have hbare : ∀ d ∈ c :: rest.takeWhile isBareChar, isBareChar d = true := by
          refine List.forall_mem_cons.2 ⟨?_, fun d hm => List.mem_takeWhile_imp hm⟩
          simp [isBareChar, hs c rfl, hg]
        have hu := Gives.unquoted hb (List.cons_ne_nil _ _) hbare (by simpa using hq)
          (stops_dropWhile isBareChar rest)
        rwa [List.cons_append, List.takeWhile_append_dropWhile, ← ht] at hu

/-- A value is passed: it is the same whatever comes after a `>` behind it. -/
theorem passes_value {text after content : List Char} (h : value text = (some content, after)) :
    Passes (fun text after => value text = (some content, after)) text after := by
  rintro kept left hk ha
  have hg := gives_of_value h
  cases hg with
  | @greater blanks rest hb =>
    refine ⟨[], ha, fun other => value_of_gives ?_⟩
    -- The first `>` that is kept is the one in place of the value.
    obtain ⟨first, second, rfl⟩ := List.append_of_mem hk
    have hn : '>' ∉ blanks := fun hm => absurd (hb '>' hm) (by decide)
    rw [List.append_assoc, List.cons_append] at ha
    obtain ⟨more, rfl, hm⟩ := exists_append_of_not_mem hn ha.symm
    obtain ⟨behind, he⟩ : ∃ behind, more ++ '>' :: (second ++ other) = '>' :: behind := by
      cases more with
      | nil => exact ⟨_, rfl⟩
      | cons d others =>
        obtain ⟨rfl, -⟩ := List.cons.inj hm
        exact ⟨_, rfl⟩
    simp only [List.nil_append, List.append_assoc, List.cons_append, he]
    exact .greater hb
  | @quoted blanks content rest quote hb hq hc =>
    subst ha
    refine ⟨blanks ++ quote :: (content ++ [quote]), by simp, fun other => value_of_gives ?_⟩
    have ho : Gives (blanks ++ quote :: (content ++ quote :: (kept ++ other))) _ _ :=
      .quoted hb hq hc
    simpa using ho
  | @unquoted blanks content rest hb hn hc hq hs =>
    subst ha
    refine ⟨blanks ++ content, by simp, fun other => value_of_gives ?_⟩
    rw [List.append_assoc]
    exact .unquoted hb hn hc hq (hs.append (List.ne_nil_of_mem hk) other)

/-- Nothing but blanks is left where a value is missing. -/
theorem isBlank_of_value_none {text left : List Char} (h : value text = (none, left)) :
    ∀ c ∈ left, isBlank c = true := by
  unfold value at h
  split at h
  · rename_i hd
    obtain ⟨-, rfl⟩ := Prod.mk.inj h
    exact List.dropWhile_eq_nil_iff.1 hd
  · split at h
    · simp at h
    · split at h
      · split at h
        · simp at h
        · obtain ⟨-, rfl⟩ := Prod.mk.inj h
          exact List.forall_mem_nil _
      · simp at h

/-- Nothing but blanks is left behind a tag without an end. -/
theorem isBlank_of_readOn_none {pending : Option String} {attributes : Attributes}
    {text left : List Char} (h : readOn pending attributes text = (none, left)) :
    ∀ c ∈ left, isBlank c = true := by
  revert h
  fun_induction readOn pending attributes text with
  | case1 =>
    rintro ⟨⟩
    exact List.forall_mem_nil _
  | case2 => simp
  | case3 => simp
  | case4 _ _ _ _ _ _ _ _ ih => exact ih
  | case5 _ _ _ _ after _ _ _ rest hv =>
    rintro ⟨⟩
    exact isBlank_of_value_none hv
  | case6 _ _ _ _ _ _ _ _ _ _ _ _ ih => exact ih
  | _ => rename_i ih; exact ih

/-- A token of a tag is passed. -/
theorem passes_next? {text after : List Char} {token : Token}
    (h : next? text = some (token, after)) :
    Passes (fun text after => next? text = some (token, after)) text after := by
  rintro kept left hg rfl
  obtain ⟨taken, -, ht, ho⟩ := next?_append h fun _ => List.ne_nil_of_mem hg
  exact ⟨taken, ht, ho⟩

/-- The token that ends a tag is taken. -/
theorem takes_of_isEnd {reads : List Char → List Char → Prop} {text left : List Char}
    {token : Token} (hn : next? text = some (token, left)) (he : token.kind.isEnd = true)
    (hr : ∀ {text left}, next? text = some (token, left) → reads text left) :
    Takes reads text left := by
  rw [← List.nil_append left] at hn
  obtain ⟨taken, hg, ht, ho⟩ := next?_append hn fun hf => absurd he (by simp [hf])
  exact ⟨taken, hg he, ht, fun other => hr (ho other)⟩

/-- A tag is taken up to its end. -/
theorem takes_readOn {pending : Option String} {attributes : Attributes} {text left : List Char}
    {tag : Tag} (h : readOn pending attributes text = (some tag, left)) :
    Takes (fun text left => readOn pending attributes text = (some tag, left)) text left := by
  revert h
  fun_induction readOn pending attributes text with
  | case1 => simp
  | case2 pending attributes text token after hn _ hk =>
    rintro ⟨⟩
    refine takes_of_isEnd hn (by rw [hk]; rfl) fun hn => ?_
    rw [readOn_of_next? hn, hk]
  | case3 pending attributes text token after hn _ hk =>
    rintro ⟨⟩
    refine takes_of_isEnd hn (by rw [hk]; rfl) fun hn => ?_
    rw [readOn_of_next? hn, hk]
  | case4 pending attributes text token after hn _ hk ih =>
    intro h
    refine (passes_next? hn).takes (ih h) fun hn hr => ?_
    rw [readOn_of_next? hn, hk]
    exact hr
  | case5 => simp
  | case6 pending attributes text token after hn _ hk content rest hv _ ih =>
    intro h
    have hvr : Takes (fun text left => ∃ rest, value text = (some content, rest) ∧
        readOn none (withValue pending attributes content) rest = (some tag, left)) after left :=
      (passes_value hv).takes (ih h) fun hv hr => ⟨_, hv, hr⟩
    refine (passes_next? hn).takes hvr fun hn hboth => ?_
    obtain ⟨rest, hv, hr⟩ := hboth
    rw [readOn_of_next? hn, hk]
    simp only [hv]
    exact hr
  | _ =>
    rename_i hn _ hk ih
    intro h
    refine (passes_next? hn).takes (ih h) fun hn hr => ?_
    rw [readOn_of_next? hn, hk]
    exact hr

end Tag

namespace Content

/-- A mark does not reach beyond the `<` after that at its front. -/
theorem Mark.exists_append {kind : Kind} {mark kept tail more : List Char} (h : Mark kind mark)
    (ht : Stops (· != '<') tail) (he : '<' :: (kept ++ tail) = mark ++ more) :
    ∃ more, '<' :: kept = mark ++ more := by
  obtain ⟨rest, rfl⟩ := h.exists_cons
  have hk := (List.cons.inj he).2
  cases tail with
  | nil => exact ⟨more, by simpa using hk⟩
  | cons c others =>
    obtain rfl : c = '<' := by simpa using ht c rfl
    obtain ⟨middle, rfl, -⟩ := exists_append_of_not_mem h.not_mem.1 hk
    exact ⟨middle, rfl⟩

namespace Lexes

/-- A token that is read as text, and does not end the input, is the same where the content is cut
before a later `<`, and so is what comes after the token. -/
theorem cut {content kept others tail : List Char} {token : Token}
    (h : Lexes content token (kept ++ '<' :: others)) (hk : Piece.isText token.kind = true)
    (ht : Stops (· != '<') tail) : Lexes (token.lexeme ++ (kept ++ tail)) token (kept ++ tail) := by
  generalize ha : kept ++ '<' :: others = after at h
  cases h with
  | text hn hl hs =>
    refine .text hn hl ?_
    cases kept with
    | nil => exact ht
    | cons c more => exact (ha ▸ hs).append (List.cons_ne_nil c more) tail
  | lessThan hm =>
    refine .lessThan fun hmark he => ?_
    obtain ⟨more, hmore⟩ := hmark.exists_append ht he
    have hl := congrArg (· ++ '<' :: others) hmore
    rw [List.cons_append, ha, List.append_assoc] at hl
    exact hm hmark hl
  | unterminated => simp at ha
  | startTag => exact absurd hk Bool.false_ne_true
  | comment => exact absurd hk Bool.false_ne_true
  | bounded _ hb =>
    rw [isText_of_isBounded hb] at hk
    exact absurd hk Bool.false_ne_true

/-- The beginning of a start tag is passed. -/
theorem passes {content after : List Char} {token : Token} (h : Lexes content token after)
    (hk : token.kind = .startTag) : Passes (fun content => Lexes content token) content after := by
  rintro kept left hg rfl
  refine ⟨token.lexeme, h.eq_append, fun other => ?_⟩
  generalize ha : kept ++ left = after at h
  cases h with
  | startTag hc hn hs => exact .startTag hc hn ((ha ▸ hs).append (List.ne_nil_of_mem hg) other)
  | @bounded kind _ _ _ _ hb =>
    obtain rfl : kind = .startTag := hk
    exact absurd hb Bool.false_ne_true
  | _ => simp at hk

end Lexes

/-- A comment is taken up to its end. -/
theorem takes_commentBody {text body left : List Char} (h : commentBody text = (body, left))
    (hl : left ≠ []) : Takes (fun text left => commentBody text = (body, left)) text left := by
  revert h
  fun_induction commentBody text generalizing body with
  | case1 =>
    rintro ⟨⟩
    exact absurd rfl hl
  | case2 after =>
    rintro ⟨⟩
    exact ⟨['-', '-', '>'], by simp, rfl, fun _ => rfl⟩
  | case3 c rest hn ih =>
    rintro ⟨⟩
    obtain ⟨taken, hg, hr, ho⟩ := ih rfl
    refine ⟨c :: taken, List.mem_cons_of_mem c hg, by rw [List.cons_append, ← hr], fun other => ?_⟩
    -- What is taken has a `>`, so a `-->` at its front would be one of the text.
    have hno : ∀ after, c = '-' → taken ++ other = '-' :: '>' :: after → False := by
      intro after hc he
      rcases taken with _ | ⟨d, _ | ⟨e, more⟩⟩
      · simp at hg
      · obtain ⟨rfl, -⟩ := List.cons.inj he
        simp at hg
      · obtain ⟨rfl, rfl, -⟩ : d = '-' ∧ e = '>' ∧ more ++ other = after := by simpa using he
        exact hn _ hc hr
    have hs := commentBody.eq_3 c _ hno
    rw [ho other] at hs
    exact hs

/-- Markup other than a start tag is taken if something comes after it. -/
theorem Lexes.takes {content left : List Char} {token : Token} (h : Lexes content token left)
    (hk : token.kind = .comment ∨ token.kind.isBounded = true) (hl : left ≠ []) :
    Takes (fun content => Lexes content token) content left := by
  cases h with
  | comment hb =>
    obtain ⟨taken, hg, rfl, ho⟩ := takes_commentBody hb hl
    exact ⟨'<' :: '!' :: '-' :: '-' :: taken, by simp [hg], rfl, fun other => .comment (ho other)⟩
  | @bounded kind mark inner after hm hb hi =>
    refine ⟨mark ++ (inner ++ ['>']), by simp, by simp, fun other => ?_⟩
    have ho : Lexes (mark ++ (inner ++ '>' :: other)) _ other := .bounded hm hb hi
    simpa using ho
  | _ => simp [Kind.isBounded] at hk

end Content

namespace RawText

/-- Whether an end tag begins the text is seen in any part of it that has a `>`. -/
theorem isEndTag_append {name text rest : List Char} (hn : '>' ∉ name) (hg : '>' ∈ text)
    (h : isEndTag name (text ++ rest) = true) (other : List Char) :
    isEndTag name (text ++ other) = true := by
  obtain ⟨before, behind, rfl⟩ := List.append_of_mem hg
  rw [List.append_assoc, List.cons_append] at h ⊢
  obtain ⟨written, after, ht, hw, he⟩ := isEndTag_iff.1 h
  have hnw : '>' ∉ '<' :: '/' :: written := by
    intro hm
    have hmap : '>'.toLower ∈ written.map Char.toLower := List.mem_map_of_mem (by simpa using hm)
    rw [hw] at hmap
    exact hn hmap
  obtain ⟨more, rfl, rfl⟩ := exists_append_of_not_mem hnw ht
  refine isEndTag_iff.2 ⟨written, more ++ '>' :: (behind ++ other), by simp, hw, ?_⟩
  cases more with
  | nil => rfl
  | cons c others => exact he

/-- Content that begins with the end tag is empty. -/
theorem upToEndTag_of_isEndTag {name run after : List Char}
    (h : isEndTag name (run ++ '>' :: after) = true) (hr : ∀ c ∈ run, (c != '>') = true) :
    upToEndTag name (run ++ '>' :: after) = ([], after) := by
  have hd : (run ++ '>' :: after).dropWhile (· != '>') = '>' :: after :=
    dropWhile_append_of_stops hr (stops_cons rfl after)
  generalize run ++ '>' :: after = text at h hd
  cases text with
  | nil => exact absurd h Bool.false_ne_true
  | cons c rest => rw [upToEndTag, if_pos h, hd, List.drop_one, List.tail_cons]

/-- The content of a raw-text element is taken with its end tag if something comes after that. -/
theorem takes_upToEndTag {name text content left : List Char} (hn : '>' ∉ name)
    (h : upToEndTag name text = (content, left)) (hl : left ≠ []) :
    Takes (fun text left => upToEndTag name text = (content, left)) text left := by
  induction text generalizing content with
  | nil =>
    cases h
    exact absurd rfl hl
  | cons c rest ih =>
    unfold upToEndTag at h
    split at h
    · rename_i he
      obtain ⟨rfl, hd⟩ := Prod.mk.inj h
      obtain ⟨run, hr, ht⟩ := exists_run (· != '>') (c :: rest)
      have hs := stops_dropWhile (· != '>') (c :: rest)
      cases hw : (c :: rest).dropWhile (· != '>') with
      | nil => exact absurd (by rw [← hd, hw]; rfl) hl
      | cons d after =>
        rw [hw] at hd hs ht
        obtain rfl : after = left := hd
        obtain rfl : d = '>' := by simpa using hs d rfl
        rw [ht, List.append_cons] at he
        refine ⟨run ++ ['>'], by simp, by rw [ht, List.append_cons], fun other => ?_⟩
        have hend := isEndTag_append hn (by simp) he other
        rw [← List.append_cons] at hend ⊢
        exact upToEndTag_of_isEndTag hend hr
    · rename_i he
      obtain ⟨rfl, hr⟩ := Prod.mk.inj h
      obtain ⟨taken, hg, rfl, ho⟩ := ih (Prod.ext rfl hr)
      have hgc := List.mem_cons_of_mem c hg
      refine ⟨c :: taken, hgc, rfl, fun other => ?_⟩
      have hne : ¬isEndTag name (c :: (taken ++ other)) = true :=
        fun hend => he (isEndTag_append hn hgc hend left)
      have hs := upToEndTag.eq_2 name c (taken ++ other)
      rw [if_neg hne, ho other] at hs
      exact hs

end RawText

namespace Piece

/-- The name of a raw-text element has no `>` in it. -/
theorem greater_not_mem_of_rawMode? {name : String} {mode : ContentModel.RawMode}
    (h : ContentModel.rawMode? name = some mode) : '>' ∉ name.toList := by
  unfold ContentModel.rawMode? at h
  split at h
  · rename_i hn
    rcases hn with rfl | rfl <;> decide
  · split at h
    · rename_i hn
      rcases hn with rfl | rfl <;> decide
    · simp at h

/-- What begins with a start tag is taken if something other than blanks comes after it. -/
theorem takes_ofStartTag {name : String} {content left : List Char} {piece : Piece}
    (h : ofStartTag name content = (piece, left)) (hl : ∃ c ∈ left, isBlank c = false) :
    Takes (fun content left => ofStartTag name content = (piece, left)) content left := by
  unfold ofStartTag at h
  split at h
  · rename_i rest hr
    obtain ⟨-, rfl⟩ := Prod.mk.inj h
    obtain ⟨c, hc, hb⟩ := hl
    have hblank := Tag.isBlank_of_readOn_none hr c hc
    rw [hb] at hblank
    exact absurd hblank Bool.false_ne_true
  · rename_i tag rest hr
    have ht := Tag.takes_readOn hr
    split at h
    · rename_i hm
      obtain ⟨rfl, rfl⟩ := Prod.mk.inj h
      refine ht.mono fun hr => ?_
      simp [ofStartTag, Tag.read, hr, hm]
    · rename_i mode hm
      split at h
      · rename_i hself
        obtain ⟨rfl, rfl⟩ := Prod.mk.inj h
        refine ht.mono fun hr => ?_
        simp [ofStartTag, Tag.read, hr, hm, hself]
      · rename_i hself
        obtain ⟨rfl, hu⟩ := Prod.mk.inj h
        have hne : left ≠ [] := by
          obtain ⟨c, hc, -⟩ := hl
          exact List.ne_nil_of_mem hc
        have hup : RawText.upToEndTag name.toList rest = (_, left) := Prod.ext rfl hu
        have hraw := RawText.takes_upToEndTag (greater_not_mem_of_rawMode? hm) hup hne
        refine ht.passes.takes hraw fun hr hu => ?_
        simp [ofStartTag, Tag.read, hr, hm, hself, hu]

/-- What is not read as text is a start tag, a comment, or ended by the next `>`. -/
theorem kind_of_not_isText {kind : Content.Kind} (h : isText kind = false) :
    kind = .startTag ∨ kind = .comment ∨ kind.isBounded = true := by
  cases kind with
  | startTag => exact .inl rfl
  | comment => exact .inr (.inl rfl)
  | declaration => exact .inr (.inr rfl)
  | processingInstruction => exact .inr (.inr rfl)
  | endTag => exact .inr (.inr rfl)
  | _ => exact absurd h.symm Bool.false_ne_true

/-- Markup other than a start tag is a piece by itself. -/
theorem exists_ofToken_eq {token : Content.Token}
    (h : token.kind = .comment ∨ token.kind.isBounded = true) :
    ∃ piece, ∀ after, ofToken token after = (piece, after) := by
  cases hk : token.kind with
  | comment => exact ⟨.ignored, fun after => by rw [ofToken, hk]⟩
  | declaration => exact ⟨.ignored, fun after => by rw [ofToken, hk]⟩
  | processingInstruction => exact ⟨.ignored, fun after => by rw [ofToken, hk]⟩
  | endTag => exact ⟨.endTag (TagName.ofEnd token.lexeme), fun after => by rw [ofToken, hk]⟩
  | _ => simp [hk, Content.Kind.isBounded] at h

/-- The content begins with markup, which is the piece. -/
def Begins (piece : Piece) (content left : List Char) : Prop :=
  ∃ token after, Content.Lexes content token after ∧ isText token.kind = false ∧
    ofToken token after = (piece, left)

/-- Markup begins with a `<`. -/
theorem Begins.exists_cons {piece : Piece} {content left : List Char}
    (h : Begins piece content left) : ∃ others, content = '<' :: others := by
  obtain ⟨token, after, hl, hk, -⟩ := h
  cases hl with
  | startTag => exact ⟨_, rfl⟩
  | comment => exact ⟨_, rfl⟩
  | bounded hm =>
    obtain ⟨rest, rfl⟩ := hm.exists_cons
    exact ⟨_, rfl⟩
  | _ => exact absurd hk.symm Bool.false_ne_true

/-- Markup is taken if something other than blanks comes after it. -/
theorem Begins.takes {piece : Piece} {content left : List Char} (h : Begins piece content left)
    (hl : ∃ c ∈ left, isBlank c = false) : Takes (Begins piece) content left := by
  obtain ⟨token, after, ht, hk, ho⟩ := h
  rcases kind_of_not_isText hk with hs | hm
  · have hof : ∀ after, ofToken token after = ofStartTag (TagName.ofStart token.lexeme) after := by
      intro after
      rw [ofToken, hs]
    rw [hof] at ho
    exact (ht.passes hs).takes (takes_ofStartTag ho hl) fun ht hp => ⟨token, _, ht, hk, hof _ ▸ hp⟩
  · obtain ⟨found, hof⟩ := exists_ofToken_eq hm
    rw [hof] at ho
    cases ho
    have hne : left ≠ [] := by
      obtain ⟨c, hc, -⟩ := hl
      exact List.ne_nil_of_mem hc
    exact (ht.takes hm hne).mono fun ht => ⟨token, _, ht, hk, hof _⟩

end Piece

end ViewCode.Markup
