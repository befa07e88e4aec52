import ViewCode.Proofs.ContentTokens

/-!
# The partition of content into tokens

The tokens of content are a partition of it: none is empty, and one after the other they are the
content again. What the characters of a token can be, and what can come after it, is said here for
each kind by looking at the finished tokens, without a rule for finding the next one. Content has
only one such partition, so the tokens are known from it.
-/

namespace ViewCode.Markup.Content

open ViewCode.Text

/-- What a comment is ended by. -/
abbrev commentEnd : List Char := ['-', '-', '>']

/-- The text ends with the mark and has it nowhere before. -/
structure EndsWithFirst (mark text : List Char) : Prop where
  /-- The mark stands at the end. -/
  isSuffix : mark <:+ text
  /-- Wherever the mark stands, nothing comes after it. -/
  eq_nil : ∀ {before after : List Char}, text = before ++ (mark ++ after) → after = []

/-- The characters of tokens, one after the other. -/
def characters (parts : List Token) : List Char :=
  parts.flatMap (·.lexeme)

/-- Whether a token of the kind can have the characters, with the given tokens after it. -/
def Kind.Admits (lexeme : List Char) (later : List Token) : Kind → Prop
  -- Text has no `<`, and the next token is no text.
  | .text => '<' ∉ lexeme ∧ ∀ next ∈ later.head?, next.kind ≠ .text
  -- A `<` is a token of its own only where no markup begins.
  | .lessThan =>
    lexeme = ['<'] ∧ ∀ {kind mark}, Mark kind mark → ¬mark <+: '<' :: characters later
  -- The beginning of a start tag goes on to the end of the name.
  | .startTag =>
    ∃ c name, lexeme = '<' :: c :: name ∧ c.isAlpha = true ∧
      (∀ d ∈ name, isTagNameChar d = true) ∧ Stops isTagNameChar (characters later)
  -- Behind `<!--` a comment has one `-->`, at its end, or it has none and is the last token.
  | .comment =>
    ∃ body, lexeme = '<' :: '!' :: '-' :: '-' :: body ∧
      (EndsWithFirst commentEnd body ∨ ¬commentEnd <:+: body ∧ later = [])
  -- What lacks its `>` has none anywhere and is the last token.
  | .unterminated =>
    '>' ∉ lexeme ∧ later = [] ∧
      ∃ kind mark, kind.isBounded = true ∧ Mark kind mark ∧ mark <+: lexeme
  -- A declaration, a processing instruction and an end tag have one `>`, at their end.
  | kind =>
    ∃ inner, lexeme = inner ++ ['>'] ∧ '>' ∉ inner ∧ ∃ mark, Mark kind mark ∧ mark <+: inner

/-- What holds of a token with the given tokens after it. -/
structure Token.Fits (token : Token) (later : List Token) : Prop where
  /-- No token is empty. -/
  ne_nil : token.lexeme ≠ []
  /-- What is not text begins with a `<`. -/
  less : token.kind ≠ .text → ['<'] <+: token.lexeme
  /-- The characters are such as its kind admits. -/
  admits : token.kind.Admits token.lexeme later

/-- The tokens are the content, cut into parts that fit one another. -/
structure IsPartition (content : List Char) (parts : List Token) : Prop where
  /-- Nothing is lost, added or moved. -/
  characters_eq : characters parts = content
  /-- Each token fits the tokens after it. -/
  fits : ∀ {token later}, token :: later <:+ parts → token.Fits later

/-- The front of a text goes up to its first mark, or there is no mark and nothing is left. -/
def UpToFirst (mark front left : List Char) : Prop :=
  EndsWithFirst mark front ∨ ¬mark <:+: front ∧ left = []

/-- What goes up to the first mark does not go on. -/
theorem UpToFirst.eq_nil {mark front more left : List Char}
    (hf : UpToFirst mark front (more ++ left)) (hm : UpToFirst mark (front ++ more) left) :
    more = [] := by
  rcases hf with ⟨⟨inner, rfl⟩, -⟩ | ⟨-, hnil⟩
  · rcases hm with hm | ⟨hno, -⟩
    · exact hm.eq_nil (List.append_assoc inner mark more)
    · exact absurd ⟨inner, more, rfl⟩ hno
  · exact (List.append_eq_nil_iff.1 hnil).1

/-- A comment goes up to its first `-->`. -/
theorem upToFirst_commentBody (text : List Char) :
    UpToFirst commentEnd (commentBody text).1 (commentBody text).2 := by
  fun_induction commentBody text with
  | case1 => exact .inr ⟨by simp, rfl⟩
  | case2 after =>
    refine .inl ⟨List.suffix_rfl, fun {before more} he => ?_⟩
    have hl := congrArg List.length he
    simp only [List.length_append, List.length_cons, List.length_nil] at hl
    exact List.length_eq_zero_iff.1 (by omega)
  | case3 c rest hn ih =>
    -- A `-->` at the front of the body would be one at the front of the text.
    have hlater : ∀ {before more}, c :: (commentBody rest).1 = before ++ (commentEnd ++ more) →
        ∃ front, (commentBody rest).1 = front ++ (commentEnd ++ more) := by
      intro before more he
      cases before with
      | nil =>
        obtain ⟨hc, hb⟩ := List.cons.inj he
        have hr := commentBody_append rest
        rw [hb] at hr
        exact absurd hr.symm (hn _ hc)
      | cons d front => exact ⟨front, (List.cons.inj he).2⟩
    rcases ih with hf | ⟨hno, hnil⟩
    · refine .inl ⟨hf.isSuffix.trans (List.suffix_cons c _), fun he => ?_⟩
      obtain ⟨front, hfront⟩ := hlater he
      exact hf.eq_nil hfront
    · refine .inr ⟨?_, hnil⟩
      rintro ⟨before, more, he⟩
      rw [List.append_assoc] at he
      obtain ⟨front, hfront⟩ := hlater he.symm
      exact hno ⟨front, more, by rw [hfront, List.append_assoc]⟩

/-- What goes up to the first `-->` is the body of a comment. -/
theorem commentBody_eq_iff {body after : List Char} :
    commentBody (body ++ after) = (body, after) ↔ UpToFirst commentEnd body after := by
  have ha := commentBody_append (body ++ after)
  have hf := upToFirst_commentBody (body ++ after)
  generalize commentBody (body ++ after) = found at ha hf
  obtain ⟨front, left⟩ := found
  constructor
  · rintro ⟨⟩
    exact hf
  · intro hb
    rcases List.append_eq_append_iff.1 ha with ⟨more, rfl, rfl⟩ | ⟨more, rfl, rfl⟩
    · rw [hf.eq_nil hb, List.append_nil, List.nil_append]
    · rw [hb.eq_nil hf, List.append_nil, List.nil_append]

@[simp]
theorem characters_nil : characters [] = [] := rfl

@[simp]
theorem characters_cons (token : Token) (later : List Token) :
    characters (token :: later) = token.lexeme ++ characters later := rfl

namespace IsPartition

variable {content after : List Char} {token : Token} {parts later : List Token}

theorem nil : IsPartition [] [] :=
  ⟨rfl, fun hs => absurd (List.suffix_nil.1 hs) (List.cons_ne_nil _ _)⟩

/-- A token that fits the partition of what comes after it begins a partition. -/
theorem cons (hp : IsPartition after later) (hf : token.Fits later) :
    IsPartition (token.lexeme ++ after) (token :: later) := by
  refine ⟨by rw [characters_cons, hp.characters_eq], fun hs => ?_⟩
  rcases List.suffix_cons_iff.1 hs with he | hs
  · obtain ⟨rfl, rfl⟩ := List.cons.inj he
    exact hf
  · exact hp.fits hs

/-- Without its first token a partition is one of what comes after the token. -/
theorem tail (hp : IsPartition content (token :: later)) :
    IsPartition (characters later) later :=
  ⟨rfl, fun hs => hp.fits (hs.trans (List.suffix_cons token later))⟩

/-- Only the empty content has no tokens. -/
theorem eq_nil_iff (hp : IsPartition content parts) : content = [] ↔ parts = [] := by
  rw [← hp.characters_eq]
  cases parts with
  | nil => simp
  | cons token later => simp [(hp.fits List.suffix_rfl).ne_nil]

/-- A `<` or the end of the content stands where no text is. -/
theorem stops_iff (hp : IsPartition content parts) :
    Stops (· != '<') content ↔ ∀ next ∈ parts.head?, next.kind ≠ .text := by
  rw [← hp.characters_eq]
  cases parts with
  | nil => simp [stops_nil]
  | cons token later =>
    have hf := hp.fits List.suffix_rfl
    obtain ⟨c, rest, hc⟩ := List.exists_cons_of_ne_nil hf.ne_nil
    have hs : Stops (· != '<') (characters (token :: later)) ↔ c = '<' := by
      simp [Stops, hc]
    rw [hs]
    constructor
    · rintro rfl next hn hk
      obtain rfl : token = next := by simpa using hn
      have ha := hf.admits
      rw [hk] at ha
      exact ha.1 (by simp [hc])
    · intro hk
      have hl := hf.less (hk token rfl)
      rw [hc] at hl
      exact (List.cons_prefix_cons.1 hl).1.symm

end IsPartition

/-- What markup that is ended by a `>` can be. -/
theorem Kind.admits_iff_of_isBounded {kind : Kind} {lexeme : List Char} {later : List Token}
    (hk : kind.isBounded = true) :
    kind.Admits lexeme later ↔
      ∃ inner, lexeme = inner ++ ['>'] ∧ '>' ∉ inner ∧ ∃ mark, Mark kind mark ∧ mark <+: inner := by
  cases kind with
  | declaration => rfl
  | processingInstruction => rfl
  | endTag => rfl
  | _ => exact absurd hk Bool.false_ne_true

section Steps

variable {content after : List Char} {token : Token} {later : List Token}

namespace Lexes

/-- A token that is not text begins with a `<`. -/
theorem less_isPrefix (h : Lexes content token after) (hk : token.kind ≠ .text) :
    ['<'] <+: token.lexeme := by
  cases h with
  | text => exact absurd rfl hk
  | bounded hm => exact hm.less_isPrefix _
  | unterminated hm => exact hm.less_isPrefix _
  | _ => exact ⟨_, rfl⟩

/-- The first token fits the partition of what comes after it. -/
theorem admits (h : Lexes content token after) (hp : IsPartition after later) :
    token.kind.Admits token.lexeme later := by
  cases h with
  | text _ hl hs => exact ⟨hl, hp.stops_iff.1 hs⟩
  | lessThan hm =>
    refine ⟨rfl, ?_⟩
    rintro kind mark hmark ⟨more, he⟩
    rw [hp.characters_eq] at he
    exact hm hmark he.symm
  | startTag hc hn hs =>
    rw [← hp.characters_eq] at hs
    exact ⟨_, _, rfl, hc, hn, hs⟩
  | @comment text body _ hb =>
    have ht := commentBody_append text
    rw [hb] at ht
    rw [← ht, commentBody_eq_iff] at hb
    exact ⟨body, rfl, hb.imp_right fun hno => ⟨hno.1, hp.eq_nil_iff.1 hno.2⟩⟩
  | @bounded kind mark inner _ hm hk hg =>
    rw [Kind.admits_iff_of_isBounded hk]
    exact ⟨mark ++ inner, by simp, hm.not_mem_append hg, mark, hm, List.prefix_append mark inner⟩
  | @unterminated kind mark inner hm hk hg =>
    exact ⟨hm.not_mem_append hg, hp.eq_nil_iff.1 rfl, kind, mark, hk, hm,
      List.prefix_append mark inner⟩

end Lexes

/-- A token that fits a partition is the first token before it. -/
theorem Token.Fits.lexes (hf : token.Fits later) (hp : IsPartition after later) :
    Lexes (token.lexeme ++ after) token after := by
  obtain ⟨kind, lexeme⟩ := token
  have ha := hf.admits
  have hb : kind.isBounded = true → Lexes (lexeme ++ after) ⟨kind, lexeme⟩ after := by
    intro hk
    obtain ⟨_, rfl, hg, mark, hm, inner, rfl⟩ := (Kind.admits_iff_of_isBounded hk).1 ha
    have hl : Lexes (mark ++ (inner ++ '>' :: after)) _ after :=
      .bounded hm hk fun hi => hg (List.mem_append_right mark hi)
    simpa using hl
  cases kind with
  | text =>
    obtain ⟨hl, hn⟩ := ha
    exact .text hf.ne_nil hl (hp.stops_iff.2 hn)
  | lessThan =>
    obtain ⟨rfl, hm⟩ := ha
    rw [hp.characters_eq] at hm
    exact .lessThan fun hmark he => hm hmark ⟨_, he.symm⟩
  | startTag =>
    obtain ⟨c, name, rfl, hc, hn, hs⟩ := ha
    rw [hp.characters_eq] at hs
    exact .startTag hc hn hs
  | comment =>
    obtain ⟨body, rfl, hend⟩ := ha
    refine .comment (commentBody_eq_iff.2 (hend.imp_right fun hno => ?_))
    exact ⟨hno.1, hp.eq_nil_iff.2 hno.2⟩
  | unterminated =>
    obtain ⟨hg, hlast, kind, mark, hk, hm, inner, rfl⟩ := ha
    obtain rfl := hp.eq_nil_iff.2 hlast
    rw [List.append_nil]
    exact .unterminated hm hk fun hi => hg (List.mem_append_right mark hi)
  | declaration => exact hb rfl
  | processingInstruction => exact hb rfl
  | endTag => exact hb rfl

end Steps

theorem tokens_nil : tokens [] = [] := by
  rw [tokens]
  rfl

/-- The tokens are the first token and the tokens of what comes after it. -/
theorem tokens_of_lexes {content after : List Char} {token : Token}
    (h : Lexes content token after) : tokens content = token :: tokens after := by
  have hn := next?_of_lexes h
  rw [tokens]
  split
  · rename_i hnone
    rw [hn] at hnone
    cases hnone
  · rename_i found rest hfound
    rw [hn] at hfound
    cases hfound
    rfl

/-- The tokens of content are a partition of it. -/
theorem isPartition_tokens (content : List Char) : IsPartition content (tokens content) := by
  fun_induction tokens content with
  | case1 content hn =>
    cases content with
    | nil => exact .nil
    | cons c rest => cases hn
  | case2 content token after hn _ ih =>
    have hl := next?_eq_some_iff.1 hn
    rw [hl.eq_append]
    exact ih.cons ⟨lexeme_ne_nil_of_next? hn, hl.less_isPrefix, hl.admits ih⟩

/-- Content is cut into its tokens in the one way there is. No token is empty, and together they are
the content. Text has no `<` and no text next to it, and all else begins with a `<`. A comment ends
with the first `-->` behind its `<!--`, a declaration, a processing instruction and an end tag with
their only `>`. Only the last token can lack its end. -/
theorem tokens_unique_partition (content : List Char) :
    IsPartition content (tokens content) ∧
      ∀ parts, IsPartition content parts → parts = tokens content := by
  refine ⟨isPartition_tokens content, fun parts hp => ?_⟩
  induction parts generalizing content with
  | nil => rw [hp.eq_nil_iff.2 rfl, tokens_nil]
  | cons token later ih =>
    have hl := (hp.fits List.suffix_rfl).lexes hp.tail
    rw [← characters_cons, hp.characters_eq] at hl
    rw [tokens_of_lexes hl, ← ih _ hp.tail]

-- The `-->` of a comment cannot begin within its `<!--`, and what lacks a `>` takes in all markup.
example :
    tokens "é<!--><!-- a--><p\u2003<</q <b".toList =
      [⟨.text, "é".toList⟩, ⟨.comment, "<!--><!-- a-->".toList⟩, ⟨.startTag, "<p".toList⟩,
        ⟨.text, "\u2003".toList⟩, ⟨.lessThan, "<".toList⟩, ⟨.unterminated, "</q <b".toList⟩] := by
  decide +kernel

end ViewCode.Markup.Content
