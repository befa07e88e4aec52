import ViewCode.Text.Blank

/-!
# Tokens of markup content

Content is cut into tokens: stretches of text, tags, comments, declarations, processing
instructions. Every character belongs to exactly one token. A start tag's token ends with its
name; what follows is for the tokens of the tag. A comment that is not ended runs to the end of
the input, and so does any other construct that lacks its `>`, but that one is no markup and
counts as text.
-/

namespace ViewCode.Markup.Content

open ViewCode.Text

/-- What a stretch of content is. -/
inductive Kind where
  /-- A comment, `<!--` up to and with `-->`. -/
  | comment
  /-- A declaration, `<!` and a letter or `[` up to and with `>`. -/
  | declaration
  /-- A processing instruction, `<?` up to and with `>`. -/
  | processingInstruction
  /-- An end tag, `</` and a letter up to and with `>`. -/
  | endTag
  /-- The beginning of a start tag, `<` and its name. -/
  | startTag
  /-- Text without `<`. -/
  | text
  /-- A `<` that begins nothing. -/
  | lessThan
  /-- A declaration, processing instruction or end tag without its `>`. -/
  | unterminated
  deriving DecidableEq, Repr

/-- A stretch of content. -/
structure Token where
  /-- What it is. -/
  kind : Kind
  /-- Its characters. -/
  lexeme : List Char
  deriving DecidableEq, Repr

/-- What begins at the front of the content, before it is known whether it ends. -/
def opening : List Char → Kind
  | '<' :: '!' :: '-' :: '-' :: _ => .comment
  | '<' :: '!' :: c :: _ => if c.isAlpha || c == '[' then .declaration else .lessThan
  | '<' :: '?' :: _ => .processingInstruction
  | '<' :: '/' :: c :: _ => if c.isAlpha then .endTag else .lessThan
  | '<' :: c :: _ => if c.isAlpha then .startTag else .lessThan
  | '<' :: [] => .lessThan
  | _ => .text

/-- Whether the character can stand in the name of a start tag. -/
def isTagNameChar (c : Char) : Bool :=
  !isBlank c && c != '/' && c != '>'

/-- The body of a comment with its `-->`, and what comes after; all of it if there is no `-->`. -/
def commentBody : List Char → List Char × List Char
  | [] => ([], [])
  | '-' :: '-' :: '>' :: after => (['-', '-', '>'], after)
  | c :: rest => (c :: (commentBody rest).1, (commentBody rest).2)

/-- A token that ends with the first `>`, and what comes after. -/
def upToGreater (kind : Kind) (content : List Char) : Token × List Char :=
  match splitFirst? (· == '>') content with
  | some (inner, after) => (⟨kind, inner ++ ['>']⟩, after)
  | none => (⟨.unterminated, content⟩, [])

/-- The first token of content that begins with the given character, and what comes after. -/
def first (c : Char) (rest : List Char) : Token × List Char :=
  match opening (c :: rest) with
  | .text => (⟨.text, c :: rest.takeWhile (· != '<')⟩, rest.dropWhile (· != '<'))
  | .lessThan => (⟨.lessThan, [c]⟩, rest)
  | .startTag => (⟨.startTag, c :: rest.takeWhile isTagNameChar⟩, rest.dropWhile isTagNameChar)
  | .comment =>
    let body := commentBody (rest.drop 3)
    (⟨.comment, c :: rest.take 3 ++ body.1⟩, body.2)
  | kind => upToGreater kind (c :: rest)

/-- The first token of the content and what comes after it. -/
def next? : List Char → Option (Token × List Char)
  | [] => none
  | c :: rest => some (first c rest)

/-- A comment's body and what comes after make up the text. -/
theorem commentBody_append (text : List Char) :
    (commentBody text).1 ++ (commentBody text).2 = text := by
  fun_induction commentBody text with
  | case1 => rfl
  | case2 => rfl
  | case3 _ _ _ ih => rw [List.cons_append, ih]

/-- Nothing is lost or added by a token that ends with the first `>`. -/
theorem upToGreater_append (kind : Kind) (content : List Char) :
    (upToGreater kind content).1.lexeme ++ (upToGreater kind content).2 = content := by
  unfold upToGreater
  split
  · rename_i inner after h
    obtain ⟨c, hc, rfl⟩ := splitFirst?_append h
    simp only [beq_iff_eq] at hc
    simp [hc]
  · simp

/-- The first token and what comes after make up the content. -/
theorem first_append (c : Char) (rest : List Char) :
    (first c rest).1.lexeme ++ (first c rest).2 = c :: rest := by
  unfold first
  split
  · simp [List.takeWhile_append_dropWhile]
  · rfl
  · simp [List.takeWhile_append_dropWhile]
  · simp [commentBody_append, List.take_append_drop]
  · exact upToGreater_append _ _

/-- No token is empty. -/
theorem lexeme_first_ne_nil (c : Char) (rest : List Char) : (first c rest).1.lexeme ≠ [] := by
  unfold first
  split
  · simp
  · simp
  · simp
  · simp
  · unfold upToGreater
    split <;> simp

/-- What comes after a token is shorter than the content. -/
theorem length_lt_of_next? {content after : List Char} {token : Token}
    (h : next? content = some (token, after)) : after.length < content.length := by
  cases content with
  | nil => simp [next?] at h
  | cons c rest =>
    rw [next?, Option.some.injEq] at h
    have ha := congrArg List.length (first_append c rest)
    have hn := List.length_pos_iff.2 (lexeme_first_ne_nil c rest)
    rw [h, List.length_append] at ha
    rw [h] at hn
    simp only at ha hn
    omega

/-- All tokens of the content, in order. -/
def tokens (content : List Char) : List Token :=
  match h : next? content with
  | none => []
  | some (token, after) =>
    have := length_lt_of_next? h
    token :: tokens after
termination_by content.length

end ViewCode.Markup.Content
