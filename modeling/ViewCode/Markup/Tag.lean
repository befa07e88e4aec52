import ViewCode.Markup.Attributes
import ViewCode.Markup.Reference
import ViewCode.Text.Blank
import ViewCode.Text.Lowercase

/-!
# The inside of a start tag

After its name a start tag is cut into tokens of its own: attribute names, equals signs, quoted
strings, slashes, and the `>` or `/>` that ends it. A value is not a token, since what may stand
in it depends on the equals sign before it. A tag whose end is missing is no tag.
-/

namespace ViewCode.Markup

open ViewCode.Text

/-- What a start tag says besides its name. -/
structure Tag where
  /-- Its attributes, in document order. -/
  attributes : Attributes
  /-- Whether it ends with `/>`. -/
  selfClosing : Bool
  deriving DecidableEq, Repr

namespace Tag

/-- What a stretch of a start tag is. -/
inductive Kind where
  /-- The `>` that ends the tag. -/
  | close
  /-- The `/>` that ends the tag and its element. -/
  | selfClose
  /-- An equals sign. -/
  | equals
  /-- Text in double quotes. -/
  | doubleQuoted
  /-- Text in single quotes. -/
  | singleQuoted
  /-- An attribute name. -/
  | name
  /-- A slash that does not end the tag. -/
  | slash
  /-- A character that has no place in a tag. -/
  | stray
  /-- A quote that is not ended, with all that follows it. -/
  | unterminated
  deriving DecidableEq, Repr

/-- A stretch of a start tag. -/
structure Token where
  /-- What it is. -/
  kind : Kind
  /-- Its characters. -/
  lexeme : List Char
  deriving DecidableEq, Repr

/-- Whether the character can stand in an attribute name. -/
def isNameChar (c : Char) : Bool :=
  !isBlank c && c != '\x22' && c != '\x27' && c != '=' && c != '<' && c != '>' && c != '/'

/-- A quoted string, given its quote and what follows, and what comes after it. -/
def quotedToken (kind : Kind) (quote : Char) (rest : List Char) : Token × List Char :=
  match splitFirst? (· == quote) rest with
  | some (inner, after) => (⟨kind, quote :: inner ++ [quote]⟩, after)
  | none => (⟨.unterminated, quote :: rest⟩, [])

/-- The first token of text that begins with the given character, which is not a blank of tags, and
what comes after it. -/
def first (c : Char) (rest : List Char) : Token × List Char :=
  if c = '>' then (⟨.close, [c]⟩, rest)
  else if c = '=' then (⟨.equals, [c]⟩, rest)
  else if c = '/' then
    match rest with
    | '>' :: after => (⟨.selfClose, ['/', '>']⟩, after)
    | _ => (⟨.slash, [c]⟩, rest)
  else if c = '\x22' then quotedToken .doubleQuoted c rest
  else if c = '\x27' then quotedToken .singleQuoted c rest
  else if isNameChar c then (⟨.name, c :: rest.takeWhile isNameChar⟩, rest.dropWhile isNameChar)
  else (⟨.stray, [c]⟩, rest)

/-- The first token of the text, blanks before it skipped, and what comes after it. -/
def next? (text : List Char) : Option (Token × List Char) :=
  match text.dropWhile isTagBlank with
  | [] => none
  | c :: rest => some (first c rest)

/-- Whether the character can stand in a value without quotes. -/
def isBareChar (c : Char) : Bool :=
  !isBlank c && c != '>'

/-- The value after an equals sign, if there is one, and what comes after it. Where the input ends,
there is no value and nothing is taken; where a quote is not ended, there is none and everything is
taken. A `>` in place of the value makes it empty. -/
def value (text : List Char) : Option (List Char) × List Char :=
  match text.dropWhile isBlank with
  | [] => (none, text)
  | c :: rest =>
    if c = '>' then (some [], text)
    else if c = '\x22' ∨ c = '\x27' then
      match splitFirst? (· == c) rest with
      | some (inner, after) => (some inner, after)
      | none => (none, [])
    else (some (c :: rest.takeWhile isBareChar), rest.dropWhile isBareChar)

/-- What comes after the first character of a class is shorter. -/
theorem length_lt_of_splitFirst? {p : Char → Bool} {text before after : List Char}
    (h : splitFirst? p text = some (before, after)) : after.length < text.length := by
  obtain ⟨c, _, rfl⟩ := splitFirst?_append h
  simp only [List.length_append, List.length_cons]
  omega

/-- What comes after a quoted string is not longer than what follows its quote. -/
theorem length_quotedToken_le (kind : Kind) (quote : Char) (rest : List Char) :
    (quotedToken kind quote rest).2.length ≤ rest.length := by
  unfold quotedToken
  split
  · rename_i h
    exact Nat.le_of_lt (length_lt_of_splitFirst? h)
  · exact Nat.zero_le _

/-- What comes after the first token is not longer than what follows its first character. -/
theorem length_first_le (c : Char) (rest : List Char) : (first c rest).2.length ≤ rest.length := by
  unfold first
  split
  · exact Nat.le_refl _
  · split
    · exact Nat.le_refl _
    · split
      · split
        · exact Nat.le_succ _
        · exact Nat.le_refl _
      · split
        · exact length_quotedToken_le _ _ _
        · split
          · exact length_quotedToken_le _ _ _
          · split
            · exact (List.dropWhile_sublist _).length_le
            · exact Nat.le_refl _

/-- What comes after a token is shorter than the text. -/
theorem length_lt_of_next? {text after : List Char} {token : Token}
    (h : next? text = some (token, after)) : after.length < text.length := by
  unfold next? at h
  split at h
  · simp at h
  · rename_i c rest hd
    have hl := (List.dropWhile_sublist isTagBlank (l := text)).length_le
    have hf := length_first_le c rest
    rw [hd, List.length_cons] at hl
    rw [Option.some.injEq] at h
    rw [h] at hf
    exact Nat.lt_of_le_of_lt hf hl

/-- What comes after a value is not longer than the text. -/
theorem length_value_le (text : List Char) : (value text).2.length ≤ text.length := by
  unfold value
  split
  · exact Nat.le_refl _
  · rename_i c rest hd
    have hl := (List.dropWhile_sublist isBlank (l := text)).length_le
    rw [hd, List.length_cons] at hl
    split
    · exact Nat.le_refl _
    · split
      · split
        · rename_i h
          have hs := length_lt_of_splitFirst? h
          simp only
          omega
        · exact Nat.zero_le _
      · have hb := (List.dropWhile_sublist isBareChar (l := rest)).length_le
        simp only
        omega

/-- The attributes with the pending name added, whose value was left out. -/
def withPending (pending : Option String) (attributes : Attributes) : Attributes :=
  match pending with
  | none => attributes
  | some name => attributes.insert name ""

/-- The attributes with the pending name added, whose value is given. A value without a name is
dropped. -/
def withValue (pending : Option String) (attributes : Attributes) (value : List Char) :
    Attributes :=
  match pending with
  | none => attributes
  | some name => attributes.insert name (Reference.decoded value)

/-- Reads on in a tag of which a name without value, if any, and some attributes have been read.
The result is the tag, if it has an end, and what comes after. -/
def readOn (pending : Option String) (attributes : Attributes) (text : List Char) :
    Option Tag × List Char :=
  match h : next? text with
  | none => (none, [])
  | some (token, after) =>
    have := length_lt_of_next? h
    match token.kind with
    | .close => (some ⟨withPending pending attributes, false⟩, after)
    | .selfClose => (some ⟨withPending pending attributes, true⟩, after)
    | .name =>
      readOn (some (String.ofList (lower token.lexeme))) (withPending pending attributes) after
    | .equals =>
      match hv : value after with
      | (none, left) => (none, left)
      | (some content, left) =>
        have : left.length ≤ after.length := by
          have hl := length_value_le after
          rw [hv] at hl
          exact hl
        readOn none (withValue pending attributes content) left
    | .doubleQuoted | .singleQuoted | .slash | .stray | .unterminated =>
      readOn pending attributes after
termination_by text.length

/-- Reads what follows the name of a start tag: the tag, if it has an end, and what comes after. -/
def read (text : List Char) : Option Tag × List Char :=
  readOn none Attributes.empty text

/-- What comes after a tag is not longer than the text. -/
theorem length_readOn_le (pending : Option String) (attributes : Attributes) (text : List Char) :
    (readOn pending attributes text).2.length ≤ text.length := by
  fun_induction readOn pending attributes text with
  | case1 => exact Nat.zero_le _
  | case2 _ _ _ _ _ _ hl => exact Nat.le_of_lt hl
  | case3 _ _ _ _ _ _ hl => exact Nat.le_of_lt hl
  | case4 _ _ _ _ _ _ hl _ ih => exact Nat.le_trans ih (Nat.le_of_lt hl)
  | case5 _ _ _ _ after _ hl _ left hv =>
    have hw := length_value_le after
    rw [hv] at hw
    exact Nat.le_trans hw (Nat.le_of_lt hl)
  | case6 _ _ _ _ _ _ hl _ _ _ _ hw ih => exact Nat.le_trans ih (Nat.le_trans hw (Nat.le_of_lt hl))
  | _ => rename_i hl _ ih; exact Nat.le_trans ih (Nat.le_of_lt hl)

/-- What comes after a tag is not longer than what follows its name. -/
theorem length_le_of_read {text left : List Char} {found : Option Tag}
    (h : read text = (found, left)) : left.length ≤ text.length := by
  have hl := length_readOn_le none Attributes.empty text
  change (read text).2.length ≤ text.length at hl
  rw [h] at hl
  exact hl

end Tag

end ViewCode.Markup
