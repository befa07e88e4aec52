import ViewCode.Markup.Content
import ViewCode.Markup.Tag
import ViewCode.Proofs.TextRuns
import ViewCode.Proofs.Writing

/-!
# Reading of start tags

How the inside of a start tag is read, one part after another: blanks are passed over, a name waits
for its value, a value in quotes is taken whole, and `>` ends the tag. From these steps, attributes
that are written out are read back in order.
-/

namespace ViewCode.Markup

open ViewCode.Text

namespace Tag

/-- Reading on in a tag goes by its first token. -/
theorem readOn_of_next? {pending : Option String} {attributes : Attributes}
    {text after : List Char} {token : Token} (h : next? text = some (token, after)) :
    readOn pending attributes text =
      match token.kind with
      | .close => (some ⟨withPending pending attributes, false⟩, after)
      | .selfClose => (some ⟨withPending pending attributes, true⟩, after)
      | .name =>
        readOn (some (String.ofList (lower token.lexeme))) (withPending pending attributes) after
      | .equals =>
        match value after with
        | (none, left) => (none, left)
        | (some content, left) => readOn none (withValue pending attributes content) left
      | .doubleQuoted | .singleQuoted | .slash | .stray | .unterminated =>
        readOn pending attributes after := by
  rw [readOn]
  split
  · rename_i hn
    rw [h] at hn
    simp at hn
  · rename_i found left hn
    rw [h] at hn
    cases hn
    cases token.kind with
    | equals =>
      -- The definition matches on the value with its equation, for the sake of termination.
      dsimp only
      split <;> rename_i hv <;> rw [hv]
    | _ => rfl

/-- What is read depends on the text only by its first token and what comes after that. -/
theorem readOn_congr {text other : List Char} (h : next? text = next? other)
    (pending : Option String) (attributes : Attributes) :
    readOn pending attributes text = readOn pending attributes other := by
  cases hn : next? other with
  | none =>
    rw [hn] at h
    rw [readOn, readOn]
    split <;> split <;> simp_all
  | some front =>
    rw [hn] at h
    rw [readOn_of_next? h, readOn_of_next? hn]

/-- A blank between the parts of a tag is passed over. -/
theorem readOn_blank {c : Char} (h : isTagBlank c = true) (pending : Option String)
    (attributes : Attributes) (rest : List Char) :
    readOn pending attributes (c :: rest) = readOn pending attributes rest := by
  apply readOn_congr
  rw [next?, next?, List.dropWhile_cons_of_pos h]

/-- A `>` ends the tag. -/
theorem readOn_close (pending : Option String) (attributes : Attributes) (rest : List Char) :
    readOn pending attributes ('>' :: rest) =
      (some ⟨withPending pending attributes, false⟩, rest) := by
  have hn : next? ('>' :: rest) = some (⟨.close, ['>']⟩, rest) := rfl
  rw [readOn_of_next? hn]

/-- A character that can stand in a name is none of those that begin another token. -/
theorem first_of_isNameChar {c : Char} (h : isNameChar c = true) (rest : List Char) :
    first c rest = (⟨.name, c :: rest.takeWhile isNameChar⟩, rest.dropWhile isNameChar) := by
  have hc := h
  simp only [isNameChar, Bool.and_eq_true, bne_iff_ne, ne_eq] at hc
  obtain ⟨⟨⟨⟨⟨⟨-, hd⟩, hq⟩, he⟩, -⟩, hg⟩, hs⟩ := hc
  unfold first
  rw [if_neg hg, if_neg he, if_neg hs, if_neg hd, if_neg hq, if_pos h]

/-- A name waits for its value, and the name before it has none. -/
theorem readOn_name {name rest : List Char} (hn : name ≠ [])
    (ha : ∀ c ∈ name, isNameChar c = true) (hr : Stops isNameChar rest)
    (pending : Option String) (attributes : Attributes) :
    readOn pending attributes (name ++ rest) =
      readOn (some (String.ofList (lower name))) (withPending pending attributes) rest := by
  cases name with
  | nil => exact absurd rfl hn
  | cons c others =>
    have hc := ha c List.mem_cons_self
    have ho : ∀ d ∈ others, isNameChar d = true := fun d hd => ha d (List.mem_cons_of_mem c hd)
    have hb : isTagBlank c = false := by
      cases hb : isTagBlank c with
      | false => rfl
      | true =>
        have hi := isBlank_of_isTagBlank hb
        simp [isNameChar, hi] at hc
    have hf : next? (c :: others ++ rest) = some (⟨.name, c :: others⟩, rest) := by
      rw [List.cons_append, next?, List.dropWhile_cons_of_neg (by simp [hb])]
      simp only [first_of_isNameChar hc, takeWhile_append_of_stops ho hr,
        dropWhile_append_of_stops ho hr]
    rw [readOn_of_next? hf]

/-- The value after an equals sign is given to the name that waits for it. -/
theorem readOn_equals {after content left : List Char} (hv : value after = (some content, left))
    (pending : Option String) (attributes : Attributes) :
    readOn pending attributes ('=' :: after) =
      readOn none (withValue pending attributes content) left := by
  have hn : next? ('=' :: after) = some (⟨.equals, ['=']⟩, after) := rfl
  rw [readOn_of_next? hn]
  simp only [hv]

/-- A value in quotes is taken whole, and blanks before it are passed over. -/
theorem value_quoted {quote : Char} (hq : quote = '\x22' ∨ quote = '\x27')
    {blanks content : List Char} (hb : ∀ c ∈ blanks, isBlank c = true) (hc : quote ∉ content)
    (rest : List Char) :
    value (blanks ++ quote :: (content ++ quote :: rest)) = (some content, rest) := by
  have hs : splitFirst? (· == quote) (content ++ quote :: rest) = some (content, rest) := by
    refine splitFirst?_append_cons (fun d hd => ?_) (by simp) rest
    exact beq_false_of_ne fun e => hc (e ▸ hd)
  have hn : isBlank quote = false := by
    rcases hq with rfl | rfl <;> decide
  have hg : quote ≠ '>' := by
    rcases hq with rfl | rfl <;> decide
  rw [value, dropWhile_append_of_stops hb (stops_cons hn _)]
  simp only [if_neg hg, if_pos hq, hs]

/-- A value in quotes is taken whole and given to the name that waits for it. -/
theorem readOn_equals_quoted {quote : Char} (hq : quote = '\x22' ∨ quote = '\x27')
    {content : List Char} (hc : quote ∉ content) (pending : Option String)
    (attributes : Attributes) (rest : List Char) :
    readOn pending attributes ('=' :: quote :: (content ++ quote :: rest)) =
      readOn none (withValue pending attributes content) rest := by
  have hv : value ([] ++ quote :: (content ++ quote :: rest)) = (some content, rest) :=
    value_quoted hq (List.forall_mem_nil _) hc rest
  exact readOn_equals hv pending attributes

end Tag

/-- Whether the text can be the name of an attribute as it is read from ASCII. -/
def isAttributeName (name : String) : Bool :=
  !name.isEmpty && name.toList.all fun c => isPlain c && Tag.isNameChar c

/-- The characters of an attribute name are plain and can stand in one. -/
theorem forall_mem_of_isAttributeName {name : String} (h : isAttributeName name = true) :
    ∀ c ∈ name.toList, isPlain c = true ∧ Tag.isNameChar c = true := by
  simp only [isAttributeName, Bool.and_eq_true, List.all_eq_true] at h
  exact h.2

/-- The text writes out the attributes, each after a space and with its value in double quotes. -/
inductive WrittenAttributes : List (String × String) → List Char → Prop where
  /-- Nothing is written for no attributes. -/
  | nil : WrittenAttributes [] []
  /-- An attribute is written before the others. -/
  | cons (spelled : List Char) {name value : String} {entries : List (String × String)}
      {others : List Char} :
      Spells spelled name → WrittenAttributes entries others →
      WrittenAttributes ((name, value) :: entries)
        (' ' :: (spelled ++ '=' :: '\x22' :: (writeValue value.toList ++ '\x22' :: others)))

/-- Attributes can be written out if their names can. -/
theorem WrittenAttributes.exists_written {entries : List (String × String)}
    (hn : ∀ entry ∈ entries, isAttributeName entry.1 = true) :
    ∃ written, WrittenAttributes entries written := by
  induction entries with
  | nil => exact ⟨[], .nil⟩
  | cons entry entries ih =>
    obtain ⟨others, ho⟩ := ih fun other hm => hn other (List.mem_cons_of_mem entry hm)
    have ha := forall_mem_of_isAttributeName (hn entry List.mem_cons_self)
    have hs : Spells entry.1.toList entry.1 := .self fun c hc => (ha c hc).1
    exact ⟨_, .cons entry.1.toList hs ho⟩

/-- What is written for attributes is no part of a tag's name. -/
theorem WrittenAttributes.stops {entries : List (String × String)} {written : List Char}
    (h : WrittenAttributes entries written) (rest : List Char) :
    Stops Content.isTagNameChar (written ++ '>' :: rest) := by
  cases h with
  | nil => exact stops_cons (by decide) _
  | cons => exact stops_cons (by decide) _

/-- A name that is not there yet is added at the end. -/
theorem Attributes.insert_of_not_mem {attributes : Attributes} {name : String} (value : String)
    (h : name ∉ attributes.entries.map Prod.fst) :
    attributes.insert name value =
      ⟨attributes.entries ++ [(name, value)], nodup_append_entry value attributes.nodup h⟩ := by
  rw [insert, insert?, dif_neg h, Option.getD_some]

namespace Tag

/-- A letter can stand in an attribute name. -/
theorem isNameChar_of_isAlpha {c : Char} (h : c.isAlpha = true) : isNameChar c = true := by
  have hb := isBlank_of_isAlpha h
  have hn : ∀ d : Char, d.isAlpha = false → c ≠ d := fun d => ne_of_isAlpha h
  simp [isNameChar, hb, hn]

/-- One attribute that is written out is added to those read before. -/
theorem readOn_written_attribute {name : String} {spelled : List Char}
    (hn : isAttributeName name = true) (hs : Spells spelled name) (value : String)
    (attributes : Attributes) (rest : List Char) :
    readOn none attributes
        (' ' :: (spelled ++ '=' :: '\x22' :: (writeValue value.toList ++ '\x22' :: rest))) =
      readOn none (attributes.insert name value) rest := by
  have ha := forall_mem_of_isAttributeName hn
  have hne : spelled ≠ [] := by
    simp only [isAttributeName, Bool.and_eq_true, Bool.not_eq_true'] at hn
    exact hs.ne_nil (String.isEmpty_eq_false_iff.1 hn.1)
  have hc : ∀ c ∈ spelled, isNameChar c = true :=
    hs.forall_mem (fun c hl => isNameChar_of_isAlpha hl) (fun c hc => (ha c hc).2)
  have hl : lower spelled = name.toList := hs.lower_eq fun c hc => (ha c hc).1
  have hv : '\x22' ∉ writeValue value.toList :=
    not_mem_flatMap_escapedAs (by decide) (by decide) value.toList
  rw [readOn_blank (by decide), readOn_name hne hc (stops_cons (by decide) _),
    readOn_equals_quoted (Or.inl rfl) hv]
  simp only [withPending, withValue, hl, Reference.decoded_writeValue, String.ofList_toList]

/-- Attributes that are written out are read back in order, after those read before. -/
theorem readOn_written {entries : List (String × String)} {written : List Char}
    (hw : WrittenAttributes entries written)
    (hn : ∀ entry ∈ entries, isAttributeName entry.1 = true) (attributes : Attributes)
    (hd : ((attributes.entries ++ entries).map Prod.fst).Nodup) (rest : List Char) :
    readOn none attributes (written ++ '>' :: rest) =
      (some ⟨⟨attributes.entries ++ entries, hd⟩, false⟩, rest) := by
  induction hw generalizing attributes with
  | nil =>
    rw [List.nil_append, readOn_close]
    simp [withPending]
  | @cons spelled name value entries others hs _ ih =>
    have hm : name ∉ attributes.entries.map Prod.fst := by
      intro hin
      rw [List.map_append, List.nodup_append] at hd
      exact hd.2.2 name hin name List.mem_cons_self rfl
    have hi := attributes.insert_of_not_mem value hm
    have hr := readOn_written_attribute (hn (name, value) List.mem_cons_self) hs value attributes
      (others ++ '>' :: rest)
    simp only [List.cons_append, List.append_assoc] at hr ⊢
    rw [hr, hi, ih (fun entry he => hn entry (List.mem_cons_of_mem _ he))]
    · simp
    · simpa using hd

/-- The inside of a tag that writes out attributes is read as these attributes. -/
theorem read_written {attributes : Attributes} {written : List Char}
    (hw : WrittenAttributes attributes.entries written)
    (hn : ∀ name ∈ attributes.names, isAttributeName name = true) (rest : List Char) :
    read (written ++ '>' :: rest) = (some ⟨attributes, false⟩, rest) :=
  readOn_written hw (List.forall_mem_map.1 hn) Attributes.empty attributes.nodup rest

end Tag

end ViewCode.Markup
