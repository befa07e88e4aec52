import ViewCode.Conversion
import ViewCode.Proofs.UniqueReading
import ViewCode.Proofs.Wrapping

/-!
# The grammar of literals

All code that a draft writes is put together from literals, the names of elements, and other code
that has no quotes in it. The body of a literal consists of escaped quotes and backslashes and of
other characters, and stands for exactly the text that is quoted. The language of the code allows a
carriage return in a literal only directly before a line feed. Carriage returns are not escaped, so
a text in which one stands alone has no valid literal.
-/

namespace ViewCode.Code

open ViewCode.Markup ViewCode.Text

/-- The body of a literal stands for the text. A backslash stands before each quote and before each
other backslash, and every other character stands for itself. -/
inductive StandsFor : List Char → List Char → Prop where
  /-- An empty body stands for no text. -/
  | nil : StandsFor [] []
  /-- A quote or a backslash is escaped. -/
  | escaped {c : Char} {body text : List Char} :
      c = '\x22' ∨ c = '\\' → StandsFor body text → StandsFor ('\\' :: c :: body) (c :: text)
  /-- Another character stands for itself. -/
  | plain {c : Char} {body text : List Char} :
      c ≠ '\x22' → c ≠ '\\' → StandsFor body text → StandsFor (c :: body) (c :: text)

/-- Whether a carriage return stands in the text without a line feed directly after it. -/
def hasLoneReturn : List Char → Bool
  | [] => false
  | c :: rest => (c == '\r' && rest.head? != some '\n') || hasLoneReturn rest

/-- The code is a valid literal of the text: a body between two quotes that stands for the text and
has no carriage return without a line feed. -/
def IsLiteralOf (text code : String) : Prop :=
  ∃ body, code.toList = '\x22' :: (body ++ ['\x22']) ∧ StandsFor body text.toList ∧
    hasLoneReturn body = false

theorem escape_cons (c : Char) (text : List Char) :
    escape (c :: text) = escapeChar c ++ escape text :=
  List.flatMap_cons

/-- A text is stood for by its escaped form and by nothing else. -/
theorem standsFor_iff {body text : List Char} : StandsFor body text ↔ body = escape text := by
  constructor
  · intro h
    induction h with
    | nil => rfl
    | escaped hc _ ih => rw [escape_cons, escapeChar, if_pos hc, ih]; rfl
    | plain hq hb _ ih => rw [escape_cons, escapeChar, if_neg (not_or.2 ⟨hq, hb⟩), ih]; rfl
  · rintro rfl
    induction text with
    | nil => exact .nil
    | cons c text ih =>
      rw [escape_cons, escapeChar]
      split
      · rename_i hc
        exact .escaped hc ih
      · rename_i hc
        obtain ⟨hq, hb⟩ := not_or.1 hc
        exact .plain hq hb ih

/-- Different texts are escaped differently. -/
theorem escape_inj {text other : List Char} : escape text = escape other ↔ text = other := by
  refine ⟨fun h => ?_, congrArg escape⟩
  have hs := congrArg (fun body => (Scan.inside []).literals (body ++ ['\x22'])) h
  rw [Scan.literals_inside_escape, Scan.literals_inside_escape] at hs
  simpa [String.ofList_inj] using hs

/-- Escaping neither adds nor removes a line feed at the front. -/
theorem head?_escape_eq_iff (text : List Char) :
    (escape text).head? = some '\n' ↔ text.head? = some '\n' := by
  cases text with
  | nil => rfl
  | cons c text =>
    rw [escape_cons, escapeChar]
    split
    · rename_i hc
      rcases hc with rfl | rfl <;> simp
    · simp

/-- Escaping leaves carriage returns as they are. -/
theorem hasLoneReturn_escape (text : List Char) :
    hasLoneReturn (escape text) = hasLoneReturn text := by
  induction text with
  | nil => rfl
  | cons c text ih =>
    have hh : ((escape text).head? != some '\n') = (text.head? != some '\n') := by
      rw [Bool.eq_iff_iff, bne_iff_ne, bne_iff_ne, ne_eq, ne_eq, head?_escape_eq_iff]
    rw [escape_cons, escapeChar]
    split
    · rename_i hc
      rcases hc with rfl | rfl <;> simp [hasLoneReturn, ih]
    · simp [hasLoneReturn, ih, hh]

/-- The literal that is written for a text is valid exactly if no carriage return stands alone in
the text. -/
theorem isLiteralOf_literal_iff (text : String) :
    IsLiteralOf text (literal text) ↔ hasLoneReturn text.toList = false := by
  rw [← hasLoneReturn_escape]
  constructor
  · rintro ⟨body, -, hs, hr⟩
    rwa [← standsFor_iff.1 hs]
  · intro h
    exact ⟨escape text.toList, toList_literal text, standsFor_iff.2 rfl, h⟩

/-- The code is put together from the given names and from literals of the given texts, each in
order, and from other code that has no quotes in it. -/
inductive ComposedOf : List String → List String → String → Prop where
  /-- There is no code. -/
  | nil : ComposedOf [] [] ""
  /-- Code without quotes comes first. -/
  | plain {names texts : List String} {plain code : String} : '\x22' ∉ plain.toList →
      ComposedOf names texts code → ComposedOf names texts (plain ++ code)
  /-- A name comes first, whatever it is. -/
  | name {names texts : List String} {code : String} (name : String) :
      ComposedOf names texts code → ComposedOf (name :: names) texts (name ++ code)
  /-- A literal comes first. -/
  | quoted {names texts : List String} {code : String} (text : String) :
      ComposedOf names texts code → ComposedOf names (text :: texts) (literal text ++ code)

namespace ComposedOf

variable {names texts more others : List String} {code rest plain : String}

theorem append (h : ComposedOf names texts code) (hr : ComposedOf more others rest) :
    ComposedOf (names ++ more) (texts ++ others) (code ++ rest) := by
  induction h with
  | nil => rwa [String.empty_append]
  | plain hp _ ih =>
    rw [String.append_assoc]
    exact .plain hp ih
  | name name _ ih =>
    rw [String.append_assoc]
    exact .name name ih
  | quoted text _ ih =>
    rw [String.append_assoc]
    exact .quoted text ih

/-- Code without quotes has nothing in it. -/
theorem of_not_mem (hp : '\x22' ∉ plain.toList) : ComposedOf [] [] plain := by
  have h := ComposedOf.plain hp .nil
  rwa [String.append_empty] at h

/-- Code without quotes may be added at the end. -/
theorem append_plain (h : ComposedOf names texts code) (hp : '\x22' ∉ plain.toList) :
    ComposedOf names texts (code ++ plain) := by
  have ha := h.append (of_not_mem hp)
  rwa [List.append_nil, List.append_nil] at ha

theorem literal (text : String) : ComposedOf [] [text] (literal text) := by
  have h := ComposedOf.quoted text .nil
  rwa [String.append_empty] at h

theorem literalPair (left right : String) : ComposedOf [] [left, right] (literalPair left right) :=
  ((literal left).append_plain (by decide)).append (literal right)

/-- Code that is joined is put together from what its parts are. -/
theorem intercalate_map {α : Type} {write : α → String} {texts : α → List String}
    {separator : String} (hs : '\x22' ∉ separator.toList)
    (h : ∀ item, ComposedOf [] (texts item) (write item)) (items : List α) :
    ComposedOf [] (items.flatMap texts) (String.intercalate separator (items.map write)) := by
  induction items with
  | nil => exact .nil
  | cons item items ih =>
    cases items with
    | nil => simpa using h item
    | cons second items =>
      rw [List.map_cons, List.map_cons, String.intercalate_cons_cons, List.flatMap_cons]
      exact ((h item).append_plain hs).append ih

end ComposedOf

/-- The texts that are quoted in the code of the argument, in order. -/
def Leaf.texts : Leaf → List String
  | text content => [content]
  | id value => [value]
  | classes first others => first :: others
  | style declarations => declarations.flatMap fun d => [d.property, d.value]
  | attrs first others => (first :: others).flatMap fun entry => [entry.1, entry.2]

/-- Every kind of argument quotes its texts and nothing else. -/
theorem Leaf.composedOf_code (leaf : Leaf) : ComposedOf [] leaf.texts leaf.code := by
  cases leaf with
  | text content => exact .literal content
  | id value => exact (ComposedOf.plain (by decide) (.literal value)).append_plain (by decide)
  | classes first others =>
    have h : ComposedOf [] ((first :: others).flatMap fun name => [name])
        (String.intercalate ", " ((first :: others).map literal)) :=
      .intercalate_map (by decide) .literal _
    rw [List.flatMap_singleton'] at h
    exact (ComposedOf.plain (by decide) h).append_plain (by decide)
  | style declarations =>
    refine (ComposedOf.plain (by decide) ?_).append_plain (by decide)
    exact .intercalate_map (by decide) (fun d : Declaration => .literalPair d.property d.value) _
  | attrs first others =>
    refine (ComposedOf.plain (by decide) ?_).append_plain (by decide)
    exact .intercalate_map (by decide)
      (fun entry : String × String => .literalPair entry.1 entry.2) _

/-- The texts of traits are those of their arguments. -/
theorem Traits.flatMap_texts_leaves (traits : Traits) :
    traits.leaves.flatMap Leaf.texts = traits.strings := by
  obtain ⟨id, classes, style, others⟩ := traits
  cases id <;> cases classes <;> cases style <;> cases others <;>
    simp [leaves, strings, Leaf.texts]

/-- The names that the event puts into the code. -/
def eventNames : Event → List String
  | .enter name _ => [name]
  | _ => []

namespace Draft

/-- From one draft to the next, code has been added that is put together from the names and texts.
-/
def Adds (names texts : List String) (before after : Draft) : Prop :=
  ∃ more, after.code = before.code ++ more ∧ ComposedOf names texts more

namespace Adds

variable {names texts more others : List String} {first second third : Draft}

theorem refl (draft : Draft) : Adds [] [] draft draft :=
  ⟨"", by rw [String.append_empty], .nil⟩

theorem trans (h : Adds names texts first second) (hn : Adds more others second third) :
    Adds (names ++ more) (texts ++ others) first third := by
  obtain ⟨code, hc, hw⟩ := h
  obtain ⟨rest, hr, hv⟩ := hn
  exact ⟨code ++ rest, by rw [hr, hc, String.append_assoc], hw.append hv⟩

/-- What divides an item from the code before it has no quotes. -/
theorem beginItem (draft : Draft) : Adds [] [] draft draft.beginItem := by
  unfold Draft.beginItem
  split
  · unfold beginRoot
    split
    · exact ⟨",\n", rfl, .of_not_mem (by decide)⟩
    · exact refl draft
  · refine ⟨_, rfl, .of_not_mem ?_⟩
    split <;> decide

theorem beginItem_push (draft : Draft) {code : String} (h : ComposedOf names texts code) :
    Adds names texts draft (draft.beginItem.push code) :=
  (beginItem draft).trans ⟨code, rfl, h⟩

/-- Entering an element adds its name and quotes the texts of its traits. -/
theorem enter (draft : Draft) (name : String) (attributes : Attributes) :
    Adds [name] (Traits.ofAttributes draft.settings.ids attributes).strings draft
      (draft.enter name attributes) := by
  have hi (level : Nat) : '\x22' ∉ (draft.settings.indent.atLevel level).toList :=
    not_mem_atLevel (by decide) (by decide) _ level
  have ha : ComposedOf [] (Traits.ofAttributes draft.settings.ids attributes).strings
      (argumentLines draft.settings.indent (draft.calls.length + 1)
        (Traits.ofAttributes draft.settings.ids attributes).calls) := by
    rw [Traits.calls_eq, ← Traits.flatMap_texts_leaves, argumentLines, List.map_map]
    refine .intercalate_map (by decide) (fun leaf => ?_) _
    exact .plain (by simp [hi]) leaf.composedOf_code
  have ho : ComposedOf [name] [] (draft.indentAt draft.calls.length ++ name ++ "![") := by
    rw [String.append_assoc]
    exact .plain (hi _) (.name name (.of_not_mem (by decide)))
  exact beginItem_push draft (ho.append ha)

/-- A text quotes what is left of it without its margins, if anything is. -/
theorem text (draft : Draft) (content : String) :
    Adds [] (eventStrings draft.settings.ids (.text content)) draft (draft.text content) := by
  simp only [Draft.text, eventStrings]
  cases trim isMargin content.toList with
  | nil => exact refl draft
  | cons c rest =>
    have hn : (String.ofList (c :: rest)).isEmpty = false := by simp
    rw [hn]
    exact beginItem_push draft
      (.plain (not_mem_atLevel (by decide) (by decide) _ _) (.literal _))

/-- Leaving an element quotes nothing. -/
theorem of_leave {draft next : Draft} (h : leave draft = .ok () next) : Adds [] [] draft next := by
  cases hc : draft.calls with
  | nil => simp [leave, hc] at h
  | cons call outer =>
    rw [leave_of_calls hc] at h
    cases h
    refine ⟨_, rfl, .of_not_mem ?_⟩
    split
    · decide
    · have hi := not_mem_atLevel (c := '\x22') (by decide) (by decide) draft.settings.indent
        outer.length
      simp [indentAt, hi]

/-- Every event adds its name and quotes its texts. -/
theorem of_sink {e : Event} {draft next : Draft} (h : sink e draft = .ok () next) :
    Adds (eventNames e) (eventStrings draft.settings.ids e) draft next := by
  cases e with
  | enter name attributes =>
    rw [eq_enter_of_sink h]
    exact enter draft name attributes
  | text content =>
    rw [eq_text_of_sink h]
    exact text draft content
  | leave => exact of_leave h

/-- A stream of events adds their names and quotes their texts, in order. -/
theorem of_sendAll {events : List Event} {draft written : Draft}
    (h : Sink.sendAll sink events draft = .ok () written) :
    Adds (events.flatMap eventNames) (events.flatMap (eventStrings draft.settings.ids)) draft
      written := by
  induction events generalizing draft with
  | nil =>
    rw [Sink.sendAll_nil] at h
    cases h
    exact refl written
  | cons e rest ih =>
    obtain ⟨next, he, hr⟩ := Sink.sendAll_cons_eq_ok h
    have hi := ih hr
    rw [settings_of_sink he] at hi
    exact (of_sink he).trans hi

end Adds

/-- Markup is always written as code in which the texts and attribute values of its events are
quoted, each once and in order, and nothing else is. The body of each literal stands for the quoted
text and for no other. The literal is valid exactly if no carriage return stands alone in the text.
-/
theorem feed_quotes_texts (markup : String) (settings : Settings) (draft : Draft) :
    ∃ written, feed markup sink (draft.restart settings) = .ok () written ∧
      ComposedOf ((events markup).flatMap eventNames)
        ((events markup).flatMap (eventStrings settings.ids)) written.code ∧
      ∀ text ∈ (events markup).flatMap (eventStrings settings.ids),
        (∃ body, (literal text).toList = '\x22' :: (body ++ ['\x22']) ∧
          ∀ value, StandsFor body value ↔ value = text.toList) ∧
        (IsLiteralOf text (literal text) ↔ hasLoneReturn text.toList = false) := by
  have hh : heightAfter? (draft.restart settings).calls.length (events markup) = some 0 :=
    heightAfter?_events markup
  obtain ⟨written, hw, -⟩ := sendAll_sink_of_heightAfter? hh
  obtain ⟨code, hc, hq⟩ := Adds.of_sendAll hw
  have he : written.code = code := by simpa [restart] using hc
  refine ⟨written, ?_, he ▸ hq, fun text _ => ⟨⟨_, toList_literal text, fun value => ?_⟩,
    isLiteralOf_literal_iff text⟩⟩
  · rw [feed_eq_sendAll]
    exact hw
  · rw [standsFor_iff, escape_inj, eq_comm]

end Draft

/-- A carriage return that stands alone in a text is left as it is, and the code is no valid literal
of any text. -/
theorem literal_of_lone_return :
    convert {} "a\rb" = .ok "\"a\rb\"" ∧ ∀ text, ¬IsLiteralOf text "\"a\rb\"" := by
  refine ⟨by decide +kernel, ?_⟩
  rintro text ⟨body, hc, -, hr⟩
  have hb : body = ['a', '\r', 'b'] := by
    have ht : ['a', '\r', 'b'] ++ ['\x22'] = body ++ ['\x22'] := (List.cons.inj hc).2
    exact (List.append_cancel_right ht).symm
  rw [hb] at hr
  exact absurd hr (by decide)

end ViewCode.Code
