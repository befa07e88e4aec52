import ViewCode.Proofs.TagReading

/-!
# Forms of attributes

An attribute of a start tag is written as a bare name, or with a value between quotes of either kind
or without quotes, and with blanks around its parts. Whatever the forms are, the tag is read up to
its end: its attributes come in the order in which they are written, and of several with the same
name in lower case the first one counts.
-/

namespace ViewCode.Markup

open ViewCode.Text

/-- Blanks between the parts of a tag. -/
structure Gap where
  /-- The blanks. -/
  text : List Char
  /-- Each of them is a space, tab, line feed, carriage return or form feed. -/
  blank : text.all (· ∈ [' ', '\t', '\n', '\r', '\x0c']) = true := by decide

/-- What stands in a gap is passed over in a tag. -/
theorem Gap.isTagBlank (gap : Gap) : ∀ c ∈ gap.text, isTagBlank c = true := by
  intro c hc
  have hm := List.all_eq_true.1 gap.blank c hc
  simp only [List.mem_cons, List.not_mem_nil, or_false, decide_eq_true_eq] at hm
  rcases hm with rfl | rfl | rfl | rfl | rfl <;> rfl

/-- A class without blanks is stopped by a gap, or by what comes after an empty one. -/
theorem Gap.stops (gap : Gap) {p : Char → Bool} (hp : ∀ c, isBlank c = true → p c = false)
    {rest : List Char} (hr : gap.text = [] → Stops p rest) : Stops p (gap.text ++ rest) := by
  cases hg : gap.text with
  | nil => exact hr hg
  | cons c others =>
    have hm : c ∈ gap.text := by simp [hg]
    exact stops_cons (hp c (isBlank_of_isTagBlank (gap.isTagBlank c hm))) _

/-- How an attribute gives its value, after its name. -/
inductive ValueForm where
  /-- It gives none. -/
  | absent
  /-- The value stands between two quotes of a kind that does not occur in it. -/
  | quoted (before after : Gap) (quote : Char) (content : List Char)
      (isQuote : quote = '\x22' ∨ quote = '\x27') (inside : quote ∉ content)
  /-- The value stands without quotes. It is not empty, has no blank and no `>` in it, and does not
  begin with a quote. -/
  | unquoted (before after : Gap) (content : List Char) (nonempty : content ≠ [])
      (inside : content.all (fun c => !isBlank c && c != '>') = true)
      (initial : content.head? ∉ [some '\x22', some '\x27'])

namespace ValueForm

/-- What is written after the name. -/
def text : ValueForm → List Char
  | absent => []
  | quoted before after quote content _ _ =>
    before.text ++ '=' :: (after.text ++ quote :: (content ++ [quote]))
  | unquoted before after content _ _ _ => before.text ++ '=' :: (after.text ++ content)

/-- The value with its references decoded, which is empty if none is given. -/
def value : ValueForm → String
  | absent => ""
  | quoted _ _ _ content _ _ | unquoted _ _ content _ _ _ => Reference.decoded content

/-- Whether a value is given without quotes. -/
def isUnquoted : ValueForm → Bool
  | absent | quoted _ _ _ _ _ _ => false
  | unquoted _ _ _ _ _ _ => true

end ValueForm

/-- One attribute as it is written in a start tag. -/
structure AttributeForm where
  /-- The blanks before its name. -/
  lead : Gap
  /-- Its name, in any case. -/
  name : List Char
  /-- How it gives its value. -/
  given : ValueForm
  /-- A blank stands before the name. -/
  lead_ne_nil : lead.text ≠ [] := by decide
  /-- The name is not empty. -/
  name_ne_nil : name ≠ [] := by decide
  /-- The name has no blank, quote, equals sign, angle bracket or slash in it. -/
  name_chars : name.all (fun c => !isBlank c && c ∉ ['\x22', '\x27', '=', '<', '>', '/']) = true
    := by decide

namespace AttributeForm

/-- What is written for the attribute. -/
def text (form : AttributeForm) : List Char :=
  form.lead.text ++ (form.name ++ form.given.text)

/-- The name and the value that are meant. -/
def pair (form : AttributeForm) : String × String :=
  (String.ofList (lower form.name), form.given.value)

end AttributeForm

/-- What ends a start tag. -/
def tagEnd (selfClosing : Bool) : List Char :=
  if selfClosing then ['/', '>'] else ['>']

/-- The pairs without those whose name has occurred before. -/
def firstOfEach : List (String × String) → List (String × String)
  | [] => []
  | pair :: rest => pair :: (firstOfEach rest).filter (·.1 != pair.1)

namespace Attributes

/-- A name that is already there is not added again. -/
theorem insert_of_mem {attributes : Attributes} {name : String} (value : String)
    (h : name ∈ attributes.entries.map Prod.fst) : attributes.insert name value = attributes := by
  rw [insert, insert?, dif_pos h, Option.getD_none]

/-- A name that is added is there beside the others. -/
theorem mem_names_insert {attributes : Attributes} {name other : String} (value : String) :
    other ∈ (attributes.insert name value).names ↔ other ∈ attributes.names ∨ other = name := by
  by_cases h : name ∈ attributes.names
  · rw [insert_of_mem value h]
    grind
  · rw [insert_of_not_mem value h]
    simp [names]

/-- Of pairs that are added one after another, the first of each name that is not there yet is
kept. -/
theorem entries_foldl_insert (pairs : List (String × String)) (attributes : Attributes) :
    (pairs.foldl (fun known pair => known.insert pair.1 pair.2) attributes).entries =
      attributes.entries ++ (firstOfEach pairs).filter (·.1 ∉ attributes.names) := by
  induction pairs generalizing attributes with
  | nil => simp [firstOfEach]
  | cons pair rest ih =>
    have hf : (firstOfEach rest).filter (·.1 ∉ (attributes.insert pair.1 pair.2).names) =
        ((firstOfEach rest).filter (·.1 != pair.1)).filter (·.1 ∉ attributes.names) := by
      rw [List.filter_filter]
      refine List.filter_congr fun other _ => ?_
      rw [Bool.eq_iff_iff]
      simp [mem_names_insert]
    rw [List.foldl_cons, ih, hf, firstOfEach]
    by_cases hm : pair.1 ∈ attributes.names
    · rw [insert_of_mem pair.2 hm, List.filter_cons_of_neg (by simpa using hm)]
    · rw [insert_of_not_mem pair.2 hm, List.filter_cons_of_pos (by simpa using hm)]
      simp

end Attributes

namespace Tag

/-- Blanks between the parts of a tag are passed over. -/
theorem readOn_blanks {blanks : List Char} (hb : ∀ c ∈ blanks, isTagBlank c = true)
    (pending : Option String) (attributes : Attributes) (rest : List Char) :
    readOn pending attributes (blanks ++ rest) = readOn pending attributes rest := by
  induction blanks with
  | nil => rfl
  | cons c others ih =>
    rw [List.cons_append, readOn_blank (hb c List.mem_cons_self)]
    exact ih fun d hd => hb d (List.mem_cons_of_mem c hd)

/-- A `/>` ends the tag and its element. -/
theorem readOn_selfClose (pending : Option String) (attributes : Attributes) (rest : List Char) :
    readOn pending attributes ('/' :: '>' :: rest) =
      (some ⟨withPending pending attributes, true⟩, rest) := by
  have hn : next? ('/' :: '>' :: rest) = some (⟨.selfClose, ['/', '>']⟩, rest) := rfl
  rw [readOn_of_next? hn]

/-- A value without quotes is taken up to what stops it, and blanks before it are passed over. -/
theorem value_unquoted {blanks content rest : List Char} (hb : ∀ c ∈ blanks, isBlank c = true)
    (hn : content ≠ []) (ha : ∀ c ∈ content, isBareChar c = true)
    (hq : content.head? ∉ [some '\x22', some '\x27']) (hs : Stops isBareChar rest) :
    value (blanks ++ (content ++ rest)) = (some content, rest) := by
  cases content with
  | nil => exact absurd rfl hn
  | cons c others =>
    have ho : ∀ d ∈ others, isBareChar d = true := fun d hd => ha d (List.mem_cons_of_mem c hd)
    have hc := ha c List.mem_cons_self
    simp only [isBareChar, Bool.and_eq_true, Bool.not_eq_true', bne_iff_ne, ne_eq] at hc
    have hnq : ¬(c = '\x22' ∨ c = '\x27') := by simpa using hq
    rw [value, List.cons_append, dropWhile_append_of_stops hb (stops_cons hc.1 _)]
    simp only [if_neg hc.2, if_neg hnq, takeWhile_append_of_stops ho hs,
      dropWhile_append_of_stops ho hs]

/-- Blanks stand in no name. -/
theorem isNameChar_of_isBlank (c : Char) (h : isBlank c = true) : isNameChar c = false := by
  simp [isNameChar, h]

/-- Blanks stand in no value without quotes. -/
theorem isBareChar_of_isBlank (c : Char) (h : isBlank c = true) : isBareChar c = false := by
  simp [isBareChar, h]

/-- A name with the value in its form is added to the attributes read before, at once or when the
next part of the tag shows that it has no value. -/
theorem readOn_form (form : AttributeForm) {following : List Char}
    (hn : Stops isNameChar following)
    (hu : form.given.isUnquoted = true → Stops isBareChar following)
    (pending : Option String) (attributes : Attributes) :
    ∃ waiting known,
      readOn pending attributes (form.text ++ following) = readOn waiting known following ∧
        withPending waiting known =
          (withPending pending attributes).insert form.pair.1 form.pair.2 := by
  have hc : ∀ c ∈ form.name, isNameChar c = true := by
    intro c hm
    simpa [isNameChar, and_assoc] using List.all_eq_true.1 form.name_chars c hm
  have hname : ∀ rest, Stops isNameChar rest →
      readOn pending attributes (form.lead.text ++ (form.name ++ rest)) =
        readOn (some form.pair.1) (withPending pending attributes) rest := by
    intro rest hr
    rw [readOn_blanks form.lead.isTagBlank, readOn_name form.name_ne_nil hc hr]
    rfl
  have hequals : ∀ (before : Gap) {rest content left : List Char},
      value rest = (some content, left) →
      readOn pending attributes
          (form.lead.text ++ (form.name ++ (before.text ++ '=' :: rest))) =
        readOn none ((withPending pending attributes).insert form.pair.1
          (Reference.decoded content)) left := by
    intro before rest content left hv
    have hs : Stops isNameChar (before.text ++ '=' :: rest) :=
      before.stops isNameChar_of_isBlank fun _ => stops_cons (by decide) rest
    rw [hname _ hs, readOn_blanks before.isTagBlank, readOn_equals hv]
    rfl
  simp only [AttributeForm.text, AttributeForm.pair, List.append_assoc] at hname hequals ⊢
  cases hg : form.given with
  | absent =>
    refine ⟨_, _, hname _ hn, ?_⟩
    rfl
  | quoted before after quote content hq hi =>
    have hb : ∀ c ∈ after.text, isBlank c = true :=
      fun c hm => isBlank_of_isTagBlank (after.isTagBlank c hm)
    have hr := hequals before (value_quoted hq hb hi following)
    refine ⟨none, _, Eq.trans ?_ hr, rfl⟩
    simp [ValueForm.text]
  | unquoted before after content hne hi hq =>
    have hb : ∀ c ∈ after.text, isBlank c = true :=
      fun c hm => isBlank_of_isTagBlank (after.isTagBlank c hm)
    have ha : ∀ c ∈ content, isBareChar c = true := List.all_eq_true.1 hi
    have hs : Stops isBareChar following := hu (by simp [hg, ValueForm.isUnquoted])
    have hr := hequals before (value_unquoted hb hne ha hq hs)
    refine ⟨none, _, Eq.trans ?_ hr, rfl⟩
    simp [ValueForm.text]

/-- What is written for attributes begins with a blank, so that it stops names and values before
it. Where there are no attributes, what comes after them has to. -/
theorem stops_forms {p : Char → Bool} (hp : ∀ c, isBlank c = true → p c = false)
    (forms : List AttributeForm) {ending : List Char} (he : forms = [] → Stops p ending) :
    Stops p (forms.flatMap AttributeForm.text ++ ending) := by
  cases forms with
  | nil => exact he rfl
  | cons form others =>
    simp only [List.flatMap_cons, AttributeForm.text, List.append_assoc]
    exact form.lead.stops hp fun hl => absurd hl form.lead_ne_nil

/-- Attributes in any forms are added in order to those read before. -/
theorem readOn_forms (forms : List AttributeForm) {ending : List Char}
    (hn : Stops isNameChar ending)
    (hu : ∀ last ∈ forms.getLast?, last.given.isUnquoted = true → Stops isBareChar ending)
    (pending : Option String) (attributes : Attributes) :
    ∃ waiting known,
      readOn pending attributes (forms.flatMap AttributeForm.text ++ ending) =
          readOn waiting known ending ∧
        withPending waiting known =
          (forms.map AttributeForm.pair).foldl (fun known pair => known.insert pair.1 pair.2)
            (withPending pending attributes) := by
  -- A bare name is added one step late, so what is kept is the attributes with the pending name.
  induction forms generalizing pending attributes with
  | nil => exact ⟨pending, attributes, rfl, rfl⟩
  | cons form others ih =>
    have hname := stops_forms isNameChar_of_isBlank others fun _ => hn
    have hbare : form.given.isUnquoted = true →
        Stops isBareChar (others.flatMap AttributeForm.text ++ ending) := by
      intro hf
      refine stops_forms isBareChar_of_isBlank others fun ho => ?_
      exact hu form (by simp [ho]) hf
    have hlast : ∀ last ∈ others.getLast?,
        last.given.isUnquoted = true → Stops isBareChar ending := by
      intro last hl
      refine hu last ?_
      rw [List.getLast?_cons, Option.mem_def.1 hl]
      rfl
    obtain ⟨waiting, known, hr, hk⟩ := readOn_form form hname hbare pending attributes
    obtain ⟨last, all, hl, ha⟩ := ih hlast waiting known
    refine ⟨last, all, ?_, ?_⟩
    · rw [List.flatMap_cons, List.append_assoc, hr, hl]
    · rw [ha, hk, List.map_cons, List.foldl_cons]

/-- The end of a tag is read with the name that still waits for a value. -/
theorem readOn_tagEnd (gap : Gap) (selfClosing : Bool) (pending : Option String)
    (attributes : Attributes) (rest : List Char) :
    readOn pending attributes (gap.text ++ (tagEnd selfClosing ++ rest)) =
      (some ⟨withPending pending attributes, selfClosing⟩, rest) := by
  rw [readOn_blanks gap.isTagBlank]
  cases selfClosing with
  | false => exact readOn_close pending attributes rest
  | true => exact readOn_selfClose pending attributes rest

end Tag

/-- Start tags accept attributes in every form. Whatever attributes are written, with blanks before
each, and however the tag ends, it is read as the attributes in the order in which they are written,
less those whose name in lower case has occurred before, and what follows the tag is left. Only a
slash directly after a value without quotes would belong to the value. -/
theorem read_attribute_forms (forms : List AttributeForm) (gap : Gap) (selfClosing : Bool)
    (hu : selfClosing = true → gap.text = [] →
      ∀ last ∈ forms.getLast?, last.given.isUnquoted = false) (rest : List Char) :
    ∃ tag, Tag.read
        (forms.flatMap AttributeForm.text ++ (gap.text ++ (tagEnd selfClosing ++ rest))) =
          (some tag, rest) ∧
      tag.selfClosing = selfClosing ∧
      tag.attributes.entries = firstOfEach (forms.map AttributeForm.pair) := by
  have hname : Stops Tag.isNameChar (gap.text ++ (tagEnd selfClosing ++ rest)) := by
    refine gap.stops Tag.isNameChar_of_isBlank fun _ => ?_
    cases selfClosing <;> exact stops_cons (by decide) _
  have hbare : ∀ last ∈ forms.getLast?, last.given.isUnquoted = true →
      Stops Tag.isBareChar (gap.text ++ (tagEnd selfClosing ++ rest)) := by
    intro last hl hf
    refine gap.stops Tag.isBareChar_of_isBlank fun hg => ?_
    cases selfClosing with
    | false => exact stops_cons (by decide) _
    | true =>
      rw [hu rfl hg last hl] at hf
      exact absurd hf Bool.false_ne_true
  obtain ⟨waiting, known, hr, hk⟩ := Tag.readOn_forms forms hname hbare none Attributes.empty
  refine ⟨⟨Tag.withPending waiting known, selfClosing⟩, ?_, rfl, ?_⟩
  · rw [Tag.read, hr, Tag.readOn_tagEnd]
  · have he := Attributes.entries_foldl_insert (forms.map AttributeForm.pair) Attributes.empty
    rw [hk]
    simpa [Tag.withPending, Attributes.empty, Attributes.names] using he

/-- Attributes in every form, of which one repeats a name and one has a slash at the end of its
value. -/
def sampleForms : List AttributeForm :=
  [.mk (.mk [' ']) ['I', 'D']
     (.quoted (.mk ['\n']) (.mk []) '\x22' "a>'b' &amp;".toList (by decide) (by decide)),
   .mk (.mk ['\t', ' ']) ['O', 'k'] .absent,
   .mk (.mk [' ']) ['i', 'd']
     (.quoted (.mk []) (.mk [' ']) '\x27' "/>".toList (by decide) (by decide)),
   .mk (.mk [' ']) ['x']
     (.unquoted (.mk []) (.mk []) ['=', '/'] (by decide) (by decide) (by decide))]

/-- A blank keeps the slash that ends the tag apart from the one that belongs to the value. -/
theorem read_sampleForms :
    (∀ last ∈ sampleForms.getLast?, last.given.isUnquoted = true) ∧
      ∃ tag, Tag.read " ID\n=\"a>'b' &amp;\"\t Ok id= '/>' x==/ /><p>".toList =
          (some tag, "<p>".toList) ∧
        tag.selfClosing = true ∧
        tag.attributes.entries = [("id", "a>'b' &"), ("ok", ""), ("x", "=/")] := by
  have hf : firstOfEach (sampleForms.map AttributeForm.pair) =
      [("id", "a>'b' &"), ("ok", ""), ("x", "=/")] := by decide +kernel
  have hr := read_attribute_forms sampleForms ⟨[' '], by decide⟩ true
    (fun _ hg => absurd hg (List.cons_ne_nil _ _)) "<p>".toList
  rw [hf] at hr
  exact ⟨by decide, hr⟩

end ViewCode.Markup
