import ViewCode.Proofs.ContentModels

/-!
# Raw-text elements

The content of a raw-text element is everything up to the first end tag of the element, in any case,
and nothing in it is markup. What begins like that end tag but has a longer name belongs to the
content, also where the end tag comes directly after it. So the element is read as one text, with
its references decoded or not, and what follows the end tag is read on its own.
-/

namespace ViewCode.Markup

open ViewCode.Text

/-- The characters that end the name in the end tag of a raw-text element. -/
def nameEnds : List Char :=
  [' ', '\t', '\n', '\x0c', '\r', '/', '>']

/-- No end tag of the named element begins in the content: where `</` and the name stand in it, in
any case, and something follows there, the name goes on. -/
def HasNoEndTag (name : String) (content : List Char) : Prop :=
  ∀ before written c after, content = before ++ '<' :: '/' :: (written ++ c :: after) →
    Spells written name → c ∉ nameEnds

/-- The content ends with `</` and the name, in any case. -/
def EndsWithName (name : String) (content : List Char) : Prop :=
  ∃ before written, content = before ++ '<' :: '/' :: written ∧ Spells written name

/-- The text is an end tag of the named element, in any case. What stands between the name and the
`>` begins with a character that ends the name. -/
def IsEndTagOf (name : String) (text : List Char) : Prop :=
  ∃ written inner, text = '<' :: '/' :: (written ++ (inner ++ ['>'])) ∧ Spells written name ∧
    '>' ∉ inner ∧ inner.head?.all (· ∈ nameEnds) = true

namespace RawText

/-- A name is passed over in the case in which it is written. -/
theorem afterName?_eq_some_iff {name text after : List Char} :
    afterName? name text = some after ↔
      ∃ written, text = written ++ after ∧ written.map Char.toLower = name := by
  induction name generalizing text with
  | nil => simp [afterName?, eq_comm]
  | cons n name ih =>
    cases text with
    | nil => simp [afterName?]
    | cons c text =>
      by_cases hc : c.toLower = n
      · rw [afterName?, if_pos hc, ih]
        constructor
        · rintro ⟨written, rfl, rfl⟩
          exact ⟨c :: written, rfl, by simp [hc]⟩
        · rintro ⟨written, ht, hw⟩
          obtain ⟨d, others, rfl, rfl, rfl⟩ := List.map_eq_cons_iff.1 hw
          exact ⟨others, (List.cons.inj ht).2, rfl⟩
      · rw [afterName?, if_neg hc]
        constructor
        · intro h
          exact absurd h (by simp)
        · rintro ⟨written, ht, hw⟩
          obtain ⟨d, others, rfl, hd, -⟩ := List.map_eq_cons_iff.1 hw
          exact absurd ((List.cons.inj ht).1 ▸ hd) hc

/-- What comes after `</` and the name, if the text begins with them. -/
def afterEndName? (name : List Char) : List Char → Option (List Char)
  | '<' :: '/' :: text => afterName? name text
  | _ => none

theorem afterEndName?_eq_some_iff {name text after : List Char} :
    afterEndName? name text = some after ↔
      ∃ written, text = '<' :: '/' :: (written ++ after) ∧ written.map Char.toLower = name := by
  unfold afterEndName?
  split
  · simp [afterName?_eq_some_iff]
  · rename_i hn
    constructor
    · intro h
      exact absurd h (by simp)
    · rintro ⟨written, rfl, -⟩
      exact absurd rfl (hn _)

/-- An end tag begins with `</` and the name, in any case, and the name ends there. -/
theorem isEndTag_iff {name text : List Char} :
    isEndTag name text = true ↔
      ∃ written after, text = '<' :: '/' :: (written ++ after) ∧
        written.map Char.toLower = name ∧ endsName after = true := by
  have hm : isEndTag name text = ((afterEndName? name text).map endsName).getD false := by
    fun_cases afterEndName? name text with
    | case1 => rfl
    | case2 _ hn => exact isEndTag.eq_2 name text hn
  have hs : isEndTag name text = true ↔
      ∃ after, afterEndName? name text = some after ∧ endsName after = true := by
    rw [hm]
    cases afterEndName? name text <;> simp
  rw [hs]
  simp only [afterEndName?_eq_some_iff]
  grind

theorem endsName_cons {c : Char} {rest : List Char} :
    endsName (c :: rest) = true ↔ c ∈ nameEnds := by
  simp only [endsName, isTagBlank, nameEnds, Bool.or_eq_true, beq_iff_eq, List.mem_cons,
    List.not_mem_nil, or_false]
  tauto

/-- Content in which no end tag begins is taken whole, and the search goes on after it. -/
theorem upToEndTag_append {name content following : List Char}
    (h : ∀ rest, rest <:+ content → rest ≠ [] → isEndTag name (rest ++ following) = false) :
    upToEndTag name (content ++ following) =
      (content ++ (upToEndTag name following).1, (upToEndTag name following).2) := by
  induction content with
  | nil => rfl
  | cons c rest ih =>
    have hc : isEndTag name (c :: (rest ++ following)) = false :=
      h (c :: rest) List.suffix_rfl (List.cons_ne_nil c rest)
    have hr := ih fun other ho => h other (ho.trans (List.suffix_cons c rest))
    rw [List.cons_append, upToEndTag, if_neg (by simp [hc]), hr]
    rfl

/-- An end tag at the front is passed over up to its `>`. -/
theorem upToEndTag_of_isEndTagOf {name : String} {finish : List Char}
    (h : IsEndTagOf name finish) (hg : '>' ∉ name.toList) (more : List Char) :
    upToEndTag name.toList (finish ++ more) = ([], more) := by
  obtain ⟨written, inner, rfl, hs, hi, he⟩ := h
  have hw : '>' ∉ written := by
    intro hm
    have hl : '>'.toLower ∈ written.map Char.toLower := List.mem_map_of_mem hm
    rw [hs] at hl
    exact hg hl
  have hend : isEndTag name.toList
      ('<' :: '/' :: (written ++ (inner ++ '>' :: more))) = true := by
    refine isEndTag_iff.2 ⟨written, inner ++ '>' :: more, rfl, hs, ?_⟩
    cases inner with
    | nil => rfl
    | cons c rest => exact endsName_cons.2 (by simpa using he)
  have hd : ('<' :: '/' :: (written ++ (inner ++ '>' :: more))).dropWhile (· != '>') =
      '>' :: more := by
    have hrun : ∀ c ∈ '<' :: '/' :: (written ++ inner), (c != '>') = true := by
      intro c hc
      simp only [List.mem_cons, List.mem_append] at hc
      rcases hc with rfl | rfl | hc | hc
      · rfl
      · rfl
      · exact bne_iff_ne.2 fun e => hw (e ▸ hc)
      · exact bne_iff_ne.2 fun e => hi (e ▸ hc)
    have hs : Stops (· != '>') ('>' :: more) := stops_cons rfl more
    have hall := dropWhile_append_of_stops hrun hs
    simpa using hall
  simp only [List.cons_append, List.append_assoc, List.nil_append]
  rw [upToEndTag, if_pos hend, hd]
  rfl

/-- Where content without an end tag is followed by a `<`, or by nothing and does not end with `</`
and the name, no end tag begins in it: none can begin in it and go on after it. -/
theorem isEndTag_suffix_append {name : String} {content following rest : List Char}
    (hn : '<' ∉ name.toList) (hc : HasNoEndTag name content)
    (hf : following.head? = some '<' ∨ following = [] ∧ ¬EndsWithName name content)
    (hr : rest <:+ content) (hne : rest ≠ []) :
    isEndTag name.toList (rest ++ following) = false := by
  obtain ⟨before, rfl⟩ := hr
  rw [Bool.eq_false_iff]
  intro he
  obtain ⟨written, after, ht, hs, hend⟩ := isEndTag_iff.1 he
  have hw : '<' ∉ '/' :: written := by
    intro hm
    have hm : '<' ∈ written := (List.mem_cons.1 hm).resolve_left (by decide)
    have hl : '<'.toLower ∈ written.map Char.toLower := List.mem_map_of_mem hm
    rw [hs] at hl
    exact hn hl
  have hwhole : rest = '<' :: '/' :: written → after ≠ following := by
    intro hrest hafter
    rcases hf with hf | ⟨-, hno⟩
    · obtain ⟨others, rfl⟩ := List.head?_eq_some_iff.1 hf
      rw [hafter] at hend
      exact absurd (endsName_cons.1 hend) (by decide)
    · exact hno ⟨before, written, by rw [hrest], hs⟩
  have ha : rest ++ following = ('<' :: '/' :: written) ++ after := ht
  -- The end tag's beginning reaches over the end of the content, or it does not.
  rcases List.append_eq_append_iff.1 ha with ⟨beyond, hb, hfollow⟩ | ⟨inner, hi, hafter⟩
  · cases beyond with
    | nil => exact hwhole (by simpa using hb.symm) (by simpa using hfollow.symm)
    | cons c others =>
      rcases hf with hf | ⟨hf, -⟩
      · rw [hfollow, List.cons_append, List.head?_cons, Option.some.injEq] at hf
        subst hf
        obtain ⟨d, tail, rfl⟩ := List.exists_cons_of_ne_nil hne
        have htail : '/' :: written = tail ++ '<' :: others := (List.cons.inj hb).2
        exact hw (htail ▸ List.mem_append_right tail List.mem_cons_self)
      · rw [hf] at hfollow
        exact absurd hfollow (by simp)
  · cases inner with
    | nil => exact hwhole (by simpa using hi) (by simpa using hafter)
    | cons c others =>
      have hin : before ++ rest = before ++ '<' :: '/' :: (written ++ c :: others) := by
        rw [hi]
        rfl
      rw [hafter, List.cons_append] at hend
      exact hc before written c others hin hs (endsName_cons.1 hend)

end RawText

/-- The content has no end tag in it if none begins one of its ends. -/
theorem hasNoEndTag_iff {name : String} {content : List Char} :
    HasNoEndTag name content ↔
      content.tails.all (fun rest =>
        ((RawText.afterEndName? name.toList rest).bind List.head?).all (· ∉ nameEnds)) = true := by
  simp only [List.all_eq_true, List.mem_tails, Option.all_eq_true, Option.bind_eq_some_iff,
    RawText.afterEndName?_eq_some_iff, decide_eq_true_eq]
  constructor
  · rintro h rest ⟨before, rfl⟩ c ⟨after, ⟨written, rfl, hs⟩, hc⟩
    obtain ⟨others, rfl⟩ := List.head?_eq_some_iff.1 hc
    exact h before written c others rfl hs
  · rintro h before written c after rfl hs
    exact h _ (List.suffix_append before _) c ⟨c :: after, ⟨written, rfl, hs⟩, rfl⟩

theorem endsWithName_iff {name : String} {content : List Char} :
    EndsWithName name content ↔
      content.tails.any (RawText.afterEndName? name.toList · = some []) = true := by
  simp only [List.any_eq_true, List.mem_tails, decide_eq_true_eq,
    RawText.afterEndName?_eq_some_iff, List.append_nil]
  constructor
  · rintro ⟨before, written, rfl, hs⟩
    exact ⟨_, List.suffix_append before _, written, rfl, hs⟩
  · rintro ⟨rest, ⟨before, rfl⟩, written, rfl, hs⟩
    exact ⟨before, written, rfl, hs⟩

instance (name : String) (content : List Char) : Decidable (HasNoEndTag name content) :=
  decidable_of_iff' _ hasNoEndTag_iff

instance (name : String) (content : List Char) : Decidable (EndsWithName name content) :=
  decidable_of_iff' _ endsWithName_iff

/-- The names of raw-text elements. -/
def rawNames : List String :=
  ["script", "style", "textarea", "title"]

/-- What is reported of the content of a raw-text element. References are decoded in some elements
only, and nothing is reported of no content. -/
def rawTextEvents (name content : String) : List Event :=
  if content = "" then []
  else if name ∈ ["textarea", "title"] then
    [.text (Reference.decoded content.toList)]
  else [.text content]

/-- References are decoded in the content of `textarea` and `title`. -/
theorem escapable_iff_of_rawMode? {name : String} {mode : ContentModel.RawMode}
    (hm : ContentModel.rawMode? name = some mode) :
    mode = .escapable ↔ name ∈ ["textarea", "title"] := by
  unfold ContentModel.rawMode? at hm
  split at hm
  · rename_i hn
    cases hm
    rcases hn with rfl | rfl <;> decide
  · split at hm
    · rename_i hn
      cases hm
      simpa using hn
    · simp at hm

/-- Content that is not empty stands for a text that is not empty. -/
theorem Piece.rawContent_eq_empty_iff {mode : ContentModel.RawMode} {content : List Char} :
    rawContent mode content = "" ↔ content = [] := by
  cases mode with
  | verbatim => exact String.ofList_eq_empty_iff
  | escapable => exact Reference.decoded_eq_empty_iff

/-- A raw-text element reports its content between its start and its end. -/
theorem Nesting.eventsOf_step_rawElement {name : String} {mode : ContentModel.RawMode}
    (hm : ContentModel.rawMode? name = some mode) (attributes : Attributes) (content : List Char) :
    eventsOf (step [] (.rawElement name attributes (Piece.rawContent mode content))).1 =
      .enter name attributes :: (rawTextEvents name (String.ofList content) ++ [.leave]) := by
  have hd := escapable_iff_of_rawMode? hm
  by_cases hc : content = []
  · have he : Piece.rawContent mode content = "" := Piece.rawContent_eq_empty_iff.2 hc
    have ht : rawTextEvents name (String.ofList content) = [] := by simp [rawTextEvents, hc]
    simp [step, rawElement, endImplied, he, ht]
  · have he : Piece.rawContent mode content ≠ "" := fun e => hc (Piece.rawContent_eq_empty_iff.1 e)
    have ht : rawTextEvents name (String.ofList content) =
        [.text (Piece.rawContent mode content)] := by
      cases mode <;> simp [rawTextEvents, hc, Piece.rawContent, ← hd]
    simp [step, rawElement, endImplied, he, ht]

/-- There are no events in no markup. -/
theorem events_empty : events (String.ofList []) = [] := by
  rw [events_eq_eventsOf_report, String.toList_ofList, Piece.scan_nil]
  rfl

/-- A raw-text element at the front is read as its text, and what comes after it is read on its
own. -/
theorem events_rawElement {name : String} (hn : name ∈ rawNames) {rest content more : List Char}
    (h : RawText.upToEndTag name.toList rest = (content, more)) :
    events (String.ofList ('<' :: (name.toList ++ '>' :: rest))) =
      .enter name ∅ :: (rawTextEvents name (String.ofList content) ++
        .leave :: events (String.ofList more)) := by
  have hname : isTagName name = true ∧ ContentModel.rawMode? name ≠ none := by
    simp only [rawNames, List.mem_cons, List.not_mem_nil, or_false] at hn
    rcases hn with rfl | rfl | rfl | rfl <;> decide
  obtain ⟨mode, hm⟩ := Option.ne_none_iff_exists'.1 hname.2
  have hs : Spells name.toList name :=
    .self fun c hc => (forall_mem_of_isTagName hname.1 c hc).1
  have hread : Tag.read ('>' :: rest) = (some ⟨∅, false⟩, rest) :=
    Tag.readOn_close none Attributes.empty rest
  have hp : Piece.next? ('<' :: (name.toList ++ '>' :: rest)) =
      some (.rawElement name ∅ (Piece.rawContent mode content), more) := by
    rw [Piece.next?_startTag hs hname.1 (stops_cons (by decide) rest), Piece.ofStartTag, hread]
    simp only [hm, h, Bool.false_eq_true, if_false]
  have he := Nesting.eventsOf_step_rawElement hm ∅ content
  rw [events_eq_eventsOf_report, events_eq_eventsOf_report, String.toList_ofList,
    String.toList_ofList, Piece.scan_of_next? hp, Nesting.eventsOf_report_cons, he]
  simp [Nesting.step, Nesting.rawElement, Nesting.endImplied]

/-- Raw-text elements are read verbatim up to their end tag. Where no end tag of the element begins
in the content, the content is one text, whatever else is in it; what follows the end tag is read as
if it stood alone; and without an end tag the element ends with the input. -/
theorem events_of_raw_text {name : String} (hn : name ∈ rawNames) {content : String}
    (hc : HasNoEndTag name content.toList) :
    (∀ finish more : String, IsEndTagOf name finish.toList →
      events ("<" ++ name ++ ">" ++ content ++ finish ++ more) =
        .enter name ∅ :: (rawTextEvents name content ++ .leave :: events more)) ∧
      (¬EndsWithName name content.toList →
        events ("<" ++ name ++ ">" ++ content) =
          .enter name ∅ :: (rawTextEvents name content ++ [.leave])) := by
  have hless : '<' ∉ name.toList ∧ '>' ∉ name.toList := by
    simp only [rawNames, List.mem_cons, List.not_mem_nil, or_false] at hn
    rcases hn with rfl | rfl | rfl | rfl <;> decide
  have hmarkup : ∀ rest : String, String.ofList ('<' :: (name.toList ++ '>' :: rest.toList)) =
      "<" ++ name ++ ">" ++ rest := by
    intro rest
    apply String.toList_inj.1
    simp
  constructor
  · intro finish more hf
    have hhead : (finish.toList ++ more.toList).head? = some '<' := by
      obtain ⟨written, inner, ht, -⟩ := hf
      rw [ht]
      rfl
    have hu : RawText.upToEndTag name.toList (content ++ finish ++ more).toList =
        (content.toList, more.toList) := by
      rw [String.toList_append, String.toList_append, List.append_assoc,
        RawText.upToEndTag_append fun rest =>
          RawText.isEndTag_suffix_append hless.1 hc (.inl hhead),
        RawText.upToEndTag_of_isEndTagOf hf hless.2, List.append_nil]
    have he := events_rawElement hn hu
    rw [hmarkup, String.ofList_toList, String.ofList_toList] at he
    rw [← he]
    simp only [String.append_assoc]
  · intro hno
    have hu : RawText.upToEndTag name.toList content.toList = (content.toList, []) := by
      have ha : RawText.upToEndTag name.toList (content.toList ++ []) = _ :=
        RawText.upToEndTag_append fun rest =>
          RawText.isEndTag_suffix_append hless.1 hc (.inr ⟨rfl, hno⟩)
      rwa [List.append_nil, RawText.upToEndTag, List.append_nil] at ha
    have he := events_rawElement hn hu
    rw [hmarkup, String.ofList_toList, events_empty] at he
    exact he

/-- The content may end like the end tag that follows it, and a longer name does not end it. -/
theorem events_of_raw_text_samples :
    (HasNoEndTag "script" "a<b>&lt;</Script".toList ∧
      events "<script>a<b>&lt;</Script</SCRIPT /x>&lt;<p>" =
        [.enter "script" ∅, .text "a<b>&lt;</Script", .leave, .text "<", .enter "p" ∅, .leave]) ∧
      HasNoEndTag "title" "&lt;</titles> <!--".toList ∧
      ¬EndsWithName "title" "&lt;</titles> <!--".toList ∧
      events "<title>&lt;</titles> <!--" =
        [.enter "title" ∅, .text "<</titles> <!--", .leave] := by
  have hs : HasNoEndTag "script" "a<b>&lt;</Script".toList := by decide +kernel
  have ht : HasNoEndTag "title" "&lt;</titles> <!--".toList := by decide +kernel
  have hn : ¬EndsWithName "title" "&lt;</titles> <!--".toList := by decide +kernel
  have hf : IsEndTagOf "script" "</SCRIPT /x>".toList :=
    ⟨"SCRIPT".toList, " /x".toList, by decide, by decide, by decide, by decide⟩
  have hscript := (events_of_raw_text (by decide) hs).1 "</SCRIPT /x>" "&lt;<p>" hf
  have htitle := (events_of_raw_text (by decide) ht).2 hn
  refine ⟨⟨hs, hscript.trans ?_⟩, ht, hn, htitle.trans ?_⟩
  · decide +kernel
  · decide +kernel

end ViewCode.Markup
