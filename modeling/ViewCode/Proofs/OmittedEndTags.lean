import ViewCode.Proofs.ContentModels

/-!
# End tags that are left out

Some end tags can be left out of markup, because reading recovers them: from a start tag that ends
the elements before it, from the end tag of an element around them, or from the end of the input.
What is open after a node is its tail: the element itself and the tail of its last child. Where each
tail is ended by what comes next, the events are the same as with all end tags.
-/

namespace ViewCode.Markup

open ViewCode.Text

/-- Sibling nodes as in a forest, with a note on each element whether its end tag is written. -/
inductive TaggedForest where
  /-- No nodes. -/
  | nil
  /-- An element with its attributes and children, and the siblings after it. -/
  | element (name : String) (attributes : Attributes) (ended : Bool)
      (children next : TaggedForest)
  /-- A text, and the siblings after it. -/
  | text (content : String) (next : TaggedForest)
  deriving DecidableEq, Repr

/-- The events of a walk through the forest after a text, in which texts that stand side by side
are met as one and empty ones are not met. -/
def Forest.joinedWalk (before : String) : Forest → List Event
  | .nil => textEvents before
  | .text content next => next.joinedWalk (before ++ content)
  | .element name attributes children next =>
    textEvents before ++
      .enter name attributes :: (children.joinedWalk "" ++ .leave :: next.joinedWalk "")

namespace TaggedForest

/-- The forest without the notes. -/
def forest : TaggedForest → Forest
  | nil => .nil
  | element name attributes _ children next =>
    .element name attributes children.forest next.forest
  | text content next => .text content next.forest

/-- The elements that are open after an element, outermost first, given those that are open after
its children: none if its end tag is written or if it is void. -/
def tail (name : String) (ended : Bool) (inner : List String) : List String :=
  if ended || ContentModel.isVoid name then [] else name :: inner

/-- The tail of the last node; where there is no node, the given one. -/
def lastTail (before : List String) : TaggedForest → List String
  | nil => before
  | text _ next => next.lastTail []
  | element name _ ended children next => next.lastTail (tail name ended (children.lastTail []))

/-- Whether nothing comes next, or an element whose start tag ends all of the given elements. A text
may come next only where there are none. -/
def endsAll (pending : List String) : TaggedForest → Bool
  | nil => true
  | text _ _ => pending.isEmpty
  | element name _ _ _ _ => pending.all (ContentModel.impliesEnd name)

/-- Whether the end tags that are left out are recovered: each tail is ended by what comes next in
its element, and no end tag names an element in the tail before it. -/
def isRecoverable : TaggedForest → Bool
  | nil => true
  | text _ next => next.isRecoverable
  | element name _ ended children next =>
    (!ended || !(children.lastTail []).contains name) &&
      next.endsAll (tail name ended (children.lastTail [])) && children.isRecoverable &&
      next.isRecoverable

/-- The end tag of the element, if it is written. -/
def endPieces (name : String) (ended : Bool) : List Piece :=
  if ended && !ContentModel.isVoid name then [.endTag name] else []

/-- The pieces of the forest after a text, with texts that stand side by side as one. -/
def piecesAfter (before : String) : TaggedForest → List Piece
  | nil => textPieces before
  | text content next => next.piecesAfter (before ++ content)
  | element name attributes ended children next =>
    textPieces before ++ .startTag name ⟨attributes, false⟩ ::
      (children.piecesAfter "" ++ (endPieces name ended ++ next.piecesAfter ""))

theorem endsAll_nil (forest : TaggedForest) : forest.endsAll [] = true := by
  cases forest <;> rfl

theorem eq_nil_of_forest {tagged : TaggedForest} (h : tagged.forest = .nil) : tagged = nil := by
  cases tagged with
  | nil => rfl
  | element => cases h
  | text => cases h

theorem isRecoverable_element {name : String} {attributes : Attributes} {ended : Bool}
    {children next : TaggedForest} :
    (element name attributes ended children next).isRecoverable = true ↔
      (ended = true → name ∉ children.lastTail []) ∧
        next.endsAll (tail name ended (children.lastTail [])) = true ∧
        children.isRecoverable = true ∧ next.isRecoverable = true := by
  simp [isRecoverable, and_assoc, Classical.or_iff_not_imp_left]

theorem tail_of_isVoid {name : String} (h : ContentModel.isVoid name = true) (ended : Bool)
    (inner : List String) : tail name ended inner = [] := by
  simp [tail, h]

theorem tail_omitted {name : String} (h : ContentModel.isVoid name = false)
    (inner : List String) : tail name false inner = name :: inner := by
  simp [tail, h]

theorem endPieces_of_isVoid {name : String} (h : ContentModel.isVoid name = true) (ended : Bool) :
    endPieces name ended = [] := by
  simp [endPieces, h]

theorem endPieces_ended {name : String} (h : ContentModel.isVoid name = false) :
    endPieces name true = [.endTag name] := by
  simp [endPieces, h]

theorem endPieces_omitted (name : String) : endPieces name false = [] := rfl

end TaggedForest

/-- The forest with all end tags. -/
def Forest.withEndTags : Forest → TaggedForest
  | .nil => .nil
  | .element name attributes children next =>
    .element name attributes true children.withEndTags next.withEndTags
  | .text content next => .text content next.withEndTags

namespace Forest

theorem forest_withEndTags (forest : Forest) : forest.withEndTags.forest = forest := by
  induction forest with
  | nil => rfl
  | element name attributes children next ihc ihn =>
    rw [withEndTags, TaggedForest.forest, ihc, ihn]
  | text content next ih => rw [withEndTags, TaggedForest.forest, ih]

/-- Nothing is open after a forest with all end tags. -/
theorem lastTail_withEndTags (forest : Forest) : forest.withEndTags.lastTail [] = [] := by
  induction forest with
  | nil => rfl
  | element name attributes children next _ ihn => exact ihn
  | text content next ih => exact ih

/-- Nothing has to be recovered in a forest with all end tags. -/
theorem isRecoverable_withEndTags (forest : Forest) :
    forest.withEndTags.isRecoverable = true := by
  induction forest with
  | nil => rfl
  | element name attributes children next ihc ihn =>
    simp [withEndTags, TaggedForest.isRecoverable, lastTail_withEndTags, TaggedForest.tail,
      TaggedForest.endsAll_nil, ihc, ihn]
  | text content next ih => exact ih

end Forest

namespace Nesting

/-- Whatever follows them, the pieces report the events and turn the open elements into others. -/
def Reports (opened : OpenElements) (pieces : List Piece) (events : List Event)
    (after : OpenElements) : Prop :=
  ∀ rest, eventsOf (report opened (pieces ++ rest)) = events ++ eventsOf (report after rest)

namespace Reports

theorem nil (opened : OpenElements) : Reports opened [] [] opened :=
  fun _ => rfl

/-- One piece reports what its step does. -/
theorem single {opened after : OpenElements} {piece : Piece} {events : List Event}
    (he : eventsOf (step opened piece).1 = events) (ha : (step opened piece).2 = after) :
    Reports opened [piece] events after := by
  intro rest
  rw [List.singleton_append, eventsOf_report_cons, he, ha]

/-- Pieces after pieces report what both do. -/
theorem append {opened between after : OpenElements} {first second : List Piece}
    {events others : List Event} (hf : Reports opened first events between)
    (hs : Reports between second others after) :
    Reports opened (first ++ second) (events ++ others) after := by
  intro rest
  rw [List.append_assoc, hf, hs, List.append_assoc]

theorem textPieces (opened : OpenElements) (content : String) :
    Reports opened (textPieces content) (textEvents content) opened := by
  unfold Markup.textPieces textEvents
  split
  · exact nil opened
  · exact single rfl rfl

end Reports

/-- A start tag ends those innermost elements that it ends one after another. -/
theorem endImplied_append {name : String} {pending : List String} {opened : OpenElements}
    (hp : ∀ ended ∈ pending, ContentModel.impliesEnd name ended = true)
    (ho : ∀ innermost ∈ opened.head?, ContentModel.impliesEnd name innermost = false) :
    eventsOf (endImplied name (pending ++ opened)).1 = List.replicate pending.length Event.leave ∧
      (endImplied name (pending ++ opened)).2 = opened := by
  induction pending with
  | nil => simp [endImplied_of_head ho]
  | cons innermost outer ih =>
    have hi := hp innermost List.mem_cons_self
    obtain ⟨he, ha⟩ := ih fun ended hm => hp ended (List.mem_cons_of_mem innermost hm)
    rw [List.cons_append, endImplied, if_pos hi]
    exact ⟨congrArg (Event.leave :: ·) he, ha⟩

/-- An end tag ends the nearest element of its name, with those inside it. -/
theorem endTag_append {name : String} {inner : List String} (h : name ∉ inner)
    (outer : OpenElements) :
    eventsOf (endTag name (inner ++ name :: outer)).1 =
        List.replicate inner.length Event.leave ++ [Event.leave] ∧
      (endTag name (inner ++ name :: outer)).2 = outer := by
  have hb : ∀ other ∈ inner, (other != name) = true := by
    intro other hm
    exact bne_iff_ne.2 fun e => h (e ▸ hm)
  have ht : (inner ++ name :: outer).takeWhile (· != name) = inner := by
    rw [List.takeWhile_append_of_pos hb]
    simp
  have hd : (inner ++ name :: outer).dropWhile (· != name) = name :: outer := by
    rw [List.dropWhile_append_of_pos hb]
    simp
  rw [endTag, if_pos (by simp), ht, hd, eventsOf_replicate_leave]
  exact ⟨List.replicate_succ', rfl⟩

/-- The end of the input ends all open elements. -/
theorem eventsOf_endOfInput (opened : OpenElements) :
    eventsOf (endOfInput opened) = List.replicate opened.length Event.leave := by
  induction opened with
  | nil => rfl
  | cons innermost outer ih => exact congrArg (Event.leave :: ·) ih

/-- A start tag ends the elements before it and then enters its own, which it also leaves if that
is void. -/
theorem Reports.startTag {name : String} (attributes : Attributes) {pending : List String}
    {opened : OpenElements} (hp : ∀ ended ∈ pending, ContentModel.impliesEnd name ended = true)
    (ho : ∀ innermost ∈ opened.head?, ContentModel.impliesEnd name innermost = false) :
    Reports (pending.reverse ++ opened) [.startTag name ⟨attributes, false⟩]
      (List.replicate pending.length Event.leave ++
        .enter name attributes :: (if ContentModel.isVoid name then [Event.leave] else []))
      (if ContentModel.isVoid name then opened else name :: opened) := by
  obtain ⟨he, ha⟩ := endImplied_append (fun ended hm => hp ended (List.mem_reverse.1 hm)) ho
  rw [List.length_reverse] at he
  apply Reports.single
  · cases hv : ContentModel.isVoid name <;> simp [step, Nesting.startTag, hv, he]
  · cases hv : ContentModel.isVoid name <;> simp [step, Nesting.startTag, hv, ha]

/-- The pieces end the pending elements and report the walk, but for the ends of the elements that
are left open after them. -/
def Recovers (opened : OpenElements) (pending : List String) (pieces : List Piece)
    (walk : List Event) (left : List String) : Prop :=
  ∃ shown, Reports (pending.reverse ++ opened) pieces shown (left.reverse ++ opened) ∧
    shown ++ List.replicate left.length Event.leave =
      List.replicate pending.length Event.leave ++ walk

namespace Recovers

variable {opened : OpenElements} {pending left : List String} {name : String}

/-- What is left open by the first pieces is pending for the second ones. -/
theorem append {first second : List Piece} {walk others : List Event} {last : List String}
    (hf : Recovers opened pending first walk left)
    (hs : Recovers opened left second others last) :
    Recovers opened pending (first ++ second) (walk ++ others) last := by
  obtain ⟨shown, hr, hw⟩ := hf
  obtain ⟨more, hm, ho⟩ := hs
  refine ⟨shown ++ more, hr.append hm, ?_⟩
  rw [List.append_assoc, ho, ← List.append_assoc, hw, List.append_assoc]

/-- A text stands only where nothing is pending. -/
theorem text {content : String} (h : content = "" ∨ pending = []) :
    Recovers opened pending (textPieces content) (textEvents content) pending := by
  refine ⟨textEvents content, .textPieces _ content, ?_⟩
  obtain rfl | rfl := h <;> simp [textEvents]

/-- An end tag ends its element, with what is open inside it. -/
theorem endTag {inner : List String} (hn : name ∉ inner) :
    Recovers opened (name :: inner) [.endTag name] [] [] := by
  obtain ⟨he, ha⟩ := endTag_append (List.mem_reverse.not.2 hn) opened
  refine ⟨List.replicate inner.length Event.leave ++ [Event.leave], ?_, ?_⟩
  · rw [List.reverse_cons, List.append_assoc, ← List.length_reverse]
    exact .single he ha
  · simp [List.replicate_succ']

section Element

variable (attributes : Attributes)
  (hp : ∀ ended ∈ pending, ContentModel.impliesEnd name ended = true)
  (ho : ∀ innermost ∈ opened.head?, ContentModel.impliesEnd name innermost = false)
include hp ho

/-- A void element leaves nothing open. -/
theorem void (hv : ContentModel.isVoid name = true) :
    Recovers opened pending [.startTag name ⟨attributes, false⟩]
      [.enter name attributes, .leave] [] := by
  have hs := Reports.startTag attributes hp ho
  rw [if_pos hv, if_pos hv] at hs
  exact ⟨_, hs, List.append_nil _⟩

/-- An element without its end tag is left open, with what its children leave open. -/
theorem omitted (hv : ContentModel.isVoid name = false) {children : List Piece}
    {walk : List Event} {inner : List String}
    (hc : Recovers (name :: opened) [] children walk inner) :
    Recovers opened pending (.startTag name ⟨attributes, false⟩ :: children)
      (.enter name attributes :: (walk ++ [Event.leave])) (name :: inner) := by
  have hs := Reports.startTag attributes hp ho
  simp only [hv, Bool.false_eq_true, if_false] at hs
  obtain ⟨shown, hr, hw⟩ := hc
  refine
    ⟨List.replicate pending.length Event.leave ++ [Event.enter name attributes] ++ shown, ?_, ?_⟩
  · rw [List.reverse_cons, List.append_assoc inner.reverse]
    exact hs.append hr
  · have hl : shown ++ List.replicate inner.length Event.leave = walk := hw
    simp [List.replicate_succ', ← hl]

end Element

end Recovers

/-- Where elements are left open before a forest that ends them all, its pieces report the ends of
these and a walk through the forest, but for the ends of those that it leaves open itself. -/
theorem recovers_piecesAfter (forest : TaggedForest) (before : String) (pending : List String)
    (opened : OpenElements) (hb : before = "" ∨ pending = [])
    (he : forest.endsAll pending = true) (hf : forest.forest.fitsInto opened.head? = true)
    (hr : forest.isRecoverable = true) :
    Recovers opened pending (forest.piecesAfter before) (forest.forest.joinedWalk before)
      (forest.lastTail pending) := by
  -- What a node leaves open is pending for its next sibling; nothing is pending for its children.
  induction forest generalizing before pending opened with
  | nil => exact .text hb
  | text content next ih =>
    obtain rfl : pending = [] := List.isEmpty_iff.1 he
    exact ih (before ++ content) [] opened (.inr rfl) next.endsAll_nil hf hr
  | element name attributes ended children next ihc ihn =>
    obtain ⟨hfp, hfv, hfc, hfn⟩ := Forest.fitsInto_element.1 hf
    obtain ⟨hname, hends, hrc, hrn⟩ := TaggedForest.isRecoverable_element.1 hr
    have hp := List.all_eq_true.1 he
    have hc := ihc "" [] (name :: opened) (.inl rfl) children.endsAll_nil hfc hrc
    have hn := ihn "" _ opened (.inl rfl) hends hfn hrn
    have hnode : Recovers opened pending
        (.startTag name ⟨attributes, false⟩ ::
          (children.piecesAfter "" ++ TaggedForest.endPieces name ended))
        (.enter name attributes :: (children.forest.joinedWalk "" ++ [Event.leave]))
        (TaggedForest.tail name ended (children.lastTail [])) := by
      cases hv : ContentModel.isVoid name with
      | true =>
        obtain rfl : children = .nil := TaggedForest.eq_nil_of_forest (hfv hv)
        rw [TaggedForest.tail_of_isVoid hv, TaggedForest.endPieces_of_isVoid hv]
        exact .void attributes hp hfp hv
      | false =>
        cases ended with
        | true =>
          have hend := (Recovers.omitted attributes hp hfp hv hc).append (.endTag (hname rfl))
          rwa [List.append_nil, List.cons_append, ← TaggedForest.endPieces_ended hv] at hend
        | false =>
          rw [TaggedForest.tail_omitted hv, TaggedForest.endPieces_omitted, List.append_nil]
          exact .omitted attributes hp hfp hv hc
    have hall := (Recovers.text hb).append (hnode.append hn)
    simpa [TaggedForest.piecesAfter, TaggedForest.lastTail, TaggedForest.forest,
      Forest.joinedWalk] using hall

end Nesting

theorem writeText_append (left right : List Char) :
    writeText (left ++ right) = writeText left ++ writeText right :=
  List.flatMap_append

/-- A start tag that is written out after a text is one piece, which neither the text nor what
follows has a part in. -/
theorem Piece.scan_startTag_append {name : String} {attributes : Attributes}
    {start inner : List Char} (hn : isTagName name = true)
    (hr : ContentModel.rawMode? name = none) (hs : Spells start name)
    (hg : ∀ given ∈ attributes.names, isAttributeName given = true)
    (hw : WrittenAttributes attributes.entries inner) (before : String) (rest : List Char) :
    scan (writeText before.toList ++ '<' :: (start ++ (inner ++ '>' :: rest))) =
      textPieces before ++ .startTag name ⟨attributes, false⟩ :: scan rest := by
  have ha := atMarkup_startTag hs hn (hw.stops rest)
  have hp := next?_written_startTag hn hr hs hg hw rest
  rw [scan_writeText_append before ha, scan_of_next? hp]

namespace TaggedForest

/-- The text renders the forest as markup, with an end tag where the note says so. -/
inductive Written : TaggedForest → List Char → Prop where
  /-- Nothing is written for no nodes. -/
  | nil : Written .nil []
  /-- A text is escaped. -/
  | text (content : String) {next : TaggedForest} {rest : List Char} :
      Written next rest → Written (.text content next) (writeText content.toList ++ rest)
  /-- A void element has a start tag only. -/
  | void (start : List Char) {name : String} {attributes : Attributes} {ended : Bool}
      {next : TaggedForest} {inner rest : List Char} :
      ContentModel.isVoid name = true → Spells start name →
      WrittenAttributes attributes.entries inner → Written next rest →
      Written (.element name attributes ended .nil next)
        ('<' :: (start ++ (inner ++ '>' :: rest)))
  /-- Any other element has a start tag, its children, and an end tag. -/
  | ended (start finish : List Char) {name : String} {attributes : Attributes}
      {children next : TaggedForest} {inner content rest : List Char} :
      ContentModel.isVoid name = false → Spells start name →
      WrittenAttributes attributes.entries inner → Written children content →
      Spells finish name → Written next rest →
      Written (.element name attributes true children next)
        ('<' :: (start ++ (inner ++ '>' :: (content ++ '<' :: '/' :: (finish ++ '>' :: rest)))))
  /-- An element without its end tag has a start tag and its children. -/
  | omitted (start : List Char) {name : String} {attributes : Attributes}
      {children next : TaggedForest} {inner content rest : List Char} :
      ContentModel.isVoid name = false → Spells start name →
      WrittenAttributes attributes.entries inner → Written children content →
      Written next rest →
      Written (.element name attributes false children next)
        ('<' :: (start ++ (inner ++ '>' :: (content ++ rest))))

namespace Written

/-- A rendering of a forest is one with all end tags. -/
theorem of_rendered {forest : Forest} {markup : List Char} (h : Rendered forest markup) :
    Written forest.withEndTags markup := by
  induction h with
  | nil => exact .nil
  | text content _ ih => exact .text content ih
  | void start hv hs hw _ ih => exact .void start hv hs hw ih
  | element start finish hv hs hw _ he _ ihc ihn => exact .ended start finish hv hs hw ihc he ihn

/-- A forest whose names can be written, and whose void elements have no children, can be
rendered, whichever end tags are left out. -/
theorem exists_written {forest : TaggedForest} {parent : Option String}
    (hn : forest.forest.hasWritableNames = true) (hf : forest.forest.fitsInto parent = true) :
    ∃ markup, Written forest markup := by
  induction forest generalizing parent with
  | nil => exact ⟨[], .nil⟩
  | text content next ih =>
    obtain ⟨rest, hr⟩ := ih hn hf
    exact ⟨_, .text content hr⟩
  | element name attributes ended children next ihc ihn =>
    obtain ⟨hm, -, hg, hc, hn⟩ := Forest.hasWritableNames_element.1 hn
    obtain ⟨-, hv, hfc, hfn⟩ := Forest.fitsInto_element.1 hf
    have hs : Spells name.toList name := .self fun c hc => (forall_mem_of_isTagName hm c hc).1
    obtain ⟨inner, hw⟩ := WrittenAttributes.exists_written (List.forall_mem_map.1 hg)
    obtain ⟨rest, hr⟩ := ihn hn hfn
    obtain ⟨content, hi⟩ := ihc hc hfc
    cases hvoid : ContentModel.isVoid name with
    | true =>
      obtain rfl := eq_nil_of_forest (hv hvoid)
      exact ⟨_, .void name.toList hvoid hs hw hr⟩
    | false =>
      cases ended with
      | true => exact ⟨_, .ended name.toList name.toList hvoid hs hw hi hs hr⟩
      | false => exact ⟨_, .omitted name.toList hvoid hs hw hi hr⟩

/-- What comes after an element that is left open begins with markup. -/
theorem atMarkup {forest : TaggedForest} {markup after : List Char} {innermost : String}
    {pending : List String} (h : Written forest markup)
    (hn : forest.forest.hasWritableNames = true)
    (he : forest.endsAll (innermost :: pending) = true) (ha : AtMarkup after) :
    AtMarkup (markup ++ after) := by
  cases h with
  | nil => exact ha
  | text => exact absurd he (by simp [endsAll])
  | void _ _ hs hw _ =>
    simp only [List.cons_append, List.append_assoc]
    exact Piece.atMarkup_startTag hs (Forest.hasWritableNames_element.1 hn).1 (hw.stops _)
  | ended _ _ _ hs hw _ _ _ =>
    simp only [List.cons_append, List.append_assoc]
    exact Piece.atMarkup_startTag hs (Forest.hasWritableNames_element.1 hn).1 (hw.stops _)
  | omitted _ _ hs hw _ _ =>
    simp only [List.cons_append, List.append_assoc]
    exact Piece.atMarkup_startTag hs (Forest.hasWritableNames_element.1 hn).1 (hw.stops _)

/-- A text and a rendered forest after it are cut into their pieces, and what follows is cut on its
own. -/
theorem scan_append {forest : TaggedForest} {markup after : List Char}
    (h : Written forest markup) (hn : forest.forest.hasWritableNames = true)
    (hr : forest.isRecoverable = true) (ha : AtMarkup after) (before : String) :
    Piece.scan (writeText before.toList ++ (markup ++ after)) =
      forest.piecesAfter before ++ Piece.scan after := by
  induction h generalizing after before with
  | nil => exact Piece.scan_writeText_append before ha
  | text content _ ih =>
    rw [List.append_assoc, ← List.append_assoc, ← writeText_append, ← String.toList_append]
    exact ih hn hr ha (before ++ content)
  | @void start name attributes ended next inner rest hv hs hw _ ih =>
    obtain ⟨hm, hraw, hg, -, hn⟩ := Forest.hasWritableNames_element.1 hn
    obtain ⟨-, -, -, hr⟩ := isRecoverable_element.1 hr
    have hnext : Piece.scan (rest ++ after) = _ := ih hn hr ha ""
    simp only [List.cons_append, List.append_assoc]
    rw [Piece.scan_startTag_append hm hraw hs hg hw, hnext]
    simp [piecesAfter, endPieces_of_isVoid hv, textPieces]
  | @ended start finish name attributes children next inner content rest hv hs hw _ he _
      ihc ihn =>
    obtain ⟨hm, hraw, hg, hnc, hn⟩ := Forest.hasWritableNames_element.1 hn
    obtain ⟨-, -, hrc, hr⟩ := isRecoverable_element.1 hr
    have hat := Piece.atMarkup_endTag he hm (rest ++ after)
    have hinner : Piece.scan (content ++ _) = _ := ihc hnc hrc hat ""
    have hend := Piece.next?_endTag he hm (rest ++ after)
    have hnext : Piece.scan (rest ++ after) = _ := ihn hn hr ha ""
    simp only [List.cons_append, List.append_assoc]
    rw [Piece.scan_startTag_append hm hraw hs hg hw, hinner, Piece.scan_of_next? hend, hnext]
    simp [piecesAfter, endPieces_ended hv]
  | @omitted start name attributes children next inner content rest hv hs hw _ hrest ihc ihn =>
    obtain ⟨hm, hraw, hg, hnc, hn⟩ := Forest.hasWritableNames_element.1 hn
    obtain ⟨-, hends, hrc, hr⟩ := isRecoverable_element.1 hr
    rw [tail_omitted hv] at hends
    -- Without the end tag, a text after the element would run on from the last one inside it.
    have hat := hrest.atMarkup hn hends ha
    have hinner : Piece.scan (content ++ _) = _ := ihc hnc hrc hat ""
    have hnext : Piece.scan (rest ++ after) = _ := ihn hn hr ha ""
    simp only [List.cons_append, List.append_assoc]
    rw [Piece.scan_startTag_append hm hraw hs hg hw, hinner, hnext]
    simp [piecesAfter, endPieces_omitted]

end Written

end TaggedForest

open Nesting in
/-- Where its end tags that are left out are recovered, a rendered forest is read as a walk through
it in which texts side by side are one. -/
theorem events_of_written {tagged : TaggedForest} {markup : String}
    (hn : tagged.forest.hasWritableNames = true) (hf : tagged.forest.fitsInto none = true)
    (hr : tagged.isRecoverable = true) (hw : tagged.Written markup.toList) :
    events markup = tagged.forest.joinedWalk "" := by
  have hm : AtMarkup [] := trivial
  have hs : Piece.scan (markup.toList ++ []) = _ := hw.scan_append hn hr hm ""
  rw [Piece.scan_nil, List.append_nil markup.toList] at hs
  obtain ⟨shown, hp, hwalk⟩ :=
    recovers_piecesAfter tagged "" [] [] (.inl rfl) tagged.endsAll_nil hf hr
  calc events markup
      = eventsOf (report [] (tagged.piecesAfter "" ++ [])) := by
        rw [events_eq_eventsOf_report, hs]
    _ = shown ++ eventsOf (endOfInput ((tagged.lastTail []).reverse ++ [])) := hp []
    _ = shown ++ List.replicate (tagged.lastTail []).length Event.leave := by
        rw [eventsOf_endOfInput, List.append_nil, List.length_reverse]
    _ = tagged.forest.joinedWalk "" := hwalk

/-- End tags may be left out where they can be recovered. Where the names of a forest can be
written, its elements fit into one another, and what is left open after each node is ended by what
comes next, the forest can be rendered with and without these end tags, and any two such renderings
have the same events. -/
theorem events_of_omitted_end_tags {tagged : TaggedForest}
    (hn : tagged.forest.hasWritableNames = true) (hf : tagged.forest.fitsInto none = true)
    (hr : tagged.isRecoverable = true) :
    (∃ short full : String, tagged.Written short.toList ∧ Rendered tagged.forest full.toList) ∧
      ∀ short full : String, tagged.Written short.toList → Rendered tagged.forest full.toList →
        events short = events full := by
  constructor
  · obtain ⟨short, hs⟩ := TaggedForest.Written.exists_written hn hf
    obtain ⟨full, hw⟩ := Rendered.exists_rendered hn hf
    exact ⟨String.ofList short, String.ofList full, String.toList_ofList.symm ▸ hs,
      String.toList_ofList.symm ▸ hw⟩
  · intro short full hs hw
    have hfull := TaggedForest.Written.of_rendered hw
    have hall := Forest.isRecoverable_withEndTags tagged.forest
    have he := events_of_written (by rwa [Forest.forest_withEndTags])
      (by rwa [Forest.forest_withEndTags]) hall hfull
    rw [events_of_written hn hf hr hs, he, Forest.forest_withEndTags]

/-- A table without the end tags of its cells and rows, in an element that is not ended either. -/
def openTable : TaggedForest :=
  .element "b" ∅ false
    (.element "table" ⟨[("id", "t")], by decide⟩ true
      (.element "tr" ∅ false (.element "td" ∅ false (.text "1" .nil) .nil)
        (.element "tr" ∅ false (.element "td" ∅ false (.element "br" ∅ false .nil .nil) .nil)
          .nil))
      (.text "a" (.text "b" .nil)))
    .nil

/-- A row ends the cell and the row before it, the end tag of the table ends a cell and a row, and
the end of the input ends what is around the table. -/
theorem events_openTable :
    (openTable.forest.hasWritableNames = true ∧ openTable.forest.fitsInto none = true ∧
      openTable.isRecoverable = true) ∧
      events "<b><Table id=\"t\"><tr><td>1<TR><td><br></table>ab" =
        events "<b><table id=\"t\"><tr><td>1</td></tr><tr><td><br></td></tr></table>ab</b>" := by
  have hn : openTable.forest.hasWritableNames = true := by decide +kernel
  have hf : openTable.forest.fitsInto none = true := by decide +kernel
  have hr : openTable.isRecoverable = true := by decide +kernel
  have ha : WrittenAttributes [("id", "t")] _ := .cons "id".toList (by decide) .nil
  have hshort : openTable.Written _ :=
    .omitted "b".toList (by decide) (by decide) .nil
      (.ended "Table".toList "table".toList (by decide) (by decide) ha
        (.omitted "tr".toList (by decide) (by decide) .nil
          (.omitted "td".toList (by decide) (by decide) .nil (.text "1" .nil) .nil)
          (.omitted "TR".toList (by decide) (by decide) .nil
            (.omitted "td".toList (by decide) (by decide) .nil
              (.void "br".toList (by decide) (by decide) .nil .nil) .nil) .nil))
        (by decide) (.text "a" (.text "b" .nil)))
      .nil
  have hfull : Rendered openTable.forest _ :=
    .element "b".toList "b".toList (by decide) (by decide) .nil
      (.element "table".toList "table".toList (by decide) (by decide) ha
        (.element "tr".toList "tr".toList (by decide) (by decide) .nil
          (.element "td".toList "td".toList (by decide) (by decide) .nil (.text "1" .nil)
            (by decide) .nil)
          (by decide)
          (.element "tr".toList "tr".toList (by decide) (by decide) .nil
            (.element "td".toList "td".toList (by decide) (by decide) .nil
              (.void "br".toList (by decide) (by decide) .nil .nil) (by decide) .nil)
            (by decide) .nil))
        (by decide) (.text "a" (.text "b" .nil)))
      (by decide) .nil
  exact ⟨⟨hn, hf, hr⟩, (events_of_omitted_end_tags hn hf hr).2 _ _ hshort hfull⟩

end ViewCode.Markup
