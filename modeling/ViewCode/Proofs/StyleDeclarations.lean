import Mathlib.Tactic.NthRewrite
import ViewCode.Code.Declaration
import ViewCode.Proofs.TextRuns

/-!
# Written declarations

The declarations of a style are written with a colon between property and value and semicolons
between one another, with blanks and further semicolons around them. Parsing gives them back, and
what it gives for any text at all can be written in this way.
-/

namespace ViewCode.Text

/-- A separator divides a text in two parts that are split each by itself. -/
theorem split_append_cons {p : Char → Bool} {c : Char} (hc : p c = true)
    (before after : List Char) :
    split p (before ++ c :: after) = split p before ++ split p after := by
  induction before with
  | nil => simp [split, hc]
  | cons d before ih =>
    obtain ⟨part, parts, hs⟩ := exists_split_eq_cons p before
    rw [hs] at ih
    by_cases hd : p d = true
    · simp [split, hd, ih, hs]
    · simp [split, hd, ih, hs]

/-- A text without separators is one part. -/
theorem split_of_forall {p : Char → Bool} {text : List Char} (h : ∀ c ∈ text, p c = false) :
    split p text = [text] := by
  induction text with
  | nil => rfl
  | cons c rest ih =>
    obtain ⟨hc, hr⟩ := List.forall_mem_cons.1 h
    simp [split, hc, ih hr]

/-- No part has a separator in it. -/
theorem forall_mem_of_mem_split {p : Char → Bool} {text part : List Char}
    (h : part ∈ split p text) : ∀ c ∈ part, p c = false := by
  induction text generalizing part with
  | nil =>
    obtain rfl : part = [] := by simpa [split] using h
    exact List.forall_mem_nil _
  | cons d rest ih =>
    obtain ⟨first, parts, hs⟩ := exists_split_eq_cons p rest
    rw [hs] at ih
    by_cases hd : p d = true
    · have hp : part = [] ∨ part ∈ first :: parts := by simpa [split, hd, hs] using h
      rcases hp with rfl | hp
      · exact List.forall_mem_nil _
      · exact ih hp
    · have hp : part = d :: first ∨ part ∈ parts := by simpa [split, hd, hs] using h
      rcases hp with rfl | hp
      · exact List.forall_mem_cons.2 ⟨by simpa using hd, ih List.mem_cons_self⟩
      · exact ih (List.mem_cons_of_mem first hp)

/-- Where no character of a class is found, there is none. -/
theorem forall_mem_of_splitFirst?_eq_none {p : Char → Bool} {text : List Char}
    (h : splitFirst? p text = none) : ∀ c ∈ text, p c = false := by
  unfold splitFirst? at h
  split at h
  · rename_i hd
    simpa using List.dropWhile_eq_nil_iff.1 hd
  · simp at h

instance (p : Char → Bool) (text : List Char) : Decidable (Stops p text) :=
  decidable_of_iff (text.head?.all (!p ·) = true) (by simp [Stops, Option.all_eq_true])

/-- The text neither begins nor ends with a character of the class. -/
def IsTrimmed (p : Char → Bool) (text : List Char) : Prop :=
  Stops p text ∧ Stops p text.reverse

instance (p : Char → Bool) (text : List Char) : Decidable (IsTrimmed p text) :=
  inferInstanceAs (Decidable (_ ∧ _))

section Trim

variable {p : Char → Bool} {text margin : List Char}

theorem trim_append_left (hm : ∀ c ∈ margin, p c = true) (text : List Char) :
    trim p (margin ++ text) = trim p text := by
  rw [trim, List.dropWhile_append_of_pos hm, trim]

theorem trimEnd_append_right (hm : ∀ c ∈ margin, p c = true) (text : List Char) :
    trimEnd p (text ++ margin) = trimEnd p text := by
  have hr : ∀ c ∈ margin.reverse, p c = true := fun c hc => hm c (List.mem_reverse.1 hc)
  rw [trimEnd, List.reverse_append, List.dropWhile_append_of_pos hr, trimEnd]

theorem trim_append_right (hm : ∀ c ∈ margin, p c = true) (text : List Char) :
    trim p (text ++ margin) = trim p text := by
  rw [trim, trim, List.dropWhile_append]
  split
  · rename_i hd
    rw [List.isEmpty_iff.1 hd, List.dropWhile_eq_nil_iff.2 hm]
  · exact trimEnd_append_right hm _

/-- A trimmed text is left as it is. -/
theorem trim_of_isTrimmed (h : IsTrimmed p text) : trim p text = text := by
  have hd := dropWhile_append_of_stops (List.forall_mem_nil _) h.1
  have hr := dropWhile_append_of_stops (List.forall_mem_nil _) h.2
  rw [List.nil_append] at hd hr
  rw [trim, trimEnd, hd, hr, List.reverse_reverse]

/-- The end of a text is its trimmed end and a margin after that. -/
theorem exists_trimEnd_append (p : Char → Bool) (text : List Char) :
    ∃ trail, (∀ c ∈ trail, p c = true) ∧ text = trimEnd p text ++ trail := by
  obtain ⟨run, hr, ht⟩ := exists_run p text.reverse
  refine ⟨run.reverse, fun c hc => hr c (List.mem_reverse.1 hc), ?_⟩
  rw [trimEnd, ← List.reverse_append, ← ht, List.reverse_reverse]

theorem trim_dropWhile (p : Char → Bool) (text : List Char) :
    trim p (text.dropWhile p) = trim p text := by
  obtain ⟨run, hr, ht⟩ := exists_run p text
  nth_rewrite 2 [ht]
  rw [trim_append_left hr]

theorem trim_trimEnd (p : Char → Bool) (text : List Char) :
    trim p (trimEnd p text) = trim p text := by
  obtain ⟨trail, hr, ht⟩ := exists_trimEnd_append p text
  nth_rewrite 2 [ht]
  rw [trim_append_right hr]

theorem mem_of_mem_trim {c : Char} (h : c ∈ trim p text) : c ∈ text := by
  obtain ⟨trail, -, ht⟩ := exists_trimEnd_append p (text.dropWhile p)
  apply List.dropWhile_subset p
  rw [ht]
  exact List.mem_append_left trail h

/-- What is left of a text without its margins is trimmed. -/
theorem isTrimmed_trim (p : Char → Bool) (text : List Char) : IsTrimmed p (trim p text) := by
  constructor
  · intro c hc
    obtain ⟨trail, -, ht⟩ := exists_trimEnd_append p (text.dropWhile p)
    apply stops_dropWhile p text c
    rw [ht, List.head?_append]
    exact Option.mem_def.2 (by rw [← trim, Option.mem_def.1 hc, Option.some_or])
  · rw [trim, trimEnd, List.reverse_reverse]
    exact stops_dropWhile p _

/-- Trimming goes up to a character that is not in the class, from either side. -/
theorem trim_append_cons {c : Char} (hc : p c = false) (before after : List Char) :
    trim p (before ++ c :: after) = before.dropWhile p ++ c :: trimEnd p after := by
  have hd : ∀ first second : List Char,
      (first ++ c :: second).dropWhile p = first.dropWhile p ++ c :: second := by
    intro first second
    rw [List.dropWhile_append]
    split
    · rename_i he
      rw [List.isEmpty_iff.1 he, List.dropWhile_cons_of_neg (by simp [hc]), List.nil_append]
    · rfl
  rw [trim, hd, trimEnd, List.reverse_append, List.reverse_cons, List.append_assoc,
    List.singleton_append, hd]
  simp [trimEnd]

end Trim

end ViewCode.Text

namespace ViewCode.Code

open ViewCode.Text

/-- All characters are blanks. -/
def AllBlank (text : List Char) : Prop :=
  ∀ c ∈ text, isBlank c = true

instance (text : List Char) : Decidable (AllBlank text) :=
  decidable_of_iff (text.all isBlank = true) List.all_eq_true

/-- All characters are blanks or semicolons. -/
def IsGap (text : List Char) : Prop :=
  ∀ c ∈ text, isBlank c = true ∨ c = ';'

instance (text : List Char) : Decidable (IsGap text) :=
  decidable_of_iff (text.all (fun c => isBlank c || c == ';') = true) (by simp [IsGap])

/-- Colons and semicolons are no blanks. -/
theorem AllBlank.not_mem {text : List Char} (h : AllBlank text) : ':' ∉ text ∧ ';' ∉ text :=
  ⟨fun hc => absurd (h ':' hc) (by decide), fun hc => absurd (h ';' hc) (by decide)⟩

namespace Declaration

/-- The declaration can be written in a style: its parts are trimmed, there is no semicolon in them,
and no colon in its property. -/
structure IsWritable (d : Declaration) : Prop where
  /-- The property has no blanks at its ends. -/
  property_trimmed : IsTrimmed isBlank d.property.toList
  /-- The property has no colon and no semicolon in it. -/
  property_plain : ':' ∉ d.property.toList ∧ ';' ∉ d.property.toList
  /-- The value has no blanks at its ends. -/
  value_trimmed : IsTrimmed isBlank d.value.toList
  /-- The value has no semicolon in it. -/
  value_plain : ';' ∉ d.value.toList

instance (d : Declaration) : Decidable d.IsWritable :=
  decidable_of_iff
    (IsTrimmed isBlank d.property.toList ∧ (':' ∉ d.property.toList ∧ ';' ∉ d.property.toList) ∧
      IsTrimmed isBlank d.value.toList ∧ ';' ∉ d.value.toList)
    ⟨fun ⟨hp, hc, hv, hs⟩ => ⟨hp, hc, hv, hs⟩, fun ⟨hp, hc, hv, hs⟩ => ⟨hp, hc, hv, hs⟩⟩

/-- The text is the declaration with a colon between its parts and any blanks around the colon. -/
def IsWritten (d : Declaration) (text : List Char) : Prop :=
  ∃ before after, AllBlank before ∧ AllBlank after ∧
    text = d.property.toList ++ before ++ ':' :: (after ++ d.value.toList)

/-- The text is a style with the declarations. One or more semicolons stand between two of them,
and any blanks and further semicolons around them and at both ends. -/
inductive WrittenStyle : List Declaration → List Char → Prop where
  /-- There need not be any declarations. -/
  | nil {gap : List Char} : IsGap gap → WrittenStyle [] gap
  /-- No semicolon is needed after the last declaration. -/
  | last {d : Declaration} {lead text trail : List Char} :
      IsGap lead → d.IsWritten text → AllBlank trail → WrittenStyle [d] (lead ++ (text ++ trail))
  /-- A semicolon ends a declaration, and others may follow. -/
  | cons {d : Declaration} {others : List Declaration} {lead text trail rest : List Char} :
      IsGap lead → d.IsWritten text → AllBlank trail → WrittenStyle others rest →
      WrittenStyle (d :: others) (lead ++ (text ++ trail ++ ';' :: rest))

/-- A semicolon divides a style in two parts that have their segments each for itself. -/
theorem segments_append_semicolon (before after : List Char) :
    segments (before ++ ';' :: after) = segments before ++ segments after := by
  simp [segments, split_append_cons]

/-- A blank at the front belongs to no segment. -/
theorem segments_cons_of_isBlank {c : Char} (hc : isBlank c = true) (style : List Char) :
    segments (c :: style) = segments style := by
  have hn : (c == ';') = false := by
    refine beq_false_of_ne fun e => ?_
    rw [e] at hc
    exact absurd hc (by decide)
  obtain ⟨part, parts, hs⟩ := exists_split_eq_cons (· == ';') style
  have ht : trim isBlank (c :: part) = trim isBlank part :=
    trim_append_left (List.forall_mem_singleton.2 hc) part
  simp [segments, split, hn, hs, ht]

/-- What stands in a gap at the front belongs to no segment. -/
theorem segments_gap_append {gap : List Char} (h : IsGap gap) (style : List Char) :
    segments (gap ++ style) = segments style := by
  induction gap with
  | nil => rfl
  | cons c gap ih =>
    obtain ⟨hc, hg⟩ := List.forall_mem_cons.1 h
    rw [List.cons_append]
    rcases hc with hc | rfl
    · rw [segments_cons_of_isBlank hc, ih hg]
    · exact (segments_append_semicolon [] (gap ++ style)).trans (ih hg)

/-- There is no semicolon in a written declaration. -/
theorem IsWritable.semicolon_not_mem {d : Declaration} (hd : d.IsWritable) {text : List Char}
    (hw : d.IsWritten text) : ';' ∉ text := by
  obtain ⟨before, after, hb, ha, rfl⟩ := hw
  simp [hd.property_plain.2, hd.value_plain, hb.not_mem.2, ha.not_mem.2]

/-- A written declaration is read back. -/
theorem IsWritable.ofSegment_trim {d : Declaration} (hd : d.IsWritable) {text : List Char}
    (hw : d.IsWritten text) : trim isBlank text ≠ [] ∧ ofSegment (trim isBlank text) = d := by
  obtain ⟨before, after, hb, ha, rfl⟩ := hw
  -- The colon is no blank, so trimming does not go beyond it.
  rw [trim_append_cons (by decide)]
  refine ⟨by simp, ?_⟩
  have hcolon : ∀ c ∈ (d.property.toList ++ before).dropWhile isBlank, (c == ':') = false := by
    intro c hc
    refine beq_false_of_ne fun e => ?_
    have hm := List.dropWhile_subset isBlank hc
    simp [e, hd.property_plain.1, hb.not_mem.1] at hm
  have hp : trim isBlank ((d.property.toList ++ before).dropWhile isBlank) = d.property.toList := by
    rw [trim_dropWhile, trim_append_right hb, trim_of_isTrimmed hd.property_trimmed]
  have hv : trim isBlank (trimEnd isBlank (after ++ d.value.toList)) = d.value.toList := by
    rw [trim_trimEnd, trim_append_left ha, trim_of_isTrimmed hd.value_trimmed]
  rw [ofSegment, splitFirst?_append_cons hcolon rfl]
  simp only [hp, hv, String.ofList_toList]

/-- A written declaration, with blanks after it, is the only segment of its text. -/
theorem map_ofSegment_of_isWritten {d : Declaration} (hd : d.IsWritable) {text trail : List Char}
    (hw : d.IsWritten text) (ht : AllBlank trail) :
    (segments (text ++ trail)).map ofSegment = [d] := by
  have hn : ';' ∉ text ++ trail := by simp [hd.semicolon_not_mem hw, ht.not_mem.2]
  have hs : ∀ c ∈ text ++ trail, (c == ';') = false :=
    fun c hc => beq_false_of_ne fun e => hn (e ▸ hc)
  obtain ⟨hne, hd⟩ := hd.ofSegment_trim hw
  rw [segments, split_of_forall hs, List.map_singleton, trim_append_right ht]
  simp [hne, hd]

/-- A written style is read back. -/
theorem map_ofSegment_of_writtenStyle {declarations : List Declaration} {style : List Char}
    (hs : WrittenStyle declarations style) (hd : ∀ d ∈ declarations, d.IsWritable) :
    (segments style).map ofSegment = declarations := by
  induction hs with
  | @nil gap hg =>
    have hn := segments_gap_append hg []
    rw [List.append_nil] at hn
    rw [hn]
    rfl
  | last hl hw ht =>
    rw [segments_gap_append hl, map_ofSegment_of_isWritten (hd _ List.mem_cons_self) hw ht]
  | cons hl hw ht _ ih =>
    obtain ⟨hd, ho⟩ := List.forall_mem_cons.1 hd
    rw [segments_gap_append hl, segments_append_semicolon, List.map_append,
      map_ofSegment_of_isWritten hd hw ht, ih ho, List.singleton_append]

/-- All declarations can be written one after another. -/
theorem exists_writtenStyle (declarations : List Declaration) :
    ∃ style, WrittenStyle declarations style := by
  have hn : AllBlank [] := List.forall_mem_nil _
  have hg : IsGap [] := List.forall_mem_nil _
  induction declarations with
  | nil => exact ⟨[], .nil hg⟩
  | cons d others ih =>
    obtain ⟨rest, hr⟩ := ih
    exact ⟨_, .cons hg ⟨[], [], hn, hn, rfl⟩ hn hr⟩

/-- A segment has neither blanks at its ends nor a semicolon in it. -/
theorem isTrimmed_of_mem_segments {style segment : List Char} (h : segment ∈ segments style) :
    IsTrimmed isBlank segment ∧ ';' ∉ segment := by
  obtain ⟨hm, -⟩ := List.mem_filter.1 h
  obtain ⟨part, hp, rfl⟩ := List.mem_map.1 hm
  refine ⟨isTrimmed_trim isBlank part, fun hc => ?_⟩
  have hn := forall_mem_of_mem_split hp ';' (mem_of_mem_trim hc)
  exact absurd hn (by decide)

/-- What is read from a segment can be written. -/
theorem isWritable_ofSegment {segment : List Char} (ht : IsTrimmed isBlank segment)
    (hs : ';' ∉ segment) : (ofSegment segment).IsWritable := by
  unfold ofSegment
  split
  · rename_i property value hf
    obtain ⟨c, -, ha⟩ := splitFirst?_append hf
    rw [ha] at hs
    have hcolon : ':' ∉ property := fun hc => by simpa using forall_mem_of_splitFirst? hf ':' hc
    simp only [List.mem_append, List.mem_cons, not_or] at hs
    refine ⟨?_, ⟨?_, ?_⟩, ?_, ?_⟩ <;> rw [String.toList_ofList]
    · exact isTrimmed_trim isBlank property
    · exact fun hc => hcolon (mem_of_mem_trim hc)
    · exact fun hc => hs.1 (mem_of_mem_trim hc)
    · exact isTrimmed_trim isBlank value
    · exact fun hc => hs.2.2 (mem_of_mem_trim hc)
  · rename_i hf
    have hcolon : ':' ∉ segment := fun hc => by
      simpa using forall_mem_of_splitFirst?_eq_none hf ':' hc
    refine ⟨?_, ⟨?_, ?_⟩, ⟨stops_nil _, stops_nil _⟩, List.not_mem_nil⟩ <;>
      rw [String.toList_ofList]
    · exact ht
    · exact hcolon
    · exact hs

/-- Parsing a style undoes writing its declarations. Declarations that can be written are given back
for every style in which they are written, and what is parsed from any text whatever can be
written, so that writing it and parsing it again changes nothing. -/
theorem parse_inverts_writing :
    (∀ declarations : List Declaration, (∀ d ∈ declarations, d.IsWritable) →
      ∀ style : String, WrittenStyle declarations style.toList → parse style = declarations) ∧
      ∀ input : String, (∀ d ∈ parse input, d.IsWritable) ∧
        (∃ style : String, WrittenStyle (parse input) style.toList) ∧
        ∀ style : String, WrittenStyle (parse input) style.toList → parse style = parse input := by
  have hback : ∀ declarations : List Declaration, (∀ d ∈ declarations, d.IsWritable) →
      ∀ style : String, WrittenStyle declarations style.toList → parse style = declarations :=
    fun declarations hd style hs => map_ofSegment_of_writtenStyle hs hd
  refine ⟨hback, fun input => ?_⟩
  have hw : ∀ d ∈ parse input, d.IsWritable := by
    intro d hd
    obtain ⟨segment, hs, rfl⟩ := List.mem_map.1 hd
    obtain ⟨ht, hn⟩ := isTrimmed_of_mem_segments hs
    exact isWritable_ofSegment ht hn
  obtain ⟨style, hs⟩ := exists_writtenStyle (parse input)
  exact ⟨hw, ⟨String.ofList style, String.toList_ofList.symm ▸ hs⟩, hback (parse input) hw⟩

/-- Declarations with colons and blanks in a value, and with empty parts. -/
def oddDeclarations : List Declaration :=
  [⟨"color", "red"⟩, ⟨"", "a:b  c"⟩, ⟨"", ""⟩]

/-- A style with these declarations. -/
def oddStyle : String :=
  "; color\u2003:red ;; \t: a:b  c;:\n"

/-- The odd declarations are given back for the style in which they are written. -/
theorem parse_oddStyle :
    ((∀ d ∈ oddDeclarations, d.IsWritable) ∧ WrittenStyle oddDeclarations oddStyle.toList) ∧
      parse oddStyle = oddDeclarations := by
  have hd : ∀ d ∈ oddDeclarations, d.IsWritable := by decide +kernel
  have hcolor : IsWritten ⟨"color", "red"⟩ "color\u2003:red".toList :=
    ⟨['\u2003'], [], by decide, by decide, by decide⟩
  have hvalue : IsWritten ⟨"", "a:b  c"⟩ ": a:b  c".toList :=
    ⟨[], [' '], by decide, by decide, by decide⟩
  have hempty : IsWritten ⟨"", ""⟩ ":".toList := ⟨[], [], by decide, by decide, by decide⟩
  have hlead : IsGap "; ".toList := by decide
  have hbetween : IsGap "; \t".toList := by decide
  have hs : WrittenStyle oddDeclarations oddStyle.toList :=
    .cons hlead hcolor (by decide : AllBlank [' '])
      (.cons hbetween hvalue (by decide : AllBlank [])
        (.last (by decide : IsGap []) hempty (by decide : AllBlank ['\n'])))
  exact ⟨⟨hd, hs⟩, parse_inverts_writing.1 oddDeclarations hd oddStyle hs⟩

end Declaration

end ViewCode.Code
