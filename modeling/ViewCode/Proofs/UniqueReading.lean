import ViewCode.Proofs.LayoutAgreement
import ViewCode.Proofs.Literals
import ViewCode.Proofs.TextRuns

/-!
# Unique reading of code

Code determines the document that it was written for, up to what is not written. First the text of
code determines its arguments, which are literals, trait calls and nested calls: each says by itself
where it ends, whatever stands in its literals. Then the arguments determine the outline of the
document, in which an element has traits in place of attributes and blank texts are left out.
-/

namespace ViewCode.Code

open ViewCode.Markup ViewCode.Text

/-- What is written for an item determines the item, and where it ends in a longer text. -/
def SelfDelimiting {α : Type} (write : α → List Char) : Prop :=
  ∀ item other rest left, write item ++ rest = write other ++ left → item = other ∧ rest = left

/-- Parts that are joined stand one after another, each but the first after the separator. -/
theorem intercalate_cons_eq (separator first : List Char) (parts : List (List Char)) :
    separator.intercalate (first :: parts) = first ++ parts.flatMap (separator ++ ·) := by
  induction parts generalizing first with
  | nil => simp
  | cons second parts ih => simp [ih, List.intercalate_cons_cons]

namespace SelfDelimiting

variable {α : Type} {write : α → List Char}

/-- Items that each stand after a mark are determined by what is written for all of them, if the
mark does not follow. -/
theorem flatMap_append_inj (h : SelfDelimiting write) {mark : Char} {between : List Char}
    {items others : List α} {rest left : List Char} (hr : Stops (· == mark) rest)
    (hl : Stops (· == mark) left)
    (he : items.flatMap (fun item => mark :: (between ++ write item)) ++ rest =
      others.flatMap (fun item => mark :: (between ++ write item)) ++ left) :
    items = others ∧ rest = left := by
  induction items generalizing others with
  | nil =>
    cases others with
    | nil => exact ⟨rfl, he⟩
    | cons other others =>
      have hm := hr mark (by rw [← List.nil_append rest, ← List.flatMap_nil, he]; rfl)
      simp at hm
  | cons item items ih =>
    cases others with
    | nil =>
      have hm := hl mark (by rw [← List.nil_append left, ← List.flatMap_nil, ← he]; rfl)
      simp at hm
    | cons other others =>
      simp only [List.flatMap_cons, List.cons_append, List.append_assoc, List.cons.injEq,
        true_and, List.append_cancel_left_eq] at he
      obtain ⟨rfl, ht⟩ := h _ _ _ _ he
      obtain ⟨rfl, hrest⟩ := ih ht
      exact ⟨rfl, hrest⟩

/-- Items that are joined and enclosed are determined by what is written for them, where each
begins with a quote and the closing character is neither a quote nor the separator. -/
theorem intercalate_append_inj (h : SelfDelimiting write)
    (hq : ∀ item, ∃ tail, write item = '\x22' :: tail) {mark close : Char} {between : List Char}
    (hm : close ≠ mark) (hc : close ≠ '\x22') {items others : List α}
    {rest left : List Char}
    (he : (mark :: between).intercalate (items.map write) ++ close :: rest =
      (mark :: between).intercalate (others.map write) ++ close :: left) :
    items = others ∧ rest = left := by
  cases items with
  | nil =>
    cases others with
    | nil => simpa using he
    | cons other others =>
      obtain ⟨tail, ht⟩ := hq other
      rw [List.map_cons, intercalate_cons_eq, ht] at he
      exact absurd (List.cons.inj he).1 hc
  | cons item items =>
    cases others with
    | nil =>
      obtain ⟨tail, ht⟩ := hq item
      rw [List.map_cons, intercalate_cons_eq, ht] at he
      exact absurd (List.cons.inj he).1.symm hc
    | cons other others =>
      simp only [List.map_cons, intercalate_cons_eq, List.flatMap_map, List.append_assoc,
        List.cons_append] at he
      have hs : ∀ tail, Stops (· == mark) (close :: tail) := stops_cons (by simpa using hm)
      obtain ⟨rfl, ht⟩ := h _ _ _ _ he
      obtain ⟨rfl, hr⟩ := h.flatMap_append_inj (hs rest) (hs left) ht
      exact ⟨rfl, (List.cons.inj hr).2⟩

end SelfDelimiting

theorem toList_literal (text : String) :
    (literal text).toList = '\x22' :: (escape text.toList ++ ['\x22']) := by
  simp [literal]

theorem toList_literalPair (left right : String) :
    (literalPair left right).toList =
      '\x22' :: (escape left.toList ++ '\x22' :: '=' :: '>' :: (literal right).toList) := by
  simp [literalPair, toList_literal]

/-- A literal says where it ends, whatever stands in it. -/
theorem selfDelimiting_literal : SelfDelimiting fun text : String => (literal text).toList := by
  intro text other rest left h
  simp only [toList_literal, List.cons_append, List.append_assoc, List.cons.injEq, true_and,
    List.nil_append] at h
  -- A scan finds the text as the first value.
  have hs := congrArg (Scan.inside []).literals h
  rw [Scan.literals_inside_escape, Scan.literals_inside_escape, List.cons.injEq,
    List.nil_append, List.nil_append, String.ofList_toList, String.ofList_toList] at hs
  obtain ⟨rfl, -⟩ := hs
  simpa using h

/-- Two literals with an arrow between them say where they end. -/
theorem selfDelimiting_literalPair :
    SelfDelimiting fun pair : String × String => (literalPair pair.1 pair.2).toList := by
  rintro ⟨key, value⟩ ⟨otherKey, otherValue⟩ rest left h
  simp only [literalPair, String.toList_append, List.append_assoc] at h
  obtain ⟨rfl, hv⟩ := selfDelimiting_literal _ _ _ _ h
  obtain ⟨rfl, hr⟩ := selfDelimiting_literal _ _ _ _ (List.append_cancel_left hv)
  exact ⟨rfl, hr⟩

/-- A declaration says where it ends. -/
theorem selfDelimiting_declaration :
    SelfDelimiting fun d : Declaration => (literalPair d.property d.value).toList := by
  rintro ⟨property, value⟩ ⟨otherProperty, otherValue⟩ rest left h
  obtain ⟨hp, hr⟩ := selfDelimiting_literalPair (property, value) (otherProperty, otherValue) _ _ h
  cases hp
  exact ⟨rfl, hr⟩

/-- An argument of a call that has no arguments of its own. -/
inductive Leaf where
  /-- A text. -/
  | text (content : String)
  /-- The call for an id. -/
  | id (value : String)
  /-- The call for one or more classes. -/
  | classes (first : String) (others : List String)
  /-- The call for a style. -/
  | style (declarations : List Declaration)
  /-- The call for one or more other attributes. -/
  | attrs (first : String × String) (others : List (String × String))
  deriving DecidableEq, Repr

namespace Leaf

/-- The code of the argument. -/
def code : Leaf → String
  | text content => literal content
  | id value => "id!(" ++ literal value ++ ")"
  | classes first others =>
    "class![" ++ String.intercalate ", " ((first :: others).map literal) ++ "]"
  | style declarations => "style! \x7b" ++ Declaration.render declarations ++ "\x7d"
  | attrs first others => "attrs![" ++
    String.intercalate "; " ((first :: others).map fun entry => literalPair entry.1 entry.2) ++ "]"

/-- The code of each such argument says where it ends. -/
theorem selfDelimiting_code : SelfDelimiting fun leaf : Leaf => leaf.code.toList := by
  intro leaf other rest left h
  -- Arguments of different kinds begin with different characters.
  cases leaf with
  | text content =>
    cases other with
    | text content' =>
      obtain ⟨rfl, hr⟩ := selfDelimiting_literal _ _ _ _ h
      exact ⟨rfl, hr⟩
    | _ => simp [code, literal] at h
  | id value =>
    cases other with
    | id value' =>
      simp only [code, String.toList_append, List.append_assoc, List.append_cancel_left_eq] at h
      obtain ⟨rfl, hr⟩ := selfDelimiting_literal _ _ _ _ h
      exact ⟨rfl, List.append_cancel_left hr⟩
    | _ => simp [code, literal] at h
  | classes first others =>
    cases other with
    | classes first' others' =>
      simp only [code, String.toList_append, List.append_assoc, List.append_cancel_left_eq,
        String.toList_intercalate, List.map_map] at h
      obtain ⟨hi, hr⟩ := selfDelimiting_literal.intercalate_append_inj
        (fun text => ⟨_, toList_literal text⟩) (by decide) (by decide) h
      cases hi
      exact ⟨rfl, hr⟩
    | _ => simp [code, literal] at h
  | style declarations =>
    cases other with
    | style declarations' =>
      simp only [code, Declaration.render, String.toList_append, List.append_assoc,
        List.append_cancel_left_eq, String.toList_intercalate, List.map_map] at h
      obtain ⟨rfl, hr⟩ := selfDelimiting_declaration.intercalate_append_inj
        (fun d => ⟨_, toList_literalPair d.property d.value⟩) (by decide) (by decide) h
      exact ⟨rfl, hr⟩
    | _ => simp [code, literal] at h
  | attrs first others =>
    cases other with
    | attrs first' others' =>
      simp only [code, String.toList_append, List.append_assoc, List.append_cancel_left_eq,
        String.toList_intercalate, List.map_map] at h
      obtain ⟨hi, hr⟩ := selfDelimiting_literalPair.intercalate_append_inj
        (fun entry => ⟨_, toList_literalPair entry.1 entry.2⟩) (by decide) (by decide) h
      cases hi
      exact ⟨rfl, hr⟩
    | _ => simp [code, literal] at h

end Leaf

/-- Whether the character can stand in the name of a call: an ASCII letter or digit, or a hyphen. -/
def isCallChar (c : Char) : Bool :=
  c.isAlphanum || c == '-'

/-- Whether the text can be the name of a call. -/
def isCallName (name : String) : Bool :=
  !name.isEmpty && name.toList.all isCallChar

theorem forall_mem_of_isCallName {name : String} (h : isCallName name = true) :
    ∀ c ∈ name.toList, isCallChar c = true := by
  simp only [isCallName, Bool.and_eq_true, List.all_eq_true] at h
  exact h.2

/-- A name ends where its exclamation mark stands. -/
theorem name_append_inj {name other rest left : List Char}
    (hn : ∀ c ∈ name, isCallChar c = true) (ho : ∀ c ∈ other, isCallChar c = true)
    (h : name ++ '!' :: rest = other ++ '!' :: left) : name = other ∧ rest = left := by
  have hs : ∀ tail, Stops isCallChar ('!' :: tail) := stops_cons (by decide)
  have ht := congrArg (List.takeWhile isCallChar) h
  rw [takeWhile_append_of_stops hn (hs rest), takeWhile_append_of_stops ho (hs left)] at ht
  subst ht
  exact ⟨rfl, (List.cons.inj (List.append_cancel_left h)).2⟩

/-- The arguments of a call, in order and each with its own arguments. -/
inductive Arguments where
  /-- No arguments. -/
  | nil
  /-- An argument without arguments of its own, and those after it. -/
  | leaf (first : Leaf) (next : Arguments)
  /-- The call of an element, and the arguments after it. -/
  | call (name : String) (inner next : Arguments)
  deriving DecidableEq, Repr

/-- Arguments on lines of their own at the given level, each after a comma. -/
def lines (indent : Indent) (level : Nat) (arguments : List String) : List Char :=
  arguments.flatMap fun argument =>
    ',' :: '\n' :: ((indent.atLevel level).toList ++ argument.toList)

theorem lines_cons (indent : Indent) (level : Nat) (argument : String) (others : List String) :
    lines indent level (argument :: others) =
      ',' :: '\n' :: ((indent.atLevel level).toList ++
        (argument.toList ++ lines indent level others)) := by
  simp [lines]

/-- Lines begin with a comma. -/
theorem ne_lines_cons {rest : List Char} (h : Stops (· == ',') rest) (indent : Indent)
    (level : Nat) (argument : String) (others : List String) (left : List Char) :
    rest ≠ lines indent level (argument :: others) ++ left := by
  rintro rfl
  rw [lines_cons] at h
  exact absurd (h ',' rfl) (by decide)

/-- Lines that agree do so from the first argument on. -/
theorem append_eq_of_lines_cons_eq {indent : Indent} {level : Nat} {argument other : String}
    {others more : List String} {rest left : List Char}
    (h : lines indent level (argument :: others) ++ rest =
      lines indent level (other :: more) ++ left) :
    argument.toList ++ (lines indent level others ++ rest) =
      other.toList ++ (lines indent level more ++ left) := by
  simpa only [lines_cons, List.cons_append, List.append_assoc, List.cons.injEq, true_and,
    List.append_cancel_left_eq] using h

/-- A call without arguments closes at once. -/
theorem toList_call_nil (indent : Indent) (level : Nat) (name : String) :
    (Layout.call indent level name []).toList = name.toList ++ '!' :: '[' :: [']'] := by
  simp [Layout.call]

/-- A call with arguments has them on lines of their own, the first one without its comma. -/
theorem toList_call_cons (indent : Indent) (level : Nat) (name argument : String)
    (others : List String) :
    (Layout.call indent level name (argument :: others)).toList =
      name.toList ++ '!' :: '[' :: '\n' :: ((indent.atLevel (level + 1)).toList ++
        (argument.toList ++ (lines indent (level + 1) others ++
          '\n' :: ((indent.atLevel level).toList ++ [']'])))) := by
  simp [Layout.call, String.toList_intercalate, intercalate_cons_eq, lines, List.flatMap_map]

/-- A call determines its name, what is written for its arguments, and where it ends. -/
theorem call_append_inj {indent : Indent} {level : Nat} {name other : String}
    {arguments others : List String} {rest left : List Char}
    (hn : ∀ c ∈ name.toList, isCallChar c = true) (ho : ∀ c ∈ other.toList, isCallChar c = true)
    (h : (Layout.call indent level name arguments).toList ++ rest =
      (Layout.call indent level other others).toList ++ left) :
    name = other ∧
      lines indent (level + 1) arguments ++
          '\n' :: ((indent.atLevel level).toList ++ ']' :: rest) =
        lines indent (level + 1) others ++
          '\n' :: ((indent.atLevel level).toList ++ ']' :: left) := by
  cases arguments with
  | nil =>
    cases others with
    | nil =>
      simp only [toList_call_nil, List.append_assoc, List.cons_append] at h
      obtain ⟨hname, ht⟩ := name_append_inj hn ho h
      refine ⟨String.toList_inj.1 hname, ?_⟩
      simpa [lines] using ht
    | cons second others =>
      simp only [toList_call_nil, toList_call_cons, List.append_assoc, List.cons_append] at h
      obtain ⟨-, ht⟩ := name_append_inj hn ho h
      simp at ht
  | cons first arguments =>
    cases others with
    | nil =>
      simp only [toList_call_nil, toList_call_cons, List.append_assoc, List.cons_append] at h
      obtain ⟨-, ht⟩ := name_append_inj hn ho h
      simp at ht
    | cons second others =>
      simp only [toList_call_cons, List.append_assoc, List.cons_append] at h
      obtain ⟨hname, ht⟩ := name_append_inj hn ho h
      refine ⟨String.toList_inj.1 hname, ?_⟩
      simpa [lines_cons] using ht

/-- In the call of an element, the bracket is never followed by a quote. -/
theorem exists_call_append_eq (indent : Indent) (level : Nat) (name : String)
    (arguments : List String) (rest : List Char) :
    ∃ mark tail, mark ≠ '\x22' ∧ (Layout.call indent level name arguments).toList ++ rest =
      name.toList ++ '!' :: '[' :: mark :: tail := by
  cases arguments with
  | nil => exact ⟨']', rest, by decide, by simp [toList_call_nil]⟩
  | cons first others =>
    rw [toList_call_cons, List.append_assoc]
    exact ⟨'\n', _, by decide, rfl⟩

/-- An argument without arguments of its own is a literal, or a trait call in which a bracket is
followed by a quote. -/
theorem Leaf.exists_code_eq (leaf : Leaf) :
    (∃ tail, leaf.code.toList = '\x22' :: tail) ∨
      ∃ word mark second tail, word.all isCallChar = true ∧
        (mark = '[' → second = '\x22') ∧
        leaf.code.toList = word ++ '!' :: mark :: second :: tail := by
  cases leaf with
  | text content => exact Or.inl ⟨_, toList_literal content⟩
  | id value =>
    simp only [code, String.toList_append, toList_literal]
    exact Or.inr ⟨['i', 'd'], '(', '\x22', _, by decide, by decide, rfl⟩
  | classes first others =>
    simp only [code, String.toList_append, String.toList_intercalate, List.map_cons,
      intercalate_cons_eq, toList_literal]
    exact Or.inr ⟨['c', 'l', 'a', 's', 's'], '[', '\x22', _, by decide, by decide, rfl⟩
  | style declarations =>
    simp only [code, String.toList_append]
    exact Or.inr ⟨['s', 't', 'y', 'l', 'e'], ' ', '\x7b', _, by decide, by decide, rfl⟩
  | attrs first others =>
    simp only [code, String.toList_append, String.toList_intercalate, List.map_cons,
      intercalate_cons_eq, toList_literalPair]
    exact Or.inr ⟨['a', 't', 't', 'r', 's'], '[', '\x22', _, by decide, by decide, rfl⟩

/-- An argument without arguments of its own is told apart from the call of an element, also from
one that is named as a trait call is. -/
theorem Leaf.code_append_ne_call (leaf : Leaf) {indent : Indent} {level : Nat} {name : String}
    {arguments : List String} (hn : isCallName name = true) (rest left : List Char) :
    leaf.code.toList ++ rest ≠ (Layout.call indent level name arguments).toList ++ left := by
  intro h
  simp only [isCallName, Bool.and_eq_true, Bool.not_eq_true', List.all_eq_true] at hn
  obtain ⟨next, after, hm, hc⟩ := exists_call_append_eq indent level name arguments left
  rw [hc] at h
  rcases leaf.exists_code_eq with ⟨tail, ht⟩ | ⟨word, mark, second, tail, hw, hs, ht⟩
  · -- A literal begins with a quote, which stands in no name.
    obtain ⟨c, others, hi⟩ := List.exists_cons_of_ne_nil
      fun e => String.isEmpty_eq_false_iff.1 hn.1 (String.toList_eq_nil_iff.1 e)
    have hq := hn.2 c (hi ▸ List.mem_cons_self)
    rw [ht, hi] at h
    rw [← (List.cons.inj h).1] at hq
    exact absurd hq (by decide)
  · simp only [ht, List.append_assoc, List.cons_append] at h
    obtain ⟨-, he⟩ := name_append_inj (List.all_eq_true.1 hw) hn.2 h
    simp only [List.cons.injEq] at he
    exact hm (he.2.1 ▸ hs he.1)

namespace Arguments

/-- The code of each argument at the given level. -/
def items (indent : Indent) (level : Nat) : Arguments → List String
  | nil => []
  | leaf first next => first.code :: next.items indent level
  | call name inner next =>
    Layout.call indent level name (inner.items indent (level + 1)) :: next.items indent level

/-- Whether all calls of elements have names that calls can have. -/
def hasCallNames : Arguments → Bool
  | nil => true
  | leaf _ next => next.hasCallNames
  | call name inner next => isCallName name && inner.hasCallNames && next.hasCallNames

/-- The lines of arguments determine the arguments, and where the lines end. -/
theorem lines_append_inj {indent : Indent} {level : Nat} {first second : Arguments}
    {rest left : List Char} (hf : first.hasCallNames = true) (hs : second.hasCallNames = true)
    (hr : Stops (· == ',') rest) (hl : Stops (· == ',') left)
    (h : lines indent level (first.items indent level) ++ rest =
      lines indent level (second.items indent level) ++ left) :
    first = second ∧ rest = left := by
  induction first generalizing second level rest left with
  | nil =>
    cases second with
    | nil => exact ⟨rfl, h⟩
    | leaf | call => exact absurd h (ne_lines_cons hr _ _ _ _ _)
  | leaf first next ih =>
    cases second with
    | nil => exact absurd h.symm (ne_lines_cons hl _ _ _ _ _)
    | leaf second others =>
      have ho : others.hasCallNames = true := hs
      obtain ⟨rfl, ht⟩ := Leaf.selfDelimiting_code _ _ _ _ (append_eq_of_lines_cons_eq h)
      obtain ⟨rfl, hrest⟩ := ih hf ho hr hl ht
      exact ⟨rfl, hrest⟩
    | call name inner others =>
      simp only [hasCallNames, Bool.and_eq_true] at hs
      exact absurd (append_eq_of_lines_cons_eq h) (first.code_append_ne_call hs.1.1 _ _)
  | call name inner next ihi ihn =>
    simp only [hasCallNames, Bool.and_eq_true] at hf
    cases second with
    | nil => exact absurd h.symm (ne_lines_cons hl _ _ _ _ _)
    | leaf second others =>
      exact absurd (append_eq_of_lines_cons_eq h).symm
        (second.code_append_ne_call hf.1.1 _ _)
    | call other arguments others =>
      simp only [hasCallNames, Bool.and_eq_true] at hs
      -- The arguments inside end with a line break, and then the calls end.
      have hb : ∀ tail, Stops (· == ',') ('\n' :: tail) := stops_cons (by decide)
      obtain ⟨rfl, hi⟩ := call_append_inj (forall_mem_of_isCallName hf.1.1)
        (forall_mem_of_isCallName hs.1.1) (append_eq_of_lines_cons_eq h)
      obtain ⟨rfl, ht⟩ := ihi hf.1.2 hs.1.2 (hb _) (hb _) hi
      simp only [List.cons.injEq, true_and, List.append_cancel_left_eq] at ht
      obtain ⟨rfl, hrest⟩ := ihn hf.2 hs.2 hr hl ht
      exact ⟨rfl, hrest⟩

end Arguments

/-- What code says of a document: sibling nodes in document order, with the traits of elements in
place of their attributes. -/
inductive Outline where
  /-- No nodes. -/
  | nil
  /-- An element with its traits and children, and the siblings after it. -/
  | element (name : String) (traits : Traits) (children next : Outline)
  /-- A text, and the siblings after it. -/
  | text (content : String) (next : Outline)
  deriving DecidableEq, Repr

/-- The outline of a document: attributes become traits, texts lose their margins, and texts of
which nothing is left are dropped. -/
def outline (ids : IdPolicy) : Forest → Outline
  | .nil => .nil
  | .element name attributes children next =>
    .element name (Traits.ofAttributes ids attributes) (outline ids children) (outline ids next)
  | .text content next =>
    match trim isMargin content.toList with
    | [] => outline ids next
    | inner => .text (String.ofList inner) (outline ids next)

/-- Whether all elements of the forest have names that calls can have. -/
def hasCallNames : Forest → Bool
  | .nil => true
  | .element name _ children next => isCallName name && hasCallNames children && hasCallNames next
  | .text _ next => hasCallNames next

namespace Traits

/-- The traits of an element without attributes. -/
def empty : Traits :=
  ⟨none, [], none, []⟩

/-- The traits as arguments, in the order in which they are written. -/
def leaves (traits : Traits) : List Leaf :=
  (traits.id.map Leaf.id).toList ++
    ((match traits.classes with | [] => [] | first :: others => [Leaf.classes first others]) ++
      ((traits.style.map Leaf.style).toList ++
        match traits.others with | [] => [] | first :: others => [Leaf.attrs first others]))

/-- The traits with that of the argument, if it is one. -/
def withLeaf (leaf : Leaf) (traits : Traits) : Traits :=
  match leaf with
  | .text _ => traits
  | .id value => { traits with id := value }
  | .classes first others => { traits with classes := first :: others }
  | .style declarations => { traits with style := declarations }
  | .attrs first others => { traits with others := first :: others }

/-- The calls of traits are the code of their arguments. -/
theorem calls_eq (traits : Traits) : traits.calls = traits.leaves.map Leaf.code := by
  obtain ⟨id, classes, style, others⟩ := traits
  cases id <;> cases classes <;> cases style <;> cases others <;> rfl

/-- Traits are read off their arguments. -/
theorem foldr_withLeaf_leaves (traits : Traits) : traits.leaves.foldr withLeaf empty = traits := by
  obtain ⟨id, classes, style, others⟩ := traits
  cases id <;> cases classes <;> cases style <;> cases others <;> rfl

/-- None of the arguments is a text. -/
theorem ne_text_of_mem_leaves {traits : Traits} {leaf : Leaf} (h : leaf ∈ traits.leaves)
    (content : String) : leaf ≠ .text content := by
  obtain ⟨id, classes, style, others⟩ := traits
  rintro rfl
  cases id <;> cases classes <;> cases style <;> cases others <;> simp [leaves] at h

end Traits

namespace Arguments

/-- The traits among the arguments. -/
def traits : Arguments → Traits
  | nil => .empty
  | leaf first next => next.traits.withLeaf first
  | call _ _ next => next.traits

/-- The nodes among the arguments. -/
def outline : Arguments → Outline
  | nil => .nil
  | leaf (.text content) next => .text content next.outline
  | leaf _ next => next.outline
  | call name inner next => .element name inner.traits inner.outline next.outline

/-- Arguments without arguments of their own come before the others in the code. -/
theorem items_foldr_leaf (indent : Indent) (level : Nat) (leaves : List Leaf)
    (arguments : Arguments) :
    (leaves.foldr leaf arguments).items indent level =
      leaves.map Leaf.code ++ arguments.items indent level := by
  induction leaves with
  | nil => rfl
  | cons first leaves ih => exact congrArg (first.code :: ·) ih

theorem hasCallNames_foldr_leaf (leaves : List Leaf) (arguments : Arguments) :
    (leaves.foldr leaf arguments).hasCallNames = arguments.hasCallNames := by
  induction leaves with
  | nil => rfl
  | cons first leaves ih => exact ih

/-- The traits in front of arguments are added to those among them. -/
theorem traits_foldr_leaf (leaves : List Leaf) (arguments : Arguments) :
    (leaves.foldr leaf arguments).traits = leaves.foldr Traits.withLeaf arguments.traits := by
  induction leaves with
  | nil => rfl
  | cons first leaves ih => exact congrArg (Traits.withLeaf first) ih

/-- Traits are no nodes. -/
theorem outline_foldr_leaf {leaves : List Leaf}
    (h : ∀ leaf ∈ leaves, ∀ content, leaf ≠ .text content) (arguments : Arguments) :
    (leaves.foldr leaf arguments).outline = arguments.outline := by
  induction leaves with
  | nil => rfl
  | cons first leaves ih =>
    have hr := ih fun other hm => h other (List.mem_cons_of_mem first hm)
    rw [List.foldr_cons, outline, hr]
    exact h first List.mem_cons_self

end Arguments

namespace Outline

/-- The arguments that are written for the nodes. -/
def arguments : Outline → Arguments
  | nil => .nil
  | element name traits children next =>
    .call name (traits.leaves.foldr .leaf children.arguments) next.arguments
  | text content next => .leaf (.text content) next.arguments

/-- No traits are among the arguments that are written for nodes. -/
theorem traits_arguments (outline : Outline) : outline.arguments.traits = .empty := by
  induction outline with
  | nil => rfl
  | element name traits children next _ ih => exact ih
  | text content next ih => exact ih

/-- The nodes are read off the arguments that are written for them. -/
theorem outline_arguments (outline : Outline) : outline.arguments.outline = outline := by
  induction outline with
  | nil => rfl
  | element name traits children next ihc ihn =>
    rw [arguments, Arguments.outline, Arguments.traits_foldr_leaf, traits_arguments,
      Traits.foldr_withLeaf_leaves, ihn,
      Arguments.outline_foldr_leaf fun leaf h => Traits.ne_text_of_mem_leaves h, ihc]
  | text content next ih => rw [arguments, Arguments.outline, ih]

end Outline

/-- The items of a forest are the code of the arguments that are written for its outline. -/
theorem items_eq_items_arguments (settings : Settings) (level : Nat) (forest : Forest) :
    Layout.items settings level forest =
      (outline settings.ids forest).arguments.items settings.indent level := by
  induction forest generalizing level with
  | nil => rfl
  | element name attributes children next ihc ihn =>
    rw [Layout.items, outline, Outline.arguments, Arguments.items, Arguments.items_foldr_leaf,
      ← Traits.calls_eq, ihc, ihn]
  | text content next ih =>
    rw [Layout.items, outline, ih, Layout.textItem?]
    cases trim isMargin content.toList with
    | nil => rfl
    | cons c inner => rfl

theorem hasCallNames_arguments (ids : IdPolicy) (forest : Forest) :
    (outline ids forest).arguments.hasCallNames = hasCallNames forest := by
  induction forest with
  | nil => rfl
  | element name attributes children next ihc ihn =>
    rw [outline, Outline.arguments, Arguments.hasCallNames, Arguments.hasCallNames_foldr_leaf, ihc,
      ihn, hasCallNames]
  | text content next ih =>
    rw [outline, hasCallNames, ← ih]
    cases trim isMargin content.toList with
    | nil => rfl
    | cons c inner => rfl

/-- Items at the top level stand on lines without indentation. -/
theorem lines_zero (indent : Indent) (item : String) (others : List String) :
    lines indent 0 (item :: others) =
      ',' :: '\n' :: (String.intercalate ",\n" (item :: others)).toList := by
  simp [lines, Layout.atLevel_zero, String.toList_intercalate, intercalate_cons_eq,
    List.flatMap_map]

theorem intercalate_cons_ne_empty {item : String} (h : item ≠ "") (others : List String) :
    String.intercalate ",\n" (item :: others) ≠ "" := by
  intro he
  have hl := congrArg String.toList he
  rw [String.toList_intercalate, List.map_cons, intercalate_cons_eq] at hl
  exact h (String.toList_eq_nil_iff.1 (List.append_eq_nil_iff.1 hl).1)

/-- Items that are not empty stand on the same lines if they are the same when joined. -/
theorem lines_eq_of_intercalate_eq {items others : List String} (indent : Indent)
    (hi : ∀ item ∈ items, item ≠ "") (ho : ∀ item ∈ others, item ≠ "")
    (h : String.intercalate ",\n" items = String.intercalate ",\n" others) :
    lines indent 0 items = lines indent 0 others := by
  cases items with
  | nil =>
    cases others with
    | nil => rfl
    | cons other others =>
      exact absurd h.symm (intercalate_cons_ne_empty (ho other List.mem_cons_self) others)
  | cons item items =>
    cases others with
    | nil => exact absurd h (intercalate_cons_ne_empty (hi item List.mem_cons_self) items)
    | cons other others => rw [lines_zero, lines_zero, h]

/-- Code determines the document up to its outline. Where the names of two forests can be those of
calls, walks through them give the same code exactly if the forests have the same outline. -/
theorem Draft.code_eq_iff_outline_eq (settings : Settings) {first second : Forest}
    (hf : hasCallNames first = true) (hs : hasCallNames second = true) (draft other : Draft) :
    ∃ written rewritten,
      Sink.sendAll sink first.walk (draft.restart settings) = .ok () written ∧
        Sink.sendAll sink second.walk (other.restart settings) = .ok () rewritten ∧
        (written.code = rewritten.code ↔
          outline settings.ids first = outline settings.ids second) := by
  refine ⟨_, _, sendAll_walk_restart settings first draft,
    sendAll_walk_restart settings second other, ?_⟩
  simp only [rooted, items_eq_items_arguments]
  constructor
  · intro h
    have hl := lines_eq_of_intercalate_eq settings.indent
      (fun item hm => Layout.ne_empty_of_mem_items
        (items_eq_items_arguments settings 0 first ▸ hm))
      (fun item hm => Layout.ne_empty_of_mem_items
        (items_eq_items_arguments settings 0 second ▸ hm)) h
    rw [← hasCallNames_arguments settings.ids] at hf hs
    have ha := Arguments.lines_append_inj hf hs (stops_nil _) (stops_nil _)
      (congrArg (· ++ []) hl)
    rw [← Outline.outline_arguments (outline settings.ids first), ha.1, Outline.outline_arguments]
  · intro h
    rw [h]

/-- An element that is named as the call for classes, with code in its text. -/
def namesake : Forest :=
  .element "class" ⟨[("class", "a  b"), ("id", "x")], by decide⟩ (.text "\"],\n  b![" .nil) .nil

/-- The same with another id, in another order and with blanks around it. -/
def otherNamesake : Forest :=
  .text " " (.element "class" ⟨[("id", "y"), ("class", " a b ")], by decide⟩
    (.text "\t\"],\n  b![ " .nil) .nil)

/-- The two elements have the same code if ids are left blank, and only then. -/
theorem Draft.code_namesake :
    (hasCallNames namesake = true ∧ hasCallNames otherNamesake = true) ∧
      (∃ written rewritten,
        Sink.sendAll sink namesake.walk (restart { settings := {} } {}) = .ok () written ∧
          Sink.sendAll sink otherNamesake.walk (restart { settings := {} } {}) = .ok () rewritten ∧
          written.code = rewritten.code) ∧
      ∃ written rewritten,
        Sink.sendAll sink namesake.walk (restart { settings := {} } { ids := .keep }) =
            .ok () written ∧
          Sink.sendAll sink otherNamesake.walk (restart { settings := {} } { ids := .keep }) =
            .ok () rewritten ∧
          written.code ≠ rewritten.code := by
  have hf : hasCallNames namesake = true := by decide +kernel
  have hs : hasCallNames otherNamesake = true := by decide +kernel
  obtain ⟨written, rewritten, hw, hr, hb⟩ :=
    code_eq_iff_outline_eq {} hf hs { settings := {} } { settings := {} }
  obtain ⟨kept, rekept, hk, hl, hi⟩ :=
    code_eq_iff_outline_eq { ids := .keep } hf hs { settings := {} } { settings := {} }
  refine ⟨⟨hf, hs⟩, ⟨written, rewritten, hw, hr, hb.2 ?_⟩, kept, rekept, hk, hl, mt hi.1 ?_⟩
  · decide +kernel
  · decide +kernel

end ViewCode.Code
