import ViewCode.Code.Traits

/-!
# Literals in code

Code is scanned from left to right for string literals. What a scan finds is put together from
parts: code that cuts no literal off holds certain texts wherever it stands, and so the calls of an
element's traits hold the texts of its attributes.
-/

namespace ViewCode.Code

/-- Where a scan for literals stands. -/
inductive Scan where
  /-- Outside all literals. -/
  | outside
  /-- In a literal of which the given characters have been read. -/
  | inside (value : List Char)
  /-- The same, directly after a backslash. -/
  | escaped (value : List Char)
  deriving DecidableEq, Repr

namespace Scan

/-- The values of the literals that end in the code, which is scanned on from the given point. -/
def literals : Scan → List Char → List String
  | _, [] => []
  | outside, c :: rest => literals (if c = '\x22' then inside [] else outside) rest
  | inside value, c :: rest =>
    if c = '\x22' then String.ofList value :: literals outside rest
    else literals (if c = '\\' then escaped value else inside (value ++ [c])) rest
  | escaped value, c :: rest => literals (inside (value ++ [c])) rest

/-- Code without quotes is passed over outside literals. -/
theorem literals_outside_append {code : List Char} (h : '\x22' ∉ code) (rest : List Char) :
    outside.literals (code ++ rest) = outside.literals rest := by
  induction code with
  | nil => rfl
  | cons c code ih =>
    have hc : c ≠ '\x22' := fun e => h (e ▸ List.mem_cons_self)
    rw [List.cons_append, literals, if_neg hc, ih fun hm => h (List.mem_cons_of_mem c hm)]

/-- Characters that are not special belong to the value of the literal they stand in. -/
theorem literals_inside_append {plain : List Char} (hq : '\x22' ∉ plain) (hb : '\\' ∉ plain)
    (value rest : List Char) :
    (inside value).literals (plain ++ rest) = (inside (value ++ plain)).literals rest := by
  induction plain generalizing value with
  | nil => rw [List.nil_append, List.append_nil]
  | cons c plain ih =>
    have hcq : c ≠ '\x22' := fun e => hq (e ▸ List.mem_cons_self)
    have hcb : c ≠ '\\' := fun e => hb (e ▸ List.mem_cons_self)
    rw [List.cons_append, literals, if_neg hcq, if_neg hcb,
      ih (fun hm => hq (List.mem_cons_of_mem c hm)) fun hm => hb (List.mem_cons_of_mem c hm),
      List.append_assoc]
    rfl

/-- An escaped text is read back up to its closing quote. -/
theorem literals_inside_escape (value text rest : List Char) :
    (inside value).literals (escape text ++ '\x22' :: rest) =
      String.ofList (value ++ text) :: outside.literals rest := by
  induction text generalizing value with
  | nil => simp [escape, literals]
  | cons c text ih =>
    have he : escape (c :: text) = escapeChar c ++ escape text := List.flatMap_cons
    have hv : value ++ c :: text = value ++ [c] ++ text := by simp
    rw [he, hv, ← ih]
    by_cases hc : c = '\x22' ∨ c = '\\'
    · simp [escapeChar, hc, literals]
    · obtain ⟨hq, hb⟩ := not_or.1 hc
      simp [escapeChar, hq, hb, literals]

end Scan

/-- The values of the string literals in the code, from left to right. A quote outside a literal
opens one; in it a backslash stands for the character after it, and the next quote closes it. -/
def literals (code : String) : List String :=
  Scan.outside.literals code.toList

/-- The code has no literal cut off at its ends, and its literals have the given values. -/
def Holds (code : String) (values : List String) : Prop :=
  ∀ rest, Scan.outside.literals (code.toList ++ rest) = values ++ Scan.outside.literals rest

namespace Holds

theorem literals_eq {code : String} {values : List String} (h : Holds code values) :
    literals code = values := by
  have hn := h []
  rw [List.append_nil, Scan.literals, List.append_nil] at hn
  exact hn

/-- Code after code holds the values of both. -/
theorem append {first second : String} {values others : List String} (hf : Holds first values)
    (hs : Holds second others) : Holds (first ++ second) (values ++ others) := by
  intro rest
  rw [String.toList_append, List.append_assoc, hf, hs, List.append_assoc]

/-- Code without quotes holds nothing. -/
theorem of_not_mem {code : String} (h : '\x22' ∉ code.toList) : Holds code [] :=
  fun rest => Scan.literals_outside_append h rest

/-- Code without quotes before other code adds nothing to what that holds. -/
theorem append_left {plain code : String} {values : List String} (h : '\x22' ∉ plain.toList)
    (hc : Holds code values) : Holds (plain ++ code) values :=
  (of_not_mem h).append hc

/-- Code without quotes after other code adds nothing to what that holds. -/
theorem append_right {plain code : String} {values : List String} (hc : Holds code values)
    (h : '\x22' ∉ plain.toList) : Holds (code ++ plain) values := by
  have ha := hc.append (of_not_mem h)
  rwa [List.append_nil] at ha

/-- Code without quotes around other code adds nothing to what that holds. -/
theorem enclose {code before after : String} {values : List String} (hc : Holds code values)
    (hb : '\x22' ∉ before.toList) (ha : '\x22' ∉ after.toList) :
    Holds (before ++ code ++ after) values :=
  (hc.append_left hb).append_right ha

/-- The literal of a text holds the text. -/
theorem literal (text : String) : Holds (literal text) [text] := by
  intro rest
  have hi := Scan.literals_inside_escape [] text.toList rest
  rw [List.nil_append, String.ofList_toList] at hi
  simp only [Code.literal, String.toList_append, String.toList_ofList, List.append_assoc]
  exact hi

/-- Two literals with an arrow between them hold both texts. -/
theorem literalPair (left right : String) : Holds (literalPair left right) [left, right] :=
  ((literal left).append_right (by decide)).append (literal right)

end Holds

/-- Each of the codes has no literal cut off, and the literals of all of them have the given
values. -/
inductive HoldAll : List String → List String → Prop where
  /-- No code holds nothing. -/
  | nil : HoldAll [] []
  /-- The values of one code come before those of the others. -/
  | cons {code : String} {codes values others : List String} :
      Holds code values → HoldAll codes others → HoldAll (code :: codes) (values ++ others)

namespace HoldAll

theorem append {codes more values others : List String} (hc : HoldAll codes values)
    (hm : HoldAll more others) : HoldAll (codes ++ more) (values ++ others) := by
  induction hc with
  | nil => exact hm
  | cons h _ ih =>
    rw [List.append_assoc]
    exact .cons h ih

/-- Code that may be absent holds nothing where it is. -/
theorem ofOption {code : Option String} {values : List String}
    (hs : ∀ c ∈ code, Holds c values) (hn : code = none → values = []) :
    HoldAll code.toList values := by
  cases code with
  | none =>
    rw [hn rfl]
    exact .nil
  | some c =>
    have hc : HoldAll [c] (values ++ []) := .cons (hs c rfl) .nil
    rwa [List.append_nil] at hc

/-- Codes that are written for items hold the texts of each. -/
theorem map {α : Type} {write : α → String} {texts : α → List String}
    (h : ∀ item, Holds (write item) (texts item)) (items : List α) :
    HoldAll (items.map write) (items.flatMap texts) := by
  induction items with
  | nil => exact .nil
  | cons item items ih => exact .cons (h item) ih

/-- Codes hold the same with other code before each that holds nothing. -/
theorem map_append_left {codes values : List String} {plain : String}
    (hp : '\x22' ∉ plain.toList) (h : HoldAll codes values) :
    HoldAll (codes.map (plain ++ ·)) values := by
  induction h with
  | nil => exact .nil
  | cons hc _ ih => exact .cons (hc.append_left hp) ih

/-- Codes hold the same when they are joined. -/
theorem intercalate {codes values : List String} {separator : String}
    (hs : '\x22' ∉ separator.toList) (h : HoldAll codes values) :
    Holds (String.intercalate separator codes) values := by
  induction h with
  | nil => exact .of_not_mem (by simp)
  | @cons code codes values others hc hrest ih =>
    cases codes with
    | nil =>
      cases hrest
      rw [List.append_nil]
      simpa using hc
    | cons second codes =>
      rw [String.intercalate_cons_cons]
      exact (hc.append_right hs).append ih

end HoldAll

/-- Indentation is made of spaces or tabs only. -/
theorem not_mem_atLevel {c : Char} (hs : c ≠ ' ') (ht : c ≠ '\t') (indent : Indent) (level : Nat) :
    c ∉ (indent.atLevel level).toList := by
  intro h
  rw [Indent.atLevel, String.toList_ofList] at h
  have hc := List.eq_of_mem_replicate h
  cases hi : indent.char with
  | tab =>
    rw [hi] at hc
    exact ht hc
  | space =>
    rw [hi] at hc
    exact hs hc

namespace Traits

/-- The texts in the traits, in the order in which they are written. -/
def strings (traits : Traits) : List String :=
  traits.id.toList ++ (traits.classes ++
    ((traits.style.getD []).flatMap (fun d => [d.property, d.value]) ++
      traits.others.flatMap fun entry => [entry.1, entry.2]))

/-- The calls of the traits hold their texts. -/
theorem holdAll_calls (traits : Traits) : HoldAll traits.calls traits.strings := by
  have hc : traits.calls = traits.idCall.toList ++ (traits.classCall.toList ++
      (traits.styleCall.toList ++ traits.attrsCall.toList)) := by
    unfold calls
    cases traits.idCall <;> cases traits.classCall <;> cases traits.styleCall <;>
      cases traits.attrsCall <;> rfl
  rw [hc]
  refine .append ?_ (.append ?_ (.append ?_ ?_))
  · refine .ofOption (fun c h => ?_) (by simp [idCall])
    obtain ⟨text, hi, rfl⟩ := Option.map_eq_some_iff.1 h
    rw [hi]
    exact (Holds.literal text).enclose (by decide) (by decide)
  · refine .ofOption (fun c h => ?_) (by simp [classCall])
    have hl := HoldAll.map Holds.literal traits.classes
    rw [List.flatMap_singleton'] at hl
    simp only [classCall, Option.mem_def, Option.ite_none_left_eq_some, Option.some.injEq] at h
    rw [← h.2]
    exact (hl.intercalate (by decide)).enclose (by decide) (by decide)
  · refine .ofOption (fun c h => ?_) (by simp +contextual [styleCall])
    obtain ⟨declarations, hd, rfl⟩ := Option.map_eq_some_iff.1 h
    rw [hd]
    have hl := HoldAll.map (fun d : Declaration => Holds.literalPair d.property d.value)
      declarations
    exact (hl.intercalate (by decide)).enclose (by decide) (by decide)
  · refine .ofOption (fun c h => ?_) (by simp +contextual [attrsCall])
    have hl := HoldAll.map (fun entry : String × String => Holds.literalPair entry.1 entry.2)
      traits.others
    simp only [attrsCall, Option.mem_def, Option.ite_none_left_eq_some, Option.some.injEq] at h
    rw [← h.2]
    exact (hl.intercalate (by decide)).enclose (by decide) (by decide)

end Traits

end ViewCode.Code
