import ViewCode.Text.CaseIgnorable
import ViewCode.Text.Cased
import ViewCode.Text.LowerRuns

/-!
# Lower-case text

Tag and attribute names are compared in lower case, for every script. A character has one
lower-case form, with two exceptions: the capital I with a dot becomes two characters, and capital
sigma becomes a final sigma where it ends a word.
-/

namespace ViewCode.Text

/-- The lower-case form of a character that does not depend on its neighbours. -/
def lowerChar (c : Char) : List Char :=
  if c.toNat < 0x80 then [c.toLower]
  else if c = '\u0130' then ['i', '\u0307']
  else match lowerRuns.find? (·.covers c.toNat) with
    | none => [c]
    | some run => [Char.ofNat (run.lower c.toNat)]

/-- Whether the first character that is not case-ignorable exists and is cased. -/
def meetsCased (text : List Char) : Bool :=
  match text.dropWhile caseIgnorableRanges.covers with
  | [] => false
  | c :: _ => casedRanges.covers c

/-- The lower-case form of a capital sigma, given the text before it, nearest character first, and
the text after it. A sigma that follows a cased character and is not followed by one ends a word.
-/
def lowerSigma (before after : List Char) : Char :=
  if meetsCased before && !meetsCased after then '\u03C2' else '\u03C3'

/-- The lower-case form of the text, given what stands before it, nearest character first. -/
def lowerAfter (before : List Char) : List Char → List Char
  | [] => []
  | c :: rest =>
    (if c = '\u03A3' then [lowerSigma before rest] else lowerChar c) ++
      lowerAfter (c :: before) rest

/-- The lower-case form of the text. -/
def lower (text : List Char) : List Char :=
  lowerAfter [] text

/-- The lower-case form of ASCII text is taken character by character. -/
theorem lowerAfter_ascii (before text : List Char) (h : ∀ c ∈ text, c.toNat < 0x80) :
    lowerAfter before text = text.map Char.toLower := by
  induction text generalizing before with
  | nil => rfl
  | cons c rest ih =>
    have hc : c.toNat < 0x80 := h c List.mem_cons_self
    have hs : c ≠ '\u03A3' := fun e => by simp [e] at hc
    have hr : ∀ d ∈ rest, d.toNat < 0x80 := fun d hd => h d (List.mem_cons_of_mem c hd)
    rw [lowerAfter, if_neg hs, ih _ hr, lowerChar, if_pos hc]
    rfl

end ViewCode.Text
