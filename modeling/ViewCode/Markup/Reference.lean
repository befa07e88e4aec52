import ViewCode.Markup.Reference.Names

/-!
# Character references

A character reference stands for one character: `&name;`, `&#decimal;` or `&#xhexadecimal;`. What
does not form a reference stands for itself, and what a reference stands for is not read again.
-/

namespace ViewCode.Markup.Reference

/-- The value of a digit in the given base, at most sixteen. -/
def digit? (base : Nat) (c : Char) : Option Nat :=
  let value? : Option Nat :=
    if '0' ≤ c ∧ c ≤ '9' then some (c.toNat - '0'.toNat)
    else if 'a' ≤ c ∧ c ≤ 'f' then some (c.toNat - 'a'.toNat + 10)
    else if 'A' ≤ c ∧ c ≤ 'F' then some (c.toNat - 'A'.toNat + 10)
    else none
  value?.filter (· < base)

/-- The number written by the digits, of which there is at least one. -/
def number? (base : Nat) : List Char → Option Nat
  | [] => none
  | digits => digits.foldlM (fun value c => (digit? base c).map (value * base + ·)) 0

/-- The character with the given code point. Surrogates, and control characters other than tab,
line feed, form feed and carriage return, cannot be referred to. -/
def character? (code : Nat) : Option Char :=
  if code.isValidChar ∧ (0x20 ≤ code ∨ code ∈ [0x9, 0xA, 0xC, 0xD]) then some (Char.ofNat code)
  else none

/-- The character that the text between `&` and `;` stands for. -/
def resolve? : List Char → Option Char
  | '#' :: 'x' :: digits => number? 16 digits >>= character?
  | '#' :: 'X' :: digits => number? 16 digits >>= character?
  | '#' :: digits => number? 10 digits >>= character?
  | name => named? name

/-- Whether the character can stand inside a reference. -/
def isInner (c : Char) : Bool :=
  c != ';' && c != '&'

/-- The character of the reference whose `&` stands before the text, and the text after its `;`. -/
def next? (text : List Char) : Option (Char × List Char) :=
  match text.dropWhile isInner with
  | ';' :: after => (resolve? (text.takeWhile isInner)).map (·, after)
  | _ => none

/-- A reference is not empty. -/
theorem length_lt_of_next? {text after : List Char} {c : Char} (h : next? text = some (c, after)) :
    after.length < text.length := by
  unfold next? at h
  split at h
  · rename_i rest hd
    have hl := (List.dropWhile_sublist isInner (l := text)).length_le
    rw [hd, List.length_cons] at hl
    obtain ⟨_, _, he⟩ := Option.map_eq_some_iff.1 h
    cases he
    exact hl
  · simp at h

/-- The text with every reference replaced by the character it stands for. -/
def decode : List Char → List Char
  | [] => []
  | c :: rest =>
    if c = '&' then
      match h : next? rest with
      | some (referred, after) =>
        have := length_lt_of_next? h
        referred :: decode after
      | none => c :: decode rest
    else c :: decode rest
termination_by text => text.length

/-- What the characters stand for, as a text. -/
def decoded (raw : List Char) : String :=
  String.ofList (decode raw)

end ViewCode.Markup.Reference
