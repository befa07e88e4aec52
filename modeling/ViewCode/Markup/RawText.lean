import ViewCode.Text.Blank

/-!
# Raw text

The content of a raw-text element runs up to its own end tag. Nothing else in it is markup, and
where the end tag is missing the content runs to the end of the input. The name in the end tag is
compared without regard to ASCII case.
-/

namespace ViewCode.Markup.RawText

open ViewCode.Text

/-- What comes after the name, if the text begins with it in any ASCII case. -/
def afterName? : List Char → List Char → Option (List Char)
  | [], text => some text
  | _ :: _, [] => none
  | n :: name, c :: text => if c.toLower = n then afterName? name text else none

/-- Whether an end tag's name may end before the text. -/
def endsName : List Char → Bool
  | [] => true
  | c :: _ => c == '>' || c == '/' || isTagBlank c

/-- Whether the end tag of the named element begins the text. -/
def isEndTag (name : List Char) : List Char → Bool
  | '<' :: '/' :: text => ((afterName? name text).map endsName).getD false
  | _ => false

/-- The content up to the end tag of the named element, and what comes after that tag. -/
def upToEndTag (name : List Char) : List Char → List Char × List Char
  | [] => ([], [])
  | c :: rest =>
    if isEndTag name (c :: rest) then ([], ((c :: rest).dropWhile (· != '>')).drop 1)
    else (c :: (upToEndTag name rest).1, (upToEndTag name rest).2)

/-- What comes after the end tag is not longer than the text. -/
theorem length_upToEndTag_le (name text : List Char) :
    (upToEndTag name text).2.length ≤ text.length := by
  induction text with
  | nil => exact Nat.le_refl _
  | cons c rest ih =>
    unfold upToEndTag
    split
    · have hd := (List.dropWhile_sublist (· != '>') (l := c :: rest)).length_le
      simp only [List.length_drop]
      omega
    · exact Nat.le_succ_of_le ih

end ViewCode.Markup.RawText
