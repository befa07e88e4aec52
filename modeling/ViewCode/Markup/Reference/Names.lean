import ViewCode.Markup.Reference.LowerNamesFirst
import ViewCode.Markup.Reference.LowerNamesSecond
import ViewCode.Markup.Reference.UpperNames

/-!
# Look-up of named references

Names are case-sensitive and are matched whole.
-/

namespace ViewCode.Markup.Reference

/-- Every named reference, by first letter. -/
def names : List (Char × Bucket) :=
  lowerNamesFirst ++ lowerNamesSecond ++ upperNames

/-- The character that the name stands for. -/
def named? : List Char → Option Char
  | [] => none
  | initial :: rest => do
    let bucket ← names.lookup initial
    let code ← bucket.lookup (String.ofList (initial :: rest))
    return Char.ofNat code

end ViewCode.Markup.Reference
