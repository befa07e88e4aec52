/-!
# Buckets of named references

Named character references are filed by the first letter of their name, so that a look-up compares
a name with those of one letter only.
-/

namespace ViewCode.Markup.Reference

/-- Names of character references, each with the code point of the one character it stands for. -/
abbrev Bucket := List (String × Nat)

end ViewCode.Markup.Reference
