import ViewCode.Code.Declaration
import ViewCode.Markup.Attributes
import ViewCode.Settings

/-!
# Traits of an element

What the attributes of an element mean for its code: its id, its classes, its style, and the rest
in document order. Each of these that is present becomes one call, in this order.
-/

namespace ViewCode.Code

open ViewCode.Markup ViewCode.Text

/-- What the attributes of an element mean. -/
structure Traits where
  /-- The text for the id, if there is an `id` attribute. -/
  id : Option String
  /-- The names in the `class` attribute. -/
  classes : List String
  /-- The declarations of the `style` attribute, if there is one. -/
  style : Option (List Declaration)
  /-- All other attributes, in document order. -/
  others : List (String × String)
  deriving DecidableEq, Repr

namespace Traits

/-- The text that is written for an id with the given value. -/
def idText (ids : IdPolicy) (value : String) : String :=
  match ids with
  | .blank => ""
  | .keep => value

/-- The names in a `class` attribute. -/
def classNames (value : String) : List String :=
  (words value.toList).map String.ofList

/-- Whether the attribute has no call of its own. -/
def isOther (name : String) : Bool :=
  name != "id" && name != "class" && name != "style"

/-- The meaning of the attributes. -/
def ofAttributes (ids : IdPolicy) (attributes : Attributes) : Traits where
  id := (attributes.get? "id").map (idText ids)
  classes := ((attributes.get? "class").map classNames).getD []
  style := (attributes.get? "style").map Declaration.parse
  others := attributes.entries.filter fun entry => isOther entry.1

/-- The call for the id. -/
def idCall (traits : Traits) : Option String :=
  traits.id.map fun text => "id!(" ++ literal text ++ ")"

/-- The call for the classes, if there are any. -/
def classCall (traits : Traits) : Option String :=
  if traits.classes.isEmpty then none
  else some ("class![" ++ String.intercalate ", " (traits.classes.map literal) ++ "]")

/-- The call for the style, also if it has no declarations. -/
def styleCall (traits : Traits) : Option String :=
  traits.style.map fun declarations =>
    "style! \x7b" ++ Declaration.render declarations ++ "\x7d"

/-- The call for all other attributes, if there are any. -/
def attrsCall (traits : Traits) : Option String :=
  if traits.others.isEmpty then none
  else some ("attrs![" ++
    String.intercalate "; " (traits.others.map fun entry => literalPair entry.1 entry.2) ++ "]")

/-- The calls that are present, in the order in which they are written. -/
def calls (traits : Traits) : List String :=
  [traits.idCall, traits.classCall, traits.styleCall, traits.attrsCall].reduceOption

end Traits

end ViewCode.Code
