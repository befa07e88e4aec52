import ViewCode.Code.Traits
import ViewCode.Markup.Forest

/-!
# The layout of code

The code of a document, described by recursion on its forest instead of by a stream of events: each
node has at most one item of code, and the items of an element's traits and children are the
arguments of its call.
-/

namespace ViewCode.Code.Layout

open ViewCode.Markup ViewCode.Text

/-- The call of an element at the given level. Arguments stand one to a line, a level deeper. -/
def call (indent : Indent) (level : Nat) (name : String) (arguments : List String) : String :=
  if arguments.isEmpty then name ++ "![]"
  else
    let lines := arguments.map fun argument => "\n" ++ indent.atLevel (level + 1) ++ argument
    name ++ "![" ++ String.intercalate "," lines ++ "\n" ++ indent.atLevel level ++ "]"

/-- The item of a text, if anything is left of it without its margins. -/
def textItem? (content : String) : Option String :=
  match trim isMargin content.toList with
  | [] => none
  | inner => some (literal (String.ofList inner))

/-- The items of the nodes at the given level, in document order. -/
def items (settings : Settings) (level : Nat) : Forest → List String
  | .nil => []
  | .text content next => (textItem? content).toList ++ items settings level next
  | .element name attributes children next =>
    let traits := (Traits.ofAttributes settings.ids attributes).calls
    call settings.indent level name (traits ++ items settings (level + 1) children) ::
      items settings level next

/-- The lines of the code, each with one more level of indentation. -/
def deeper (indent : Indent) (code : String) : String :=
  let lines := (split (· == '\n') code.toList).map String.ofList
  String.intercalate "\n" (lines.map fun line => indent.unit ++ line)

/-- The code of a document: nothing, one item, or a vector of items. -/
def document (settings : Settings) (forest : Forest) : String :=
  match items settings 0 forest with
  | [] => ""
  | [item] => item
  | several => "vec![\n" ++ deeper settings.indent (String.intercalate ",\n" several) ++ "\n]"

end ViewCode.Code.Layout
