import ViewCode.Code.Traits
import ViewCode.Markup.Event

/-!
# Code under construction

A draft turns events into code as they come. An element becomes a call with its traits and the
texts and elements inside it as arguments, one to a line and indented by their depth; a call
without arguments closes at once. Several items at the top level become a vector when the draft is
finished. A draft that is to hold more than a text can breaks off.
-/

namespace ViewCode.Code

open ViewCode.Markup ViewCode.Text

/-- How a stream of events fails to be nested. -/
inductive NestingError where
  /-- An element is left where none is open. -/
  | nothingOpen
  /-- The stream ends inside the labelled element. -/
  | stillOpen (label : String)
  deriving DecidableEq, Repr

/-- The error in words. -/
def NestingError.message : NestingError → String
  | .nothingOpen => "close-element notification with no open element"
  | .stillOpen label => "stream ended while element `" ++ label ++ "` was still open"

/-- Why there is no code. -/
inductive CodeError where
  /-- The events are not nested. -/
  | nesting (cause : NestingError)
  /-- A text would get too long. This is not reported as an error: the program breaks off. -/
  | tooLong
  deriving DecidableEq, Repr

/-- The error in words. -/
def CodeError.message : CodeError → String
  | .nesting cause => cause.message
  | .tooLong => "capacity overflow"

/-- The call of an element that has been entered and not left. -/
structure OpenCall where
  /-- The name of the element followed by its depth. -/
  label : String
  /-- Whether the call has no arguments yet. -/
  empty : Bool
  deriving DecidableEq, Repr

/-- Code under construction. -/
structure Draft where
  /-- The settings for the code. -/
  settings : Settings
  /-- The code written so far. -/
  code : String := ""
  /-- The open calls, innermost first. -/
  calls : List OpenCall := []
  /-- Whether there has been a second item at the top level. -/
  multiRoot : Bool := false
  deriving DecidableEq, Repr

namespace Draft

/-- Takes new settings and forgets everything else. -/
def restart (draft : Draft) (settings : Settings) : Draft :=
  { draft with settings := settings, code := "", calls := [], multiRoot := false }

/-- The depth of the innermost open call, which is -1 if none is open. -/
def depth (draft : Draft) : Int :=
  draft.calls.length - 1

/-- The indentation of a nesting level. -/
def indentAt (draft : Draft) (level : Nat) : String :=
  draft.settings.indent.atLevel level

/-- The draft with more code at the end. -/
def push (draft : Draft) (code : String) : Draft :=
  { draft with code := draft.code ++ code }

/-- Divides a new item at the top level from the one before it. -/
def beginRoot (draft : Draft) : Draft :=
  if draft.multiRoot || draft.code != "" then
    { draft with code := draft.code ++ ",\n", multiRoot := true }
  else draft

/-- Divides a new item from what stands before it, in the innermost open call or at the top level.
-/
def beginItem (draft : Draft) : Draft :=
  match draft.calls with
  | [] => draft.beginRoot
  | call :: outer =>
    { draft with calls := { call with empty := false } :: outer }.push
      (if call.empty then "\n" else ",\n")

/-- Arguments of a call, each on a line of its own at the given level. -/
def argumentLines (indent : Indent) (level : Nat) (arguments : List String) : String :=
  String.intercalate "," (arguments.map fun argument => "\n" ++ indent.atLevel level ++ argument)

/-- Opens the call of an element and writes its traits. -/
def enter (draft : Draft) (name : String) (attributes : Attributes) : Draft :=
  let level := draft.calls.length
  let traits := (Traits.ofAttributes draft.settings.ids attributes).calls
  let opening := draft.indentAt level ++ name ++ "![" ++
    argumentLines draft.settings.indent (level + 1) traits
  let begun := draft.beginItem.push opening
  { begun with calls := ⟨name ++ toString level, traits.isEmpty⟩ :: begun.calls }

/-- Writes a text, unless nothing is left of it without its margins. -/
def text (draft : Draft) (content : String) : Draft :=
  let inner := String.ofList (trim isMargin content.toList)
  if inner.isEmpty then draft
  else
    let item := draft.indentAt draft.calls.length ++ literal inner
    draft.beginItem.push item

/-- Closes the innermost open call. -/
def leave : EStateM NestingError Draft Unit := fun draft =>
  match draft.calls with
  | [] => .error .nothingOpen draft
  | call :: outer =>
    let ending := if call.empty then "]" else "\n" ++ draft.indentAt outer.length ++ "]"
    .ok () ({ draft with calls := outer }.push ending)

/-- The draft as a sink of events. -/
def sink : Sink NestingError Draft
  | .enter name attributes => modify (·.enter name attributes)
  | .text content => modify (·.text content)
  | .leave => leave

/-- The levels whose indentation the event writes. -/
def levels (draft : Draft) : Event → List Nat
  | .enter _ attributes =>
    let traits := (Traits.ofAttributes draft.settings.ids attributes).calls
    draft.calls.length :: traits.map fun _ => draft.calls.length + 1
  | .text content =>
    let inner := String.ofList (trim isMargin content.toList)
    if inner.isEmpty then [] else [draft.calls.length]
  | .leave =>
    match draft.calls with
    | [] => []
    | call :: outer => if call.empty then [] else [outer.length]

/-- The draft as a sink of events that breaks off where a text gets too long. Indentation that is
too long is not made at all, and then the code is measured. -/
def limitedSink : Sink CodeError Draft := fun event draft =>
  if (draft.levels event).all draft.settings.indent.fits then
    match sink event draft with
    | .error cause next => .error (.nesting cause) next
    | .ok _ next =>
      if next.code.utf8ByteSize ≤ maxTextSize then .ok () next else .error .tooLong next
  else .error .tooLong draft

/-- The code with the given text before each of its lines, blank ones included. -/
def indentLines (unit code : String) : String :=
  String.ofList (unit.toList ++
    code.toList.flatMap fun c => if c = '\n' then c :: unit.toList else [c])

/-- Several items as one vector. -/
def wrap (indent : Indent) (code : String) : String :=
  "vec![\n" ++ indentLines indent.unit code ++ "\n]"

/-- Hands out the finished code, and refuses if a call is open. The code is taken out of the draft
either way; the open calls stay. -/
def finish : EStateM NestingError Draft String := fun draft =>
  let emptied := { draft with code := "" }
  match draft.calls with
  | call :: _ => .error (.stillOpen call.label) emptied
  | [] =>
    .ok (if draft.multiRoot then wrap draft.settings.indent draft.code else draft.code) emptied

/-- Hands out the finished code as `finish` does, but breaks off where it gets too long. -/
def limitedFinish : EStateM CodeError Draft String := fun draft =>
  let emptied := { draft with code := "" }
  if draft.calls.isEmpty && draft.multiRoot && !draft.settings.indent.fits 1 then
    .error .tooLong emptied
  else
    match finish draft with
    | .error cause next => .error (.nesting cause) next
    | .ok code next =>
      if code.utf8ByteSize ≤ maxTextSize then .ok code next else .error .tooLong next

end Draft

end ViewCode.Code
