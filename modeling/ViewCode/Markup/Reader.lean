import ViewCode.Markup.Event
import ViewCode.Markup.Piece

/-!
# Reading markup

The reader goes through the content token by token and calls a handler as it goes. It keeps the
names of the open elements, and the raw text that it has not handed on yet, which is handed on as
one text before any markup and at the end of the input. The first call that the handler refuses
ends the reading.
-/

namespace ViewCode.Markup

/-- What is kept while markup is read. -/
structure Reader where
  /-- The names of the open elements, innermost first. -/
  opened : List String := []
  /-- The raw text that has not been handed on yet. -/
  pending : String := ""
  deriving DecidableEq, Repr

namespace Reader

variable {ε σ : Type} (handle : Signal → EStateM ε σ Unit)

/-- Hands on the pending text, if there is any. -/
def flushText (reader : Reader) : EStateM ε σ Reader :=
  if reader.pending.isEmpty then pure reader
  else do
    handle (.event (.text (Reference.decoded reader.pending.toList)))
    return { reader with pending := "" }

/-- Leaves the innermost elements as long as the start of the named element ends them, and returns
what stays open. -/
def endImplied (name : String) : List String → EStateM ε σ (List String)
  | [] => pure []
  | innermost :: outer =>
    if ContentModel.impliesEnd name innermost then do
      handle (.notice (.impliedEnd innermost name))
      handle (.event .leave)
      endImplied name outer
    else pure (innermost :: outer)

/-- Leaves the given number of the innermost elements, and returns what stays open. -/
def leaveInner : Nat → List String → EStateM ε σ (List String)
  | count + 1, _ :: outer => do
    handle (.event .leave)
    leaveInner count outer
  | _, opened => pure opened

/-- Reads an end tag, which ends the nearest element of its name with everything inside it. -/
def endTag (name : String) (reader : Reader) : EStateM ε σ Reader :=
  match reader.opened.findIdx? (· == name) with
  | some inner => do
    let opened ← leaveInner handle (inner + 1) reader.opened
    return { reader with opened := opened }
  | none => do
    handle (.notice (.unmatchedEnd name))
    return reader

/-- Reads a start tag, and with it the whole element if that has raw text. Returns what is left of
the content after the tag. -/
def startTag (name : String) (tag : Tag) (content : List Char) (reader : Reader) :
    EStateM ε σ (Reader × { left : List Char // left.length ≤ content.length }) := do
  let opened ← endImplied handle name reader.opened
  handle (.event (.enter name tag.attributes))
  if tag.selfClosing || ContentModel.isVoid name then
    handle (.event .leave)
    return ({ reader with opened := opened }, ⟨content, Nat.le_refl _⟩)
  else
    match ContentModel.rawMode? name with
    | some mode =>
      let raw := RawText.upToEndTag name.toList content
      let inner := Piece.rawContent mode raw.1
      if !inner.isEmpty then
        handle (.event (.text inner))
      handle (.event .leave)
      return ({ reader with opened := opened },
        ⟨raw.2, RawText.length_upToEndTag_le name.toList content⟩)
    | none => return ({ reader with opened := name :: opened }, ⟨content, Nat.le_refl _⟩)

/-- Leaves all open elements at the end of the input. -/
def leaveAll : List String → EStateM ε σ Unit
  | [] => pure ()
  | innermost :: outer => do
    handle (.notice (.leftOpen innermost))
    handle (.event .leave)
    leaveAll outer

/-- Reads the content to its end. -/
def run (reader : Reader) (content : List Char) : EStateM ε σ Unit :=
  match h : Content.next? content with
  | none => do
    let flushed ← flushText handle reader
    leaveAll handle flushed.opened
  | some (token, after) =>
    have := Content.length_lt_of_next? h
    match token.kind with
    | .text | .lessThan | .unterminated =>
      run { reader with pending := reader.pending ++ String.ofList token.lexeme } after
    | .comment | .declaration | .processingInstruction => do
      let flushed ← flushText handle reader
      run flushed after
    | .endTag => do
      let flushed ← flushText handle reader
      let ended ← endTag handle (TagName.ofEnd token.lexeme) flushed
      run ended after
    | .startTag => do
      let flushed ← flushText handle reader
      let name := TagName.ofStart token.lexeme
      match ht : Tag.read after with
      | (none, left) =>
        have := Tag.length_le_of_read ht
        handle (.notice (.brokenTag name))
        run flushed left
      | (some tag, left) =>
        have := Tag.length_le_of_read ht
        let (started, ⟨rest, _⟩) ← startTag handle name tag left flushed
        run started rest
termination_by content.length

end Reader

/-- Reads the markup and hands everything that is reported of it to the handler. -/
def observe {ε σ : Type} (markup : String) (handle : Signal → EStateM ε σ Unit) :
    EStateM ε σ Unit :=
  Reader.run handle {} markup.toList

/-- Reads the markup and sends its events to the sink, up to the first one that it refuses. -/
def feed {ε σ : Type} (markup : String) (sink : Sink ε σ) : EStateM ε σ Unit :=
  observe markup sink.handler

/-- The events of the markup. -/
def events (markup : String) : List Event :=
  match feed markup (Sink.keepAll : Sink Empty (Array Event)) #[] with
  | .ok _ kept => kept.toList
  | .error refusal _ => nomatch refusal

end ViewCode.Markup
