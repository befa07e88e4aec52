import ViewCode.Code.Draft
import ViewCode.Markup.Reader

/-!
# Conversion

A session holds settings and a draft, and converts one piece of markup after another. Every
conversion starts the draft afresh, so that what was converted before leaves no trace in the code.
-/

namespace ViewCode

open ViewCode.Code ViewCode.Markup

/-- The code of some markup, and what was noticed on the way. -/
structure Conversion where
  /-- The code. -/
  code : String
  /-- The notices, in the order in which they arose. -/
  notices : List Notice
  deriving DecidableEq, Repr

/-- A conversion that came to no end. -/
structure Interruption where
  /-- Why there is no code. -/
  cause : CodeError
  /-- What was noticed up to then. -/
  notices : List Notice
  deriving DecidableEq, Repr

/-- A draft together with the notices collected so far. -/
structure Observed where
  /-- The draft. -/
  draft : Draft
  /-- The notices, in the order in which they arose. -/
  notices : Array Notice := #[]

namespace Observed

/-- Adds a notice. -/
def note (observed : Observed) (notice : Notice) : Observed :=
  { observed with notices := observed.notices.push notice }

/-- Notices a second item at the top level, given whether there had been one before. -/
def noteRoots (hadSeveral : Bool) (observed : Observed) : Observed :=
  if observed.draft.multiRoot && !hadSeveral then observed.note .severalRoots else observed

/-- Sends events to the draft and collects notices. A second item at the top level is noticed when
it comes. -/
def handle (signal : Signal) : EStateM CodeError Observed Unit := fun ⟨draft, notices⟩ =>
  match signal with
  | .notice n => .ok () (note ⟨draft, notices⟩ n)
  | .event e =>
    let hadSeveral := draft.multiRoot
    match Draft.limitedSink e draft with
    | .ok _ next => .ok () (noteRoots hadSeveral ⟨next, notices⟩)
    | .error cause next => .error cause (noteRoots hadSeveral ⟨next, notices⟩)

end Observed

/-- Settings with a draft that serves one conversion after another. -/
structure Session where
  /-- The settings for the next conversion. -/
  settings : Settings
  /-- The draft, as the last conversion left it. -/
  draft : Draft
  deriving DecidableEq, Repr

namespace Session

/-- A session in which nothing has been converted yet. -/
def start (settings : Settings) : Session :=
  ⟨settings, { settings := settings }⟩

/-- Sets the indentation. -/
def setIndent (session : Session) (indent : Indent) : Session :=
  { session with settings := { session.settings with indent := indent } }

/-- Sets the indentation by a character given as text. Where it is wrong the settings stay. -/
def parseIndent (char : String) (size : UInt64) : EStateM IndentError Session Unit :=
  fun session =>
    match Indent.parse char size with
    | .ok indent => .ok () (session.setIndent indent)
    | .error cause => .error cause session

/-- Converts markup to code. -/
def convert (markup : String) : EStateM Interruption Session Conversion := fun session =>
  match observe markup Observed.handle { draft := session.draft.restart session.settings } with
  | .error cause observed =>
    .error ⟨cause, observed.notices.toList⟩ { session with draft := observed.draft }
  | .ok _ observed =>
    match Draft.limitedFinish observed.draft with
    | .error cause draft =>
      .error ⟨cause, observed.notices.toList⟩ { session with draft := draft }
    | .ok code draft =>
      let summary :=
        .converted markup.utf8ByteSize code.utf8ByteSize observed.draft.multiRoot
      .ok ⟨code, (observed.note summary).notices.toList⟩ { session with draft := draft }

end Session

/-- The code of the markup under the given settings. -/
def convert (settings : Settings) (markup : String) : Except CodeError String :=
  match Session.convert markup (Session.start settings) with
  | .ok conversion _ => .ok conversion.code
  | .error stop _ => .error stop.cause

end ViewCode
