import ViewCode.Notice

/-!
# The log

Notices and failures are written to a log, one line each: a level, a message, and named values. How
much of the log is shown is chosen by a verbosity.
-/

namespace ViewCode

namespace Log

/-- How much a log entry matters. -/
inductive Level where
  /-- A failure. -/
  | error
  /-- A failure that the user can mend at once. -/
  | warn
  /-- The course of the program. -/
  | info
  /-- A summary for those who look for a fault. -/
  | debug
  /-- Every detail. -/
  | trace
  deriving DecidableEq, Repr

/-- The name of the level in the log. -/
def Level.name : Level → String
  | error => "ERROR"
  | warn => "WARN"
  | info => "INFO"
  | debug => "DEBUG"
  | trace => "TRACE"

/-- The place of the level, the weightiest first. -/
def Level.rank : Level → Nat
  | error => 1
  | warn => 2
  | info => 3
  | debug => 4
  | trace => 5

/-- How much of the log is shown. -/
inductive Verbosity where
  /-- Nothing. -/
  | off
  /-- The level and all that matter more. -/
  | upTo (level : Level)
  deriving DecidableEq, Repr

namespace Verbosity

/-- The verbosity that is used if none is asked for. -/
def standard : Verbosity :=
  upTo .warn

/-- Reads a verbosity given by name. -/
def ofString? (name : String) : Option Verbosity :=
  match name with
  | "off" => some off
  | "error" => some (upTo .error)
  | "warn" => some (upTo .warn)
  | "info" => some (upTo .info)
  | "debug" => some (upTo .debug)
  | "trace" => some (upTo .trace)
  | _ => none

/-- Whether entries of the level are shown. -/
def shows : Verbosity → Level → Bool
  | off, _ => false
  | upTo least, level => level.rank ≤ least.rank

end Verbosity

/-- One entry of the log. -/
structure Entry where
  /-- How much it matters. -/
  level : Level
  /-- What happened. -/
  message : String
  /-- Named values, in order. -/
  fields : List (String × String) := []
  deriving DecidableEq, Repr

/-- The entry as a line of text. -/
def Entry.line (entry : Entry) : String :=
  entry.level.name ++ " " ++ entry.message ++
    String.join (entry.fields.map fun field => " " ++ field.1 ++ "=" ++ field.2)

/-- The entries that are shown. -/
def visible (verbosity : Verbosity) (entries : List Entry) : List Entry :=
  entries.filter fun entry => verbosity.shows entry.level

end Log

/-- The log entry of a notice. -/
def Notice.entry : Notice → Log.Entry
  | .brokenTag name => ⟨.trace, "discarding unterminated start tag", [("tag", name)]⟩
  | .leftOpen name => ⟨.trace, "closing element left open at end of input", [("tag", name)]⟩
  | .impliedEnd ended opening => ⟨.trace, "implied end tag", [("closed", ended), ("by", opening)]⟩
  | .unmatchedEnd name => ⟨.trace, "ignoring end tag with no open element", [("tag", name)]⟩
  | .severalRoots => ⟨.trace, "second top-level item, switching to multi-root output", []⟩
  | .converted inputSize outputSize multiRoot =>
    ⟨.debug, "converted markup",
      [("input_len", toString inputSize), ("output_len", toString outputSize),
       ("multi_root", if multiRoot then "true" else "false")]⟩

end ViewCode
