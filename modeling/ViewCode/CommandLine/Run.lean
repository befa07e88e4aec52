import ViewCode.CommandLine.Options
import ViewCode.CommandLine.Store
import ViewCode.Conversion
import ViewCode.Log

/-!
# A run of the program

A run reads its input, converts it and writes the code. Everything that can go wrong before the
code is written is found out before anything is written, so a run that fails or breaks off changes
nothing.
-/

namespace ViewCode.CommandLine

open ViewCode.Code ViewCode.Text

/-- Why a run fails. -/
inductive Failure where
  /-- The input holds nothing but blanks. -/
  | blankInput
  /-- Reading or writing went wrong. -/
  | io (fault : IoFault)
  /-- The indentation asked for is impossible. -/
  | indent (cause : IndentError)
  /-- The events of the markup were not nested. -/
  | nesting (cause : NestingError)
  deriving DecidableEq, Repr

namespace Failure

/-- The failure in words. -/
def message : Failure → String
  | blankInput => "No markup supplied. Provide some HTML and try again."
  | io fault => "I/O error: " ++ fault.message
  | indent cause => "invalid indentation: " ++ cause.message
  | nesting cause => "conversion failed: " ++ cause.message

/-- How much the failure matters. -/
def level : Failure → Log.Level
  | blankInput => .warn
  | io _ | indent _ | nesting _ => .error

/-- The log entry of the failure. -/
def entry (failure : Failure) : Log.Entry :=
  ⟨failure.level, failure.message, []⟩

end Failure

/-- How a run ends that comes to no code. -/
structure Stop where
  /-- The failure that is reported. Where there is none the program breaks off. -/
  failure? : Option Failure
  /-- What was noticed up to then. -/
  notices : List Notice := []
  deriving DecidableEq, Repr

namespace Stop

/-- The exit code of the run. -/
def exitCode (stop : Stop) : Nat :=
  if stop.failure?.isSome then 1 else 101

/-- What is logged. -/
def log (stop : Stop) : List Log.Entry :=
  stop.notices.map Notice.entry ++ stop.failure?.toList.map Failure.entry

/-- The end of a run with an interrupted conversion. -/
def ofInterruption (interruption : Interruption) : Stop where
  failure? :=
    match interruption.cause with
    | .nesting cause => some (.nesting cause)
    | .tooLong => none
  notices := interruption.notices

end Stop

/-- What is left to do once the code is known. -/
inductive Delivery where
  /-- Print the code. -/
  | print (code : String)
  /-- Write the code to a file. -/
  | save (path code : String)
  deriving DecidableEq, Repr

/-- The text of the input. -/
def decodeInput (input : Except IoFault ByteArray) : Except Failure String :=
  match input with
  | .error fault => .error (.io fault)
  | .ok bytes =>
    match String.fromUTF8? bytes with
    | none => .error (.io .invalidUtf8)
    | some markup => .ok markup

/-- The settings that the options ask for. -/
def settingsOf (options : Options) : Except Failure Settings :=
  match options.indent with
  | .error cause => .error (.indent cause)
  | .ok indent => .ok ⟨indent, options.ids⟩

/-- The conversion of the input. -/
def convertInput (options : Options) (input : Except IoFault ByteArray) :
    Except Stop Conversion :=
  match decodeInput input with
  | .error failure => .error { failure? := some failure }
  | .ok markup =>
    if markup.toList.all isBlank then .error { failure? := some .blankInput }
    else
      match settingsOf options with
      | .error failure => .error { failure? := some failure }
      | .ok settings =>
        match Session.convert markup (Session.start settings) with
        | .ok conversion _ => .ok conversion
        | .error interruption _ => .error (Stop.ofInterruption interruption)

/-- Where the code goes. -/
def deliveryOf (options : Options) (code : String) : Delivery :=
  match options.output with
  | none => .print code
  | some path => .save path code

/-- What a run finds around it. -/
structure World where
  /-- The files. -/
  files : FileSystem
  /-- The standard input. -/
  stdin : ByteArray := ByteArray.empty

/-- What a run leaves behind. -/
structure Outcome where
  /-- The exit code: 0 for success, 1 for a failure, 2 for wrong arguments, 101 where the program
  breaks off. -/
  exitCode : Nat
  /-- What was printed. -/
  stdout : String := ""
  /-- What was logged. -/
  log : List Log.Entry := []
  /-- The files. -/
  files : Store

/-- The bytes of the input that the options choose. -/
def readInput (options : Options) (world : World) : Except IoFault ByteArray :=
  match options.input with
  | none => .ok world.stdin
  | some path => world.files.read path

/-- The outcome of a conversion. -/
def runConvert (options : Options) (world : World) : Outcome :=
  match convertInput options (readInput options world) with
  | .error stop => { exitCode := stop.exitCode, log := stop.log, files := world.files.store }
  | .ok conversion =>
    let log := conversion.notices.map Notice.entry
    match deliveryOf options conversion.code with
    | .print code =>
      { exitCode := 0, stdout := code ++ "\n", log := log, files := world.files.store }
    | .save path code =>
      match world.files.write path code.toUTF8 with
      | .ok files => { exitCode := 0, log := log, files := files }
      | .error fault =>
        { exitCode := 1, log := log ++ [(Failure.io fault).entry], files := world.files.store }

/-- What is printed for the version. -/
def versionText : String :=
  "html2seed 0.1.0\n"

/-- The outcome of the arguments, with the log as far as it is shown. The wording of the help and
of complaints about arguments is not part of it. -/
def run (arguments : List String) (verbosity : Log.Verbosity) (world : World) : Outcome :=
  match Options.parse arguments with
  | none => { exitCode := 2, files := world.files.store }
  | some .version => { exitCode := 0, stdout := versionText, files := world.files.store }
  | some .help => { exitCode := 0, files := world.files.store }
  | some (.convert options) =>
    let outcome := runConvert options world
    { outcome with log := Log.visible verbosity outcome.log }

end ViewCode.CommandLine
