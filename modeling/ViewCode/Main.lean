import ViewCode.CommandLine.Run

/-!
# The program

Reads markup from a file or from the standard input and writes the code to a file or to the
standard output. The log goes to the standard error stream; the variable `RUST_LOG` sets its
verbosity.
-/

namespace ViewCode.CommandLine

/-- What is printed for help. -/
def helpText : String :=
  String.join
    ["Convert HTML into Seed element macros\n\n",
     "Usage: html2seed [OPTIONS] [INPUT]\n\n",
     "Arguments:\n",
     "  [INPUT]  Input file (defaults to stdin)\n\n",
     "Options:\n",
     "  -o, --output <OUTPUT>            Output file (defaults to stdout)\n",
     "      --tabs                       Indent with one tab per level instead of spaces\n",
     "      --indent-size <INDENT_SIZE>  Spaces per indentation level [default: 2]\n",
     "      --keep-ids                   Put the element's actual id in `id!(...)` instead of",
     " an empty string\n",
     "  -h, --help                       Print help\n",
     "  -V, --version                    Print version\n"]

/-- The fault that the system reports. -/
def faultOf : IO.Error → IoFault
  | .noFileOrDirectory _ _ _ => .notFound
  | .inappropriateType _ code details => .system details code.toNat
  | .permissionDenied _ code details => .system details code.toNat
  | fault => .other (toString fault)

/-- All bytes of a stream. -/
partial def readAll (stream : IO.FS.Stream) (read : ByteArray) : IO ByteArray := do
  let chunk ← stream.read 65536
  if chunk.isEmpty then return read
  readAll stream (read ++ chunk)

/-- The bytes of the input that the options choose. -/
def fetchInput (options : Options) : IO (Except IoFault ByteArray) := do
  try
    match options.input with
    | none => return .ok (← readAll (← IO.getStdin) ByteArray.empty)
    | some path => return .ok (← IO.FS.readBinFile path)
  catch fault => return .error (faultOf fault)

/-- Writes the code to where it goes. -/
def deliver : Delivery → IO (Option IoFault)
  | .print code => do
    try
      (← IO.getStdout).putStr (code ++ "\n")
      return none
    catch fault => return some (faultOf fault)
  | .save path code => do
    try
      IO.FS.writeBinFile path code.toUTF8
      return none
    catch fault => return some (faultOf fault)

/-- Writes the entries of the log that are shown. -/
def report (verbosity : Log.Verbosity) (entries : List Log.Entry) : IO Unit :=
  (Log.visible verbosity entries).forM fun entry => IO.eprintln entry.line

/-- Converts as the options say. -/
def perform (options : Options) (verbosity : Log.Verbosity) : IO UInt32 := do
  match convertInput options (← fetchInput options) with
  | .error stop =>
    report verbosity stop.log
    if stop.failure?.isNone then IO.eprintln Code.CodeError.tooLong.message
    return stop.exitCode.toUInt32
  | .ok conversion =>
    report verbosity (conversion.notices.map Notice.entry)
    match ← deliver (deliveryOf options conversion.code) with
    | none => return 0
    | some fault =>
      report verbosity [(Failure.io fault).entry]
      return 1

end ViewCode.CommandLine

open ViewCode ViewCode.CommandLine in
/-- Runs the program. -/
def main (arguments : List String) : IO UInt32 := do
  let chosen := (← IO.getEnv "RUST_LOG").bind Log.Verbosity.ofString?
  match Options.parse arguments with
  | none =>
    IO.eprintln "error: wrong arguments\n\nUsage: html2seed [OPTIONS] [INPUT]"
    return 2
  | some .version =>
    IO.print versionText
    return 0
  | some .help =>
    IO.print helpText
    return 0
  | some (.convert options) => perform options (chosen.getD Log.Verbosity.standard)
