import ViewCode.Settings
import ViewCode.Text.Blank

/-!
# Command-line arguments

Arguments are read from left to right. An option stands once at most, and the first fault ends the
reading; a request for the version or for help is answered as soon as it is met.
-/

namespace ViewCode.CommandLine

open ViewCode.Text

/-- What the user asks of a conversion. -/
structure Options where
  /-- The file with the markup; the standard input if absent. -/
  input : Option String := none
  /-- The file for the code; the standard output if absent. -/
  output : Option String := none
  /-- Whether to indent by tabs. -/
  tabs : Bool := false
  /-- The number of spaces to a level, if given. -/
  indentSize : Option UInt64 := none
  /-- Whether to write the values of `id` attributes. -/
  keepIds : Bool := false
  deriving DecidableEq, Repr

/-- What the user asks for. -/
inductive Command where
  /-- A conversion. -/
  | convert (options : Options)
  /-- The version of the program. -/
  | version
  /-- An explanation of the arguments. -/
  | help
  deriving DecidableEq, Repr

/-- The options that there are. -/
inductive OptionName where
  /-- `--output`, `-o` -/
  | output
  /-- `--tabs` -/
  | tabs
  /-- `--indent-size` -/
  | indentSize
  /-- `--keep-ids` -/
  | keepIds
  /-- `--version`, `-V` -/
  | version
  /-- `--help`, `-h` -/
  | help
  deriving DecidableEq, Repr

/-- The option with the given long name. -/
def OptionName.ofLong? (name : String) : Option OptionName :=
  match name with
  | "output" => some output
  | "tabs" => some tabs
  | "indent-size" => some indentSize
  | "keep-ids" => some keepIds
  | "version" => some version
  | "help" => some help
  | _ => none

/-- An argument by its form. -/
inductive Argument where
  /-- Text that is not an option, a lone hyphen included. -/
  | plain (text : String)
  /-- Two hyphens, after which nothing is an option. -/
  | endOfOptions
  /-- An option, and the value attached to it. -/
  | option (name : OptionName) (attached : Option String)
  /-- An option that there is not. -/
  | unknown
  deriving DecidableEq, Repr

namespace Argument

/-- An option by its long name, with a value after an equals sign if there is one. -/
def ofLong (body : List Char) : Argument :=
  let parts := match splitFirst? (· == '=') body with
    | some (name, value) => (name, some (String.ofList value))
    | none => (body, none)
  match OptionName.ofLong? (String.ofList parts.1) with
  | some name => .option name parts.2
  | none => .unknown

/-- The value attached to a short option; an equals sign before it does not count. -/
def attachedValue : List Char → Option String
  | [] => none
  | '=' :: value => some (String.ofList value)
  | value => some (String.ofList value)

/-- An option by its letter, with what is attached to it. -/
def ofShort (letter : Char) (body : List Char) : Argument :=
  match letter with
  | 'o' => .option .output (attachedValue body)
  | 'V' => .option .version none
  | 'h' => .option .help none
  | _ => .unknown

/-- The form of an argument. -/
def ofString (argument : String) : Argument :=
  match argument.toList with
  | ['-', '-'] => .endOfOptions
  | '-' :: '-' :: body => ofLong body
  | '-' :: letter :: body => ofShort letter body
  | _ => .plain argument

end Argument

/-- A number that fits a machine word, in decimal digits after an optional plus sign. -/
def wordOfString? (text : String) : Option UInt64 :=
  let digits : List Char := match text.toList with
    | '+' :: digits => digits
    | digits => digits
  let value : Nat := digits.foldl (fun value c => value * 10 + (c.toNat - '0'.toNat)) 0
  if digits ≠ [] ∧ digits.all Char.isDigit ∧ value < UInt64.size then some (UInt64.ofNat value)
  else none

namespace Options

/-- Adds the input file. It must have a name, and there is only one. -/
def withInput (options : Options) (path : String) : Option Options :=
  if path ≠ "" ∧ options.input = none then some { options with input := some path } else none

/-- Adds the output file. It must have a name, and there is only one. -/
def withOutput (options : Options) (path : String) : Option Options :=
  if path ≠ "" ∧ options.output = none then some { options with output := some path } else none

/-- Adds the number of spaces to a level, once. -/
def withIndentSize (options : Options) (text : String) : Option Options :=
  if options.indentSize = none then
    (wordOfString? text).map fun size => { options with indentSize := some size }
  else none

/-- Asks for tabs, once. -/
def withTabs (options : Options) : Option Options :=
  if options.tabs then none else some { options with tabs := true }

/-- Asks for the values of ids, once. -/
def withKeepIds (options : Options) : Option Options :=
  if options.keepIds then none else some { options with keepIds := true }

/-- Reads arguments none of which is an option. -/
def parsePlain (options : Options) : List String → Option Command
  | [] => some (.convert options)
  | path :: rest => do parsePlain (← options.withInput path) rest

/-- The value of an option, attached or in the next argument, and the arguments after it. -/
def value? (attached : Option String) (rest : List String) : Option (String × List String) :=
  match attached, rest with
  | some value, rest => some (value, rest)
  | none, next :: rest =>
    match Argument.ofString next with
    | .plain value => some (value, rest)
    | _ => none
  | none, [] => none

/-- An option's value leaves no more arguments than there were. -/
theorem length_value?_le {attached : Option String} {rest left : List String} {value : String}
    (h : value? attached rest = some (value, left)) : left.length ≤ rest.length := by
  unfold value? at h
  split at h
  · cases h
    exact Nat.le_refl _
  · split at h
    · cases h
      exact Nat.le_succ _
    · simp at h
  · simp at h

/-- Reads the arguments after those that gave the options so far. -/
def parseOn (options : Options) : List String → Option Command
  | [] => some (.convert options)
  | argument :: rest =>
    match Argument.ofString argument with
    | .plain path => do parseOn (← options.withInput path) rest
    | .endOfOptions => parsePlain options rest
    | .unknown => none
    | .option .version none => some .version
    | .option .help none => some .help
    | .option .tabs none => do parseOn (← options.withTabs) rest
    | .option .keepIds none => do parseOn (← options.withKeepIds) rest
    | .option .output attached =>
      match h : value? attached rest with
      | none => none
      | some (value, left) =>
        have := length_value?_le h
        do parseOn (← options.withOutput value) left
    | .option .indentSize attached =>
      match h : value? attached rest with
      | none => none
      | some (value, left) =>
        have := length_value?_le h
        do parseOn (← options.withIndentSize value) left
    | .option _ (some _) => none
termination_by arguments => arguments.length

/-- What the arguments ask for; nothing if they are wrong. -/
def parse (arguments : List String) : Option Command :=
  parseOn {} arguments

/-- The indentation asked for. With tabs the number of spaces does not matter. -/
def indent (options : Options) : Except IndentError Indent :=
  Indent.ofEditor (!options.tabs) (options.indentSize.getD 2)

/-- What becomes of the values of `id` attributes. -/
def ids (options : Options) : IdPolicy :=
  if options.keepIds then .keep else .blank

end Options

end ViewCode.CommandLine
