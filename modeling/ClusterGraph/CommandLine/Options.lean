/-!
# Command line options

Arguments are read from left to right, and the first that asks for help or for the version, or
that is wrong, decides. An option with a value takes it from behind an equals sign, from the rest
of a short form, or from the next argument, which must not look like an option. No option may be
given twice, no value may be empty, and there are no other arguments.
-/

namespace ClusterGraph.CommandLine

/-- What a run is asked to do. -/
structure Options where
  /-- The file with the document; standard input when absent. -/
  input : Option String
  /-- The file for the graph; standard output when absent. -/
  output : Option String
  /-- The file with the settings; the default ones when absent. -/
  settings : Option String
  /-- Leave layout attributes undecoded, whatever the settings say. -/
  noLayout : Bool
  /-- Write the graph on one line. -/
  compact : Bool
deriving DecidableEq

/-- What the arguments ask for. -/
inductive Request where
  | run (options : Options)
  | help
  | version
  /-- The arguments are wrong. -/
  | refuse
deriving DecidableEq

/-- The options that take a value. -/
inductive ValueOption where
  | input
  | output
  | settings
deriving DecidableEq

/-- The options without a value. -/
inductive Flag where
  | noLayout
  | compact
  | help
  | version
deriving DecidableEq

/-- An option by its name. -/
inductive OptionName where
  | value (option : ValueOption)
  | flag (flag : Flag)
deriving DecidableEq

namespace OptionName

/-- The option with this long name. -/
def ofLong? (name : String) : Option OptionName :=
  match name with
  | "input" => some (value .input)
  | "output" => some (value .output)
  | "configFile" => some (value .settings)
  | "no-layout" => some (flag .noLayout)
  | "compact" => some (flag .compact)
  | "help" => some (flag .help)
  | "version" => some (flag .version)
  | _ => none

/-- The option with this short name. -/
def ofShort? (name : Char) : Option OptionName :=
  match name with
  | 'i' => some (value .input)
  | 'o' => some (value .output)
  | 'c' => some (value .settings)
  | 'h' => some (flag .help)
  | 'V' => some (flag .version)
  | _ => none

end OptionName

/-- An argument by its form. -/
inductive Argument where
  /-- Two hyphens alone: no options follow. -/
  | endOfOptions
  /-- An option, with the value that is attached to it. -/
  | option (name : OptionName) (attached : Option String)
  /-- Anything else. -/
  | other
deriving DecidableEq

namespace Argument

/-- A long option, perhaps with a value behind an equals sign. -/
def ofLong (cs : List Char) : Argument :=
  let name := String.ofList (cs.takeWhile (· ≠ '='))
  let attached := match cs.dropWhile (· ≠ '=') with
    | [] => none
    | _ :: value => some (String.ofList value)
  match OptionName.ofLong? name with
  | some name => option name attached
  | none => other

/-- A short option, perhaps with a value in the rest of the argument. -/
def ofShort (name : Char) (rest : List Char) : Argument :=
  let attached := match rest with
    | [] => none
    | '=' :: value => some (String.ofList value)
    | value => some (String.ofList value)
  match OptionName.ofShort? name with
  | some (.flag flag) => option (.flag flag) none
  | some name => option name attached
  | none => other

/-- The form of an argument. -/
def ofString (arg : String) : Argument :=
  match arg.toList with
  | ['-', '-'] => endOfOptions
  | '-' :: '-' :: rest => ofLong rest
  | '-' :: name :: rest => ofShort name rest
  | _ => other

/-- Whether an argument can be the value of the option before it. A hyphen alone can. -/
def isValue (arg : String) : Bool :=
  match arg.toList with
  | '-' :: _ :: _ => false
  | _ => true

end Argument

namespace Options

/-- Nothing is asked for yet. -/
def none : Options := ⟨.none, .none, .none, false, false⟩

/-- Sets the value of an option, which must not be set yet, to a text that is not empty. -/
def setValue (options : Options) (option : ValueOption) (value : String) : Option Options :=
  if value.isEmpty then .none
  else match option with
    | .input => if options.input.isSome then .none else some { options with input := value }
    | .output => if options.output.isSome then .none else some { options with output := value }
    | .settings =>
      if options.settings.isSome then .none else some { options with settings := value }

end Options

/-- Reads arguments on top of the options that are set. -/
def Request.ofArguments (options : Options) : List String → Request
  | [] => .run options
  | arg :: rest =>
    match Argument.ofString arg with
    | .endOfOptions => if rest.isEmpty then .run options else .refuse
    | .option (.flag flag) attached =>
      if attached.isSome then .refuse
      else match flag with
        | .help => .help
        | .version => .version
        | .noLayout =>
          if options.noLayout then .refuse else ofArguments { options with noLayout := true } rest
        | .compact =>
          if options.compact then .refuse else ofArguments { options with compact := true } rest
    | .option (.value option) (some value) =>
      match options.setValue option value with
      | some options => ofArguments options rest
      | none => .refuse
    | .option (.value option) none =>
      match rest with
      | [] => .refuse
      | value :: rest =>
        if Argument.isValue value then
          match options.setValue option value with
          | some options => ofArguments options rest
          | none => .refuse
        else .refuse
    | .other => .refuse

/-- What a list of arguments asks for. -/
def Request.ofList (args : List String) : Request := ofArguments Options.none args

end ClusterGraph.CommandLine
