import RestModel.Policy.Basic
import RestModel.Text.Pieces

/-! # Arguments

A command line names a command and gives values to parameters by options. An option
has a long name after two dashes, and some have a short one after one dash. -/

namespace RestModel.CommandLine

/-! ## Commands -/

structure SourceOptions where
  declarations : List String
  wiring : List String
  /-- The name before the colon of a directive. -/
  vocabulary : Option String
  configuration : Option String
  deriving Repr, DecidableEq

structure PolicyOptions where
  operationSet : Option OperationSetPolicy
  arrayOfPrimitives : Option PrimitiveArrayPolicy
  /-- Whether types of components are not to be shared. -/
  separatesComponents : Bool
  deriving Repr, DecidableEq

inductive Task where
  | generate (description output : Option String) (failsOnIssues : Bool)
  | lint (failsOnError showsErrorsOnly : Bool)
  | inspect
  deriving Repr, DecidableEq

structure Command where
  sources : SourceOptions
  policy : PolicyOptions
  task : Task
  deriving Repr, DecidableEq

/-! ## Options -/

inductive Parameter where
  | level
  | help
  | version
  | description
  | output
  | declarations
  | wiring
  | vocabulary
  | configuration
  | operationSet
  | arrayOfPrimitives
  | separatesComponents
  | failsOnIssues
  | failsOnError
  | showsErrorsOnly
  deriving Repr, DecidableEq

inductive ValueForm where
  | flag
  | text
  | path
  /-- Names of files and folders in several arguments or with commas between them. The
  option may stand several times. -/
  | paths
  | choice (names : List String)
  deriving Repr, DecidableEq

structure Flag where
  parameter : Parameter
  long : String
  short : Option Char
  form : ValueForm
  deriving Repr, DecidableEq

def commonFlags : List Flag :=
  [⟨.level, "log-level", none, .text⟩, ⟨.help, "help", some 'h', .flag⟩,
    ⟨.version, "version", some 'V', .flag⟩]

def taskFlags : List Flag :=
  [⟨.level, "log-level", none, .text⟩, ⟨.help, "help", some 'h', .flag⟩,
    ⟨.declarations, "resources", some 'r', .paths⟩, ⟨.wiring, "wiring", some 'w', .paths⟩,
    ⟨.vocabulary, "namespace", none, .text⟩, ⟨.configuration, "config", some 'c', .path⟩,
    ⟨.operationSet, "operation-set", none,
      .choice (([.firstWins, .lastWins, .reject] : List OperationSetPolicy).map (·.name))⟩,
    ⟨.arrayOfPrimitives, "array-of-primitives", none,
      .choice (([.exclude, .allow] : List PrimitiveArrayPolicy).map (·.name))⟩,
    ⟨.separatesComponents, "no-alias", none, .flag⟩]

def flagsOf? : (task : String) → Option (List Flag)
  | "generate" =>
      some [⟨.description, "spec", some 's', .path⟩, ⟨.output, "output", some 'o', .path⟩,
        ⟨.failsOnIssues, "fail-on-issues", none, .flag⟩]
  | "lint" =>
      some [⟨.failsOnError, "fail-on-error", none, .flag⟩,
        ⟨.showsErrorsOnly, "errors-only", none, .flag⟩]
  | "inspect" => some []
  | _ => none

/-! ## Reading -/

inductive UsageError where
  | unknownArgument (argument : String)
  | unknownTask (name : String)
  | missingTask
  | missingValue (option : String)
  | unexpectedValue (option : String)
  | repeated (option : String)
  | invalidValue (option value : String)
  deriving Repr, DecidableEq

def UsageError.message : UsageError → String
  | .unknownArgument argument => "unexpected argument '" ++ argument ++ "' found"
  | .unknownTask name => "unrecognized subcommand '" ++ name ++ "'"
  | .missingTask => "a subcommand is required but one was not provided"
  | .missingValue option => "a value is required for '--" ++ option ++ "' but none was supplied"
  | .unexpectedValue option => "unexpected value for '--" ++ option ++ "' found"
  | .repeated option => "the argument '--" ++ option ++ "' cannot be used multiple times"
  | .invalidValue option value => "invalid value '" ++ value ++ "' for '--" ++ option ++ "'"

/-- What keeps a command line from naming a command. -/
inductive Stop where
  | error (error : UsageError)
  | help
  | version
  deriving Repr, DecidableEq

abbrev Values := List (Parameter × List String)

def valuesOf (flag : Flag) (given : List String) : Except UsageError (List String) := do
  match flag.form with
  | .flag => if given.isEmpty then return [] else throw (.unexpectedValue flag.long)
  | .text => if given.isEmpty then throw (.missingValue flag.long) else return given
  | .path =>
      if given.isEmpty || given.any String.isEmpty then throw (.missingValue flag.long)
      else return given
  | .paths =>
      let values := given.flatMap (Text.pieces ',')
      if values.isEmpty || values.any String.isEmpty then throw (.missingValue flag.long)
      else return values
  | .choice names =>
      match given.find? fun value => !names.contains value with
      | some value => throw (.invalidValue flag.long value)
      | none => if given.isEmpty then throw (.missingValue flag.long) else return given

/-- Add what an option gives. Only lists of paths can be given more than once. -/
def addValues (flag : Flag) (given : List String) (values : Values) : Except Stop Values := do
  let isRepeated := flag.form ≠ .paths && values.any (·.1 = flag.parameter)
  match flag.parameter, valuesOf flag given with
  | _, .error error => throw (.error error)
  | .help, _ => throw .help
  | .version, _ => throw .version
  | parameter, .ok added =>
      if isRepeated then
        throw (.error (.repeated flag.long))
      else
        return values ++ [(parameter, added)]

/-- An option that may take further arguments as its values, with those taken so far. -/
abbrev Pending := Option (Flag × List String)

def settle (pending : Pending) (values : Values) : Except Stop Values :=
  match pending with
  | none => .ok values
  | some (flag, given) => addValues flag given values

inductive ArgumentForm where
  /-- Two dashes: only operands follow. -/
  | escape
  | option (flag : Option Flag) (attached : Option String)
  | operand

def formOf (flags : List Flag) (argument : String) : ArgumentForm :=
  match argument.toList with
  | ['-', '-'] => .escape
  | '-' :: '-' :: name =>
      let long := String.ofList (name.takeWhile (· != '='))
      let attached := match name.dropWhile (· != '=') with
        | [] => none
        | _ :: value => some (String.ofList value)
      .option (flags.find? fun flag => flag.long == long) attached
  | '-' :: short :: attached =>
      let flag := flags.find? fun flag => flag.short == some short
      match attached with
      | [] => .option flag none
      | '=' :: value => .option flag (some (String.ofList value))
      | value =>
          if flag.any (·.form = .flag) then .option flag none
          else .option flag (some (String.ofList value))
  | _ => .operand

/-- Read options up to the first operand that is no value of one. The result holds that
operand with what follows it. -/
def readOptions (flags : List Flag) : (arguments : List String) → Pending → Values →
    Except Stop (Values × List String)
  | [], pending, values => do return (← settle pending values, [])
  | argument :: rest, pending, values =>
      match formOf flags argument, pending with
      | .escape, _ => do
          match rest with
          | [] => return (← settle pending values, [])
          | operand :: _ => throw (.error (.unknownArgument operand))
      | .option none _, _ => do
          let _ ← settle pending values
          throw (.error (.unknownArgument argument))
      | .option (some flag) attached, _ => do
          let values ← settle pending values
          match attached with
          | some value => readOptions flags rest none (← addValues flag [value] values)
          | none =>
              if flag.form = .flag then
                readOptions flags rest none (← addValues flag [] values)
              else
                readOptions flags rest (some (flag, [])) values
      | .operand, some (flag, given) =>
          if flag.form = .paths || given.isEmpty then
            readOptions flags rest (some (flag, given ++ [argument])) values
          else do
            return (← settle pending values, argument :: rest)
      | .operand, none => .ok (values, argument :: rest)

namespace Values

def all (parameter : Parameter) (values : Values) : List String :=
  values.flatMap fun (given, texts) => if given = parameter then texts else []

def first? (parameter : Parameter) (values : Values) : Option String :=
  (values.all parameter).head?

def isSet (parameter : Parameter) (values : Values) : Bool :=
  List.any values fun (given, _) => given = parameter

def command (task : String) (values : Values) : Command where
  sources :=
    ⟨values.all .declarations, values.all .wiring, values.first? .vocabulary,
      values.first? .configuration⟩
  policy :=
    ⟨(values.first? .operationSet).bind OperationSetPolicy.ofName?,
      (values.first? .arrayOfPrimitives).bind PrimitiveArrayPolicy.ofName?,
      values.isSet .separatesComponents⟩
  task := match task with
    | "generate" =>
        .generate (values.first? .description) (values.first? .output)
          (values.isSet .failsOnIssues)
    | "lint" => .lint (values.isSet .failsOnError) (values.isSet .showsErrorsOnly)
    | _ => .inspect

end Values

def Command.ofArguments (arguments : List String) : Except Stop Command := do
  let (_, rest) ← readOptions commonFlags arguments none []
  match rest with
  | [] => throw (.error .missingTask)
  | "help" :: _ => throw .help
  | task :: rest =>
      let some flags := flagsOf? task | throw (.error (.unknownTask task))
      let (values, operands) ← readOptions (taskFlags ++ flags) rest none []
      match operands with
      | [] => return values.command task
      | operand :: _ => throw (.error (.unknownArgument operand))

end RestModel.CommandLine
