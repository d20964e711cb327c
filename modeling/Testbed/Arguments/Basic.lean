import Testbed.Config.Document
import Testbed.Text.Whole

/-!
# Arguments of a command line

Options are long, and take their value after an equals sign or as the next argument; flags take
none. Each is given at most once. There is nothing else: every other argument is unknown.

A value that comes as an argument of its own is looked at only when the next option, or the end,
shows that nothing more belongs to it. So an argument that is unknown goes before what is wrong
with a value just before it.

## Main definitions

* `Arguments` — what a command line gives
* `Arguments.Error` — what is wrong with one that gives nothing
* `Arguments.parse` — the arguments of a command line
* `Arguments.resolve` — the settings and the seed that they come to
-/

namespace Testbed

/-- What a command line gives. -/
structure Arguments where
  config : Option String := none
  seed : Option Seed := none
  verbose : Bool := false
  noColor : Bool := false
  dryRun : Bool := false
  width : Option Nat := none
  noReuse : Bool := false
  filter : Option String := none
  deriving Repr

namespace Arguments

/-! ### Options -/

/-- The options that take a value. -/
inductive Setting where
  | config
  | seed
  | width
  | filter
  deriving DecidableEq, Repr

/-- The options that take none. -/
inductive Flag where
  | verbose
  | noColor
  | dryRun
  | noReuse
  | help
  deriving DecidableEq, Repr

/-- An option of either kind. -/
inductive Key where
  | setting (setting : Setting)
  | flag (flag : Flag)
  deriving DecidableEq, Repr

/-- The option of a long name. -/
def long? (name : String) : Option Key :=
  [("config", .setting .config), ("seed", .setting .seed), ("width", .setting .width),
   ("filter", .setting .filter), ("verbose", .flag .verbose), ("no-color", .flag .noColor),
   ("dry-run", .flag .dryRun), ("no-reuse", .flag .noReuse), ("help", .flag .help)].lookup name

/-- The flag of a letter. -/
def short? (letter : Char) : Option Flag :=
  if letter = 'v' then some .verbose else if letter = 'h' then some .help else none

/-! ### Errors -/

/-- What is wrong with a command line, or why else it gives nothing. -/
inductive Error where
  /-- An option has no value, or an empty one where there must be something. -/
  | invalidValue
  | unknownArgument
  /-- A value is not what the option takes. -/
  | valueValidation (cause : String)
  /-- An option is given again. -/
  | argumentConflict
  /-- A flag is given a value. -/
  | tooManyValues
  /-- Help is asked for. -/
  | displayHelp
  deriving DecidableEq, Repr

/-- The name of an error. -/
def Error.name : Error → String
  | .invalidValue => "InvalidValue"
  | .unknownArgument => "UnknownArgument"
  | .valueValidation _ => "ValueValidation"
  | .argumentConflict => "ArgumentConflict"
  | .tooManyValues => "TooManyValues"
  | .displayHelp => "DisplayHelp"

/-- What is wrong with the value of an option. -/
def Error.cause? : Error → Option String
  | .valueValidation cause => some cause
  | _ => none

/-! ### Reading -/

/-- The state of reading. -/
structure Reading where
  arguments : Arguments := {}
  given : List Key := []
  /-- An option whose value has not been looked at, and the value if there is one. -/
  pending : Option (Setting × Option String) := none
  /-- Options are over. -/
  onlyValues : Bool := false

/-- The arguments with the value of an option. -/
def set (arguments : Arguments) (setting : Setting) (value : String) : Except Error Arguments :=
  match setting with
  | .config =>
    if value.isEmpty then .error .invalidValue
    else .ok { arguments with config := some value }
  | .seed =>
    match Seed.ofText value with
    | .error fault => .error (.valueValidation fault.message)
    | .ok seed => .ok { arguments with seed := some seed }
  | .width =>
    match Whole.parse value with
    | .error e => .error (.valueValidation e.message)
    | .ok width => .ok { arguments with width := some width }
  | .filter => .ok { arguments with filter := some value }

/-- The arguments with a flag. -/
def raise (arguments : Arguments) : Flag → Except Error Arguments
  | .verbose => .ok { arguments with verbose := true }
  | .noColor => .ok { arguments with noColor := true }
  | .dryRun => .ok { arguments with dryRun := true }
  | .noReuse => .ok { arguments with noReuse := true }
  | .help => .error .displayHelp

namespace Reading

/-- Takes an option that may be given once. -/
def take (r : Reading) (option : Key) : Except Error Reading :=
  if option ∈ r.given then .error .argumentConflict
  else .ok { r with given := option :: r.given }

/-- Looks at the value of an option. -/
def settle (r : Reading) (setting : Setting) (value : Option String) : Except Error Reading :=
  match value with
  | none => .error .invalidValue
  | some value => do
    let r ← r.take (.setting setting)
    let arguments ← set r.arguments setting value
    .ok { r with arguments }

/-- Looks at the value that has not been looked at. -/
def settlePending (r : Reading) : Except Error Reading :=
  match r.pending with
  | none => .ok r
  | some (setting, value) => { r with pending := none }.settle setting value

/-- Takes a flag. Asking for help ends the reading, however often. -/
def takeFlag (r : Reading) (flag : Flag) : Except Error Reading := do
  let r ← r.settlePending
  let r ← if flag = .help then .ok r else r.take (.flag flag)
  let arguments ← raise r.arguments flag
  .ok { r with arguments }

/-- Takes flags that are given as letters. -/
def takeLetters (r : Reading) : List Char → Except Error Reading
  | [] => .ok r
  | letter :: rest =>
    match short? letter with
    | none => .error .unknownArgument
    | some flag => do
      let r ← r.takeFlag flag
      r.takeLetters rest

/-- Takes a long option, with what is after its equals sign. -/
def takeLong (r : Reading) (name : String) (value : Option String) : Except Error Reading :=
  match long? name, value with
  | none, _ => .error .unknownArgument
  | some (.setting setting), some value => do
    let r ← r.settlePending
    r.settle setting (some value)
  | some (.setting setting), none => do
    let r ← r.settlePending
    .ok { r with pending := some (setting, none) }
  | some (.flag _), some _ => .error .tooManyValues
  | some (.flag flag), none => r.takeFlag flag

/-- Takes an argument that is no option: the value of the option before it, or nothing known. -/
def takeValue (r : Reading) (value : String) : Except Error Reading :=
  match r.pending with
  | some (setting, none) =>
    if r.onlyValues then .error .unknownArgument
    else .ok { r with pending := some (setting, some value) }
  | _ => .error .unknownArgument

/-- Takes one argument. -/
def takeArgument (r : Reading) (argument : String) : Except Error Reading :=
  if r.onlyValues then r.takeValue argument
  else
    match argument.toList with
    | ['-', '-'] => .ok { r with onlyValues := true }
    | '-' :: '-' :: chars =>
      let name := chars.takeWhile (· ≠ '=')
      let value := match chars.dropWhile (· ≠ '=') with
        | [] => none
        | _ :: value => some (String.ofList value)
      r.takeLong (String.ofList name) value
    | '-' :: letter :: letters => r.takeLetters (letter :: letters)
    | _ => r.takeValue argument

end Reading

/-- The arguments of a command line, the first of which is the name of the program. -/
def parse (commandLine : List String) : Except Error Arguments := do
  let r ← commandLine.tail.foldlM (fun r argument => Reading.takeArgument r argument) {}
  let r ← r.settlePending
  .ok r.arguments

/-! ### Settings -/

/-- The settings of a command line over other ones. -/
def override (arguments : Arguments) (config : Config) : Config :=
  { config with
    verbose := config.verbose || arguments.verbose
    useColors := config.useColors && !arguments.noColor
    dryRun := config.dryRun || arguments.dryRun
    width := arguments.width.getD config.width }

/-- The defaults, the file of settings if one is named, and the command line, in this order; and
the seed, or the one that `drawn` gives if the command line gives none. -/
def resolve (read : String → Option ByteArray) (drawn : Seed) (arguments : Arguments) :
    Except Fault (Config × Seed) :=
  let config : Except Fault Config :=
    match arguments.config with
    | none => .ok {}
    | some path => Config.load read path
  config.map fun config => (arguments.override config, arguments.seed.getD drawn)

end Arguments

end Testbed
