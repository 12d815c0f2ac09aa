import GaleraControl.Settings

/-!
# The command line

The options of the controller.  An option takes one value, attached with `=` or
as the next argument; nothing that looks like an option is taken for a value.

An option whose value may still follow is pending.  It is settled when the next
known option begins or the arguments end, and only then is its value checked.
So an unknown argument is reported even if the value before it is bad.
-/

namespace GaleraControl.CommandLine

/-- Why arguments are refused. -/
inductive UsageError where
  /-- There is no such option, or an argument that belongs to none. -/
  | unknownArgument
  /-- The value of an option is not a number of 64 bits. -/
  | notANumber
  | missingValue
  | repeatedOption
  /-- A value is attached to an option that takes none. -/
  | unneededValue
  | helpRequested
deriving DecidableEq, Repr

/-- The explanation of a refusal. -/
def UsageError.message : UsageError → String
  | .unknownArgument => "unexpected argument"
  | .notANumber => "a value is not a number of 64 bits"
  | .missingValue => "a value is missing"
  | .repeatedOption => "an option cannot be used multiple times"
  | .unneededValue => "an option takes no value"
  | .helpRequested =>
      "options: --workers N, --namespace NAME, --cache-sync-timeout-secs N, "
        ++ "--backoff-base-ms N, --backoff-max-secs N, --log-json, --crd"

/-- The options that take a value. -/
inductive ValueOption where
  | workers
  | watchedNamespace
  | cacheSync
  | backoffBase
  | backoffGreatest
deriving DecidableEq, Repr

/-- The options. -/
inductive KnownOption where
  | value (option : ValueOption)
  | logJson
  | help
deriving DecidableEq, Repr

/-- The options by their names. -/
def knownOptions : List (String × KnownOption) := [
  ("workers", .value .workers),
  ("namespace", .value .watchedNamespace),
  ("cache-sync-timeout-secs", .value .cacheSync),
  ("backoff-base-ms", .value .backoffBase),
  ("backoff-max-secs", .value .backoffGreatest),
  ("log-json", .logJson),
  ("help", .help)]

/-- The option of a name. -/
def knownOption? (name : String) : Option KnownOption :=
  (knownOptions.find? (·.1 = name)).map Prod.snd

/-- The number below `2 ^ 64` that a text writes in digits, after a plus sign if there is one. -/
def number? (text : String) : Option Nat :=
  let digits := match text.toList with
    | '+' :: rest => rest
    | rest => rest
  if digits = [] ∨ !digits.all Char.isDigit then none
  else
    let value := digits.foldl (fun value c => value * 10 + (c.toNat - '0'.toNat)) 0
    if value < UInt64.size then some value else none

/-- How an argument is spelled. -/
inductive Spelling where
  /-- The mark after which nothing is an option. -/
  | endOfOptions
  /-- A long option, perhaps with a value attached. -/
  | long (name : String) (attached : Option String)
  | short (first : Char)
  | plain
deriving DecidableEq, Repr

/-- The spelling of an argument. -/
def spelling (argument : String) : Spelling :=
  match argument.toList with
  | ['-', '-'] => .endOfOptions
  | '-' :: '-' :: rest =>
      let name := String.ofList (rest.takeWhile (· ≠ '='))
      match rest.dropWhile (· ≠ '=') with
      | [] => .long name none
      | _ :: value => .long name (some (String.ofList value))
  | '-' :: first :: _ => .short first
  | _ => .plain

/-- The arguments that were read so far. -/
structure Reading where
  options : ControllerOptions := {}
  settled : List ValueOption := []
  /-- The option whose value may still follow, with its value if that was read. -/
  pending : Option (ValueOption × Option String) := none
  /-- Whether the end of the options was marked. -/
  ended : Bool := false
deriving Repr

namespace Reading

/-- Settle an option with its value. -/
def settle (reading : Reading) (option : ValueOption) (value : String) :
    Except UsageError Reading := do
  let number : Except UsageError Nat :=
    match number? value with
    | some number => .ok number
    | none => .error .notANumber
  if option ∈ reading.settled then throw .repeatedOption
  let options ← match option with
    | .workers => do pure { reading.options with workers := ← number }
    | .watchedNamespace => pure { reading.options with namespaceName := some value }
    | .cacheSync => do pure { reading.options with cacheSyncSeconds := ← number }
    | .backoffBase => do pure { reading.options with backoffBaseMilliseconds := ← number }
    | .backoffGreatest => do pure { reading.options with backoffGreatestSeconds := ← number }
  return { reading with options, settled := option :: reading.settled }

/-- Settle the pending option. -/
def resolve (reading : Reading) : Except UsageError Reading :=
  match reading.pending with
  | none => .ok reading
  | some (_, none) => .error .missingValue
  | some (option, some value) => { reading with pending := none }.settle option value

/-- Read a known option. -/
def readOption (reading : Reading) (option : KnownOption) (attached : Option String) :
    Except UsageError Reading := do
  match option, attached with
  | .value option, some value => (← reading.resolve).settle option value
  | .value option, none => return { ← reading.resolve with pending := some (option, none) }
  | .logJson, some _ | .help, some _ => throw .unneededValue
  | .help, none =>
      let _ ← reading.resolve
      throw .helpRequested
  | .logJson, none =>
      let reading ← reading.resolve
      if reading.options.logsJson then throw .repeatedOption
      return { reading with options := { reading.options with logsJson := true } }

/-- Read an argument that is no option. -/
def readPlain (reading : Reading) (argument : String) : Except UsageError Reading :=
  match reading.pending with
  | some (option, none) => .ok { reading with pending := some (option, some argument) }
  | _ => .error .unknownArgument

/-- Read an argument. -/
def read (reading : Reading) (argument : String) : Except UsageError Reading :=
  if reading.ended then .error .unknownArgument
  else
    match spelling argument with
    | .endOfOptions => .ok { reading with ended := true }
    | .long name attached =>
        match knownOption? name with
        | none => .error .unknownArgument
        | some option => reading.readOption option attached
    | .short first =>
        if first = 'h' then reading.readOption .help none else .error .unknownArgument
    | .plain => reading.readPlain argument

end Reading

/-- The options that arguments ask for. -/
def parse (arguments : List String) : Except UsageError ControllerOptions := do
  let reading ← arguments.foldlM Reading.read {}
  return (← reading.resolve).options

/-- What the program is asked to do. -/
inductive Command where
  | printDefinition
  | control (options : ControllerOptions)
deriving DecidableEq, Repr

/-- What arguments ask for; running the controller is the default. -/
def command : List String → Except UsageError Command
  | ["--crd"] => .ok .printDefinition
  | "controller" :: arguments => (parse arguments).map .control
  | arguments => (parse arguments).map .control

end GaleraControl.CommandLine
