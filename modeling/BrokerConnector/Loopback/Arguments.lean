/-!
# The arguments of the command

An option is given by its long name, with its value behind an equals sign or as the next argument,
or by its letter, with the value right behind it, behind an equals sign or as the next argument. A
value of its own argument does not begin with a dash, unless it is a dash. Each option is given at
most once.

The arguments are looked at in order. A value of its own argument is looked at when the next option
comes or the arguments end, so an argument that has no place is told in front of it.
-/

namespace BrokerConnector.Loopback

/-- Why arguments do not ask for a loopback. -/
inductive UsageFault where
  /-- They ask for help. -/
  | help
  | unknownArgument
  | missingArgument
  /-- An option has no value, or an empty one. -/
  | noValue
  /-- A value is no number. -/
  | badValue
  | repeatedArgument
  /-- An option that takes no value has one. -/
  | unexpectedValue
  deriving DecidableEq, Inhabited

/-- What the arguments ask for. -/
structure Arguments where
  /-- The path of the configuration file. -/
  config : String
  /-- The number of records, in place of that of the file. -/
  count : Option Nat
  deriving DecidableEq, Inhabited

namespace Arguments

/-- The options that take a value. -/
inductive Flag where
  | config
  | count
  deriving DecidableEq, Inhabited

/-- An option with its value of its own argument, once that came. -/
structure Waiting where
  flag : Flag
  value : Option String := none
  deriving DecidableEq, Inhabited

/-- The values that were given so far. -/
structure Given where
  config : Option String := none
  count : Option Nat := none
  /-- The option whose value was not looked at yet. -/
  waiting : Option Waiting := none
  deriving DecidableEq, Inhabited

/-- The number below `2^64` that a value spells. A plus sign may stand in front. -/
def number? (value : String) : Option Nat :=
  let digits :=
    match value.toList with
    | '+' :: rest => rest
    | chars => chars
  if digits.isEmpty || !digits.all Char.isDigit then none
  else
    let n := digits.foldl (fun n c => 10 * n + (c.toNat - '0'.toNat)) 0
    if n < UInt64.size then some n else none

/-- Takes in the value of an option. -/
def Given.set (given : Given) (flag : Flag) (value : String) : Except UsageFault Given :=
  match flag with
  | .config =>
    if given.config.isSome then .error .repeatedArgument
    else if value.isEmpty then .error .noValue
    else .ok { given with config := some value }
  | .count =>
    if given.count.isSome then .error .repeatedArgument
    else
      match number? value with
      | some n => .ok { given with count := some n }
      | none => .error .badValue

/-- Takes in the option that waits. It has to have its value by now. -/
def Given.settle (given : Given) : Except UsageFault Given :=
  match given.waiting with
  | none => .ok given
  | some ⟨_, none⟩ => .error .noValue
  | some ⟨flag, some value⟩ => { given with waiting := none }.set flag value

/-- What an argument is. -/
inductive Kind where
  /-- An option with its value, if the argument holds it. -/
  | option (flag : Flag) (value : Option String)
  | help
  /-- Help was asked for with a value. -/
  | helpWithValue
  /-- What follows is no option. -/
  | separator
  /-- An argument that begins with a dash and is none of the above. -/
  | unknown
  /-- An argument that does not begin with a dash, or a dash alone. -/
  | plain
  deriving DecidableEq, Inhabited

/-- What an argument by a long name is. -/
def longKind (body : List Char) : Kind :=
  let name := String.ofList (body.takeWhile (· ≠ '='))
  let value := ((body.dropWhile (· ≠ '=')).tail?).map String.ofList
  match name with
  | "config" => .option .config value
  | "count" => .option .count value
  | "help" => if value.isSome then .helpWithValue else .help
  | _ => .unknown

/-- What an argument by a letter is. -/
def shortKind (letter : Char) (rest : List Char) : Kind :=
  let value :=
    match rest with
    | [] => none
    | '=' :: value => some (String.ofList value)
    | value => some (String.ofList value)
  match letter with
  | 'c' => .option .config value
  | 'n' => .option .count value
  | 'h' => .help
  | _ => .unknown

/-- What an argument is. -/
def kindOf (argument : String) : Kind :=
  match argument.toList with
  | ['-', '-'] => .separator
  | '-' :: '-' :: body => longKind body
  | '-' :: letter :: rest => shortKind letter rest
  | _ => .plain

/-- Takes in arguments in order. -/
def collect (given : Given) : List String → Except UsageFault Given
  | [] => given.settle
  | argument :: rest =>
    match kindOf argument with
    | .option flag (some value) => do
      let given ← given.settle
      collect (← given.set flag value) rest
    | .option flag none => do
      let given ← given.settle
      collect { given with waiting := some { flag := flag } } rest
    | .help => do
      let _ ← given.settle
      .error .help
    | .helpWithValue => .error .unexpectedValue
    | .separator => if rest.isEmpty then given.settle else .error .unknownArgument
    | .unknown => .error .unknownArgument
    | .plain =>
      match given.waiting with
      | some ⟨flag, none⟩ => collect { given with waiting := some ⟨flag, some argument⟩ } rest
      | _ => .error .unknownArgument

/-- What the arguments ask for. The configuration file has to be given. -/
def parse (arguments : List String) : Except UsageFault Arguments := do
  let given ← collect {} arguments
  match given.config with
  | none => .error .missingArgument
  | some config => .ok ⟨config, given.count⟩

end Arguments

end BrokerConnector.Loopback
