import GuestNat.CommandLine.Invocation

/-!
# Reading the command line

A command line has two levels: the words before the subcommand and those behind it. Most options are
known on both.

- On one level an option or a flag may be given once. Given on both, the value behind the
  subcommand counts.
- An option without a value of its own takes the next word, unless that looks like an option. It is
  settled only when the next option, or the end of its level, is reached; an error about it waits as
  long, and gives way to one about a word that is no option at all.
- The words behind the subcommand are read to their end before the level before it is settled.
- An option that is not given takes its value from the environment.

Left out: words of the command line and variables of the environment that are not UTF-8. Both are
texts here, so there are none. The program takes such a name for the settings file and refuses such
a value of any other option.
-/

namespace GuestNat.CommandLine

/-- The options that take a value. -/
inductive ValueOption
  | tap
  | uplink
  | subnet
  | config
  | iptables
  | logLevel
deriving DecidableEq, Repr

namespace ValueOption

def all : List ValueOption := [tap, uplink, subnet, config, iptables, logLevel]

/-- The name behind the two dashes. -/
def name : ValueOption → String
  | tap => "tap"
  | uplink => "uplink"
  | subnet => "subnet"
  | config => "config"
  | iptables => "iptables"
  | logLevel => "log-level"

/-- The variable of the environment that stands in for the option. -/
def envName : ValueOption → String
  | tap => "TAPNAT_TAP"
  | uplink => "TAPNAT_UPLINK"
  | subnet => "TAPNAT_SUBNET"
  | config => "TAPNAT_CONFIG"
  | iptables => "TAPNAT_IPTABLES"
  | logLevel => "TAPNAT_LOG"

/-- Whether the option takes a value. A file name is never empty; any other value may be. -/
def accepts (option : ValueOption) (value : String) : Bool := option ≠ .config || !value.isEmpty

end ValueOption

/-- The options that take no value. -/
inductive Flag
  | dryRun
  | idempotent
  | noVerifyInterfaces
  | disableForwarding
deriving DecidableEq, Repr

namespace Flag

def all : List Flag := [dryRun, idempotent, noVerifyInterfaces, disableForwarding]

/-- The name behind the two dashes. -/
def name : Flag → String
  | dryRun => "dry-run"
  | idempotent => "idempotent"
  | noVerifyInterfaces => "no-verify-interfaces"
  | disableForwarding => "disable-forwarding"

end Flag

inductive Subcommand
  | up
  | down
  | status
deriving DecidableEq, Repr

namespace Subcommand

def all : List Subcommand := [up, down, status]

def name : Subcommand → String
  | up => "up"
  | down => "down"
  | status => "status"

/-- The flags that belong to a subcommand alone. -/
def flags : Subcommand → List Flag
  | up => [.idempotent, .noVerifyInterfaces]
  | down => [.disableForwarding]
  | status => []

end Subcommand

/-- The words before the subcommand, or those behind one. -/
inductive Level
  | program
  | behind (subcommand : Subcommand)
deriving DecidableEq, Repr

/-- The flags known on a level. -/
def Level.flags : Level → List Flag
  | program => [.dryRun]
  | behind subcommand => .dryRun :: subcommand.flags

/-! ## Words -/

/-- The word that asks for help where a subcommand may stand. -/
def helpWord : String := "help"

/-- The subcommand of a name. -/
def subcommand? (word : String) : Option Subcommand := Subcommand.all.find? (·.name = word)

/-- Whether a word may stand where a subcommand does. -/
def isSubcommandWord (word : String) : Bool := word = helpWord || (subcommand? word).isSome

/-- What a name behind two dashes means. -/
inductive LongName
  | value (option : ValueOption)
  | flag (flag : Flag)
  | help
  | version
deriving DecidableEq, Repr

/-- The meaning of a name on a level. Only the program as a whole has a version. -/
def longName? (level : Level) (name : String) : Option LongName :=
  match ValueOption.all.find? (·.name = name) with
  | some option => some (.value option)
  | none =>
    match level.flags.find? (·.name = name) with
    | some flag => some (.flag flag)
    | none =>
      if name = "help" then some .help
      else if name = "version" ∧ level = .program then some .version
      else none

/-- The shapes of a word. -/
inductive Shape
  /-- `--`: what follows is no option. -/
  | separator
  /-- `--name` or `--name=value`. -/
  | long (name : String) (attached : Option String)
  /-- A dash and letters, of which only the first one matters. -/
  | short (letter : Char)
  /-- Anything else, a dash alone among it. -/
  | plain
deriving DecidableEq, Repr

def shape (word : String) : Shape :=
  match word.toList with
  | ['-', '-'] => .separator
  | '-' :: '-' :: rest =>
    match Text.splitOnce '=' rest with
    | some (name, value) => .long (.ofList name) (some (.ofList value))
    | none => .long (.ofList rest) none
  | '-' :: c :: _ => .short c
  | _ => .plain

/-! ## One level -/

/-- What the words of a level gave so far. -/
structure Given where
  values : List (ValueOption × String) := []
  flags : List Flag := []
  /-- The option that was met last, with the word behind it if there was one, while it is not
  settled. -/
  pending : Option (ValueOption × Option String) := none
deriving DecidableEq, Repr

namespace Given

/-- The value of an option. -/
def value? (given : Given) (option : ValueOption) : Option String := given.values.lookup option

/-- Takes a value for an option. -/
def accept (given : Given) (option : ValueOption) (value : String) : Except UsageError Given :=
  if (given.value? option).isSome then .error .argumentConflict
  else if option.accepts value then
    .ok { given with values := given.values ++ [(option, value)] }
  else .error .invalidValue

/-- Takes a flag. -/
def raise (given : Given) (flag : Flag) : Except UsageError Given :=
  if flag ∈ given.flags then .error .argumentConflict
  else .ok { given with flags := given.flags ++ [flag] }

/-- Settles the option that was met last. -/
def settle (given : Given) : Except UsageError Given :=
  match given.pending with
  | none => .ok given
  | some (_, none) => .error .invalidValue
  | some (option, some value) => { given with pending := none }.accept option value

/-- Whether the next word may be a value. -/
def isWaiting (given : Given) : Bool :=
  match given.pending with
  | some (_, none) => true
  | _ => false

/-- Gives a word to the option that waits for one. -/
def supply (given : Given) (word : String) : Given :=
  { given with pending := given.pending.map fun (option, _) => (option, some word) }

end Given

/-- A word with two dashes. -/
def readLong (level : Level) (given : Given) (name : String) (attached : Option String) :
    Except UsageError Given :=
  match longName? level name, attached with
  | none, _ => .error .unknownArgument
  | some (.value option), some value => do (← given.settle).accept option value
  | some (.value option), none => do
    return { ← given.settle with pending := some (option, none) }
  | some _, some _ => .error .tooManyValues
  | some (.flag flag), none => do (← given.settle).raise flag
  | some .help, none => do
    let _ ← given.settle
    throw .displayHelp
  | some .version, none => do
    let _ ← given.settle
    throw .displayVersion

/-- A word with one dash: it ends the reading in any case. -/
def readShort (level : Level) (given : Given) (letter : Char) : UsageError :=
  let stop (reason : UsageError) : UsageError :=
    match given.settle with
    | .ok _ => reason
    | .error e => e
  if letter = 'h' then stop .displayHelp
  else if letter = 'V' ∧ level = .program then stop .displayVersion
  else .unknownArgument

/-- A word that is neither an option nor a value. -/
def stray (level : Level) : UsageError :=
  match level with
  | .program => .invalidSubcommand
  | .behind _ => .unknownArgument

/-- The words behind `--`. No level takes any. -/
def readRest (level : Level) (given : Given) : List String → Except UsageError Given
  | [] => .ok given
  | word :: _ =>
    if level = .program ∧ isSubcommandWord word then .error .unknownArgument
    else .error (stray level)

/-- The words behind `help`: at most one, the name of a subcommand. -/
def readHelp : List String → UsageError
  | [] => .displayHelp
  | [word] => if isSubcommandWord word then .displayHelp else .invalidSubcommand
  | _ => .invalidSubcommand

/-- The words of a level, up to its end or to a subcommand, which is returned with the words behind
it. -/
def readLevel (level : Level) (given : Given) :
    List String → Except UsageError (Given × Option (Subcommand × List String))
  | [] => .ok (given, none)
  | word :: words =>
    if level = .program ∧ !given.isWaiting ∧ word = helpWord then .error (readHelp words)
    else
      match if level = .program ∧ !given.isWaiting then subcommand? word else none with
      | some subcommand => .ok (given, some (subcommand, words))
      | none =>
        match shape word with
        | .separator => (readRest level given words).map (·, none)
        | .long name attached => do readLevel level (← readLong level given name attached) words
        | .short letter => .error (readShort level given letter)
        | .plain =>
          if given.isWaiting then readLevel level (given.supply word) words
          else .error (stray level)

/-! ## The whole line -/

/-- The variables of an environment. -/
abbrev Environment := String → Option String

/-- Settles a level and looks at the variables that stand in for what it does not give. -/
def Given.finish (given : Given) (env : Environment) : Except UsageError Given := do
  let given ← given.settle
  let isRefused (option : ValueOption) : Bool :=
    (given.value? option).isNone && ((env option.envName).any fun value => !option.accepts value)
  if ValueOption.all.any isRefused then .error .invalidValue else .ok given

/-- The command of a subcommand with its flags. -/
def Subcommand.command (flags : List Flag) : Subcommand → Command
  | up => .up { idempotent := .idempotent ∈ flags, verifyInterfaces := .noVerifyInterfaces ∉ flags }
  | down => .down (.disableForwarding ∈ flags)
  | status => .status

/-- The invocation that the levels, from the inner to the outer one, and the environment make up. -/
def assemble (levels : List Given) (env : Environment) (command : Option Command) : Invocation :=
  let value (option : ValueOption) : Option String :=
    match levels.findSome? (·.value? option) with
    | some value => some value
    | none => env option.envName
  { overrides :=
      { tap := value .tap
        uplink := value .uplink
        subnet := value .subnet
        iptables := value .iptables }
    config := value .config
    logLevel := (value .logLevel).getD ({} : Invocation).logLevel
    dryRun := levels.any (·.flags.contains .dryRun)
    command }

/-- Reads a command line, without the name of the program. -/
def read (env : Environment) (args : List String) : Except UsageError Invocation := do
  let (outer, rest) ← readLevel .program {} args
  match rest with
  | none =>
    let outer ← outer.finish env
    return assemble [outer] env none
  | some (subcommand, words) =>
    let (inner, _) ← readLevel (.behind subcommand) {} words
    let inner ← inner.finish env
    let outer ← outer.finish env
    return assemble [inner, outer] env (some (subcommand.command inner.flags))

end GuestNat.CommandLine
