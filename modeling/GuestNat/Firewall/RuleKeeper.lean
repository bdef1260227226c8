import GuestNat.Firewall.Command

/-!
# A firewall command that keeps its rules in a list

A stand-in for the firewall command. It keeps rules as texts: `-A` adds one at the end, `-C` looks
for one, `-D` takes the first one away, and where there is none these two say so and end with
status 1. A script can decide the end of some runs beforehand; such a run leaves the rules alone.
-/

namespace GuestNat

/-- How a scripted run ends. -/
inductive ScriptedEnd
  | exits (status : Nat)
  | dies (signal : Nat)
deriving DecidableEq, Repr

/-- One entry of a script: the runs it decides, and their end. -/
structure ScriptEntry where
  /-- The action flag of the runs. -/
  flag : String
  /-- A text that occurs in the joined arguments. -/
  mention : Option String := none
  /-- The number of the run among those with this flag and this text, counted from 1. -/
  number : Option Nat := none
  ending : ScriptedEnd := .exits 0
  stderr : Bytes := []

/-- Whether an entry is about a run with this flag and these joined arguments, its number apart. -/
def ScriptEntry.concerns (entry : ScriptEntry) (run : String × String) : Bool :=
  entry.flag == run.1 &&
    match entry.mention with
    | none => true
    | some text => Text.occursIn text run.2

/-- The rules, the script, and the runs so far, each with its flag and its joined arguments. -/
structure RuleKeeper where
  rules : List String := []
  script : List ScriptEntry := []
  runs : List (String × String) := []

namespace RuleKeeper

/-- What `-C` and `-D` say when no rule matches. -/
def noMatchText : String := "iptables: Bad rule (does a matching rule exist in that chain?).\n"

/-- The end of a run that finds no rule. -/
def noMatch : Outcome := .exited 1 (Text.Utf8.ofAscii noMatchText)

/-- The entry that decides a run, given the runs before it. -/
def entry? (keeper : RuleKeeper) (run : String × String) : Option ScriptEntry :=
  keeper.script.find? fun entry =>
    entry.concerns run &&
      (entry.number = none || entry.number = some (keeper.runs.countP entry.concerns + 1))

/-- The end that an entry decides. -/
def decided (entry : ScriptEntry) : Outcome :=
  match entry.ending with
  | .exits status => .exited status entry.stderr
  | .dies signal => .killed signal entry.stderr

/-- What becomes of the rules when nothing was decided beforehand. -/
def obey (rules : List String) (flag rule : String) : Outcome × List String :=
  if flag = "-A" then (.exited 0 [], rules ++ [rule])
  else if flag = "-C" then (if rules.contains rule then .exited 0 [] else noMatch, rules)
  else if flag = "-D" then
    if rules.contains rule then (.exited 0 [], rules.erase rule) else (noMatch, rules)
  else (.exited 2 [], rules)

/-- One run of the command. -/
def invoke (keeper : RuleKeeper) : List String → Outcome × RuleKeeper
  | args@("-w" :: "-t" :: table :: flag :: chain :: rest) =>
    let run := (flag, Text.joinWords args)
    let runs := keeper.runs ++ [run]
    match keeper.entry? run with
    | some entry => (decided entry, { keeper with runs })
    | none =>
      let rule := "-t " ++ table ++ " " ++ chain ++ " " ++ Text.joinWords rest
      let (outcome, rules) := obey keeper.rules flag rule
      (outcome, { keeper with rules, runs })
  | args => (.exited 2 [], { keeper with runs := keeper.runs ++ [("", Text.joinWords args)] })

end RuleKeeper

end GuestNat
