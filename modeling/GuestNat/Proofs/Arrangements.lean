import GuestNat.CommandLine.Reader
import GuestNat.Proofs.SubnetText
import Mathlib.Data.List.Nodup

/-!
# Arrangements of a command line

The options of a command line stand before or behind its subcommand, in any order, and their values
in the same word or in the next one. What the line asks for does not depend on any of it.

* `Request`, `Request.Fulfilled`: what is asked for, and that an invocation does it: a value that is
  given counts before the environment, and the environment before the default;
* `Arrangement`, `Arrangement.Of`: a choice of places and spellings, and that it leaves nothing of a
  request out;
* `readLevel_mention`, `readLevel_mentions`: what one option adds to what a level gave, and what all
  options of a level come to;
* `Arrangement.Of.fulfilled`, `Arrangement.Of.read_args`: the two levels together do what is asked
  for, and nothing else is read;
* `arrangements_agree`: all arrangements of a request are read as the same invocation, and this one
  fulfils the request.
-/

namespace GuestNat

open CommandLine

/-! ## Commands and invocations -/

theorem CommandLine.Subcommand.dryRun_notMem_flags {subcommand : Subcommand} :
    .dryRun ∉ subcommand.flags := by
  cases subcommand <;> decide

namespace Command

def subcommand : Command → Subcommand
  | up _ => .up
  | down _ => .down
  | status => .status

/-- The flags that ask for a command where its subcommand is given. -/
def flags : Command → List Flag
  | up options =>
    (if options.idempotent then [.idempotent] else []) ++
      if options.verifyInterfaces then [] else [.noVerifyInterfaces]
  | down disableForwarding => if disableForwarding then [.disableForwarding] else []
  | status => []

variable {command : Command}

theorem flags_subset {flag : Flag} (h : flag ∈ command.flags) :
    flag ∈ command.subcommand.flags := by
  cases command with
  | up options =>
      rcases options with ⟨_ | _, _ | _⟩ <;> simp [flags] at h <;>
        simp [subcommand, Subcommand.flags, h]
  | down disableForwarding =>
      cases disableForwarding <;> simp [flags] at h
      simp [subcommand, Subcommand.flags, h]
  | status => cases h

/-- The flags of a subcommand say which command it is. -/
theorem command_subcommand {given : List Flag}
    (h : ∀ flag ∈ command.subcommand.flags, flag ∈ given ↔ flag ∈ command.flags) :
    command.subcommand.command given = command := by
  cases command with
  | up options =>
      rcases options with ⟨_ | _, _ | _⟩ <;>
        simpa [subcommand, flags, Subcommand.flags, Subcommand.command] using h
  | down disableForwarding =>
      cases disableForwarding <;>
        simpa [subcommand, flags, Subcommand.flags, Subcommand.command] using h
  | status => rfl

end Command

namespace Invocation

/-- What an invocation says about an option. -/
def value? (invocation : Invocation) : ValueOption → Option String
  | .tap => invocation.overrides.tap
  | .uplink => invocation.overrides.uplink
  | .subnet => invocation.overrides.subnet
  | .config => invocation.config
  | .iptables => invocation.overrides.iptables
  | .logLevel => some invocation.logLevel

/-- What an invocation says about its options, its command and a dry run is all that there is to
it. -/
theorem eq_of_values {invocation other : Invocation}
    (hcommand : invocation.command = other.command) (hdryRun : invocation.dryRun = other.dryRun)
    (hvalue : ∀ option, invocation.value? option = other.value? option) : invocation = other := by
  have htap := hvalue .tap
  have huplink := hvalue .uplink
  have hsubnet := hvalue .subnet
  have hconfig := hvalue .config
  have hiptables := hvalue .iptables
  have hlogLevel := hvalue .logLevel
  rcases invocation with ⟨⟨⟩, _⟩
  rcases other with ⟨⟨⟩, _⟩
  simp_all [value?]

end Invocation

namespace CommandLine

/-! ## Requests -/

/-- The value that an option has where nothing gives it one. -/
def ValueOption.default? : ValueOption → Option String
  | logLevel => some "info"
  | _ => none

/-- A text that is not empty and does not begin with a dash. -/
def IsValue (text : String) : Prop := text ≠ "" ∧ text.toList.head? ≠ some '-'

/-- What is asked for on a command line with a subcommand. -/
structure Request where
  command : Command
  /-- The value that is given for an option. -/
  value? : ValueOption → Option String
  dryRun : Bool

/-- The invocation does what is asked for: the value of an option is the one that is given, or else
the one in the environment, or else the default. -/
structure Request.Fulfilled (request : Request) (env : Environment) (invocation : Invocation) :
    Prop where
  command : invocation.command = some request.command
  dryRun : invocation.dryRun = request.dryRun
  value (option : ValueOption) : invocation.value? option =
    ((request.value? option).or (env option.envName)).or option.default?

/-! ## Arrangements -/

/-- One thing that a command line mentions: an option with its value, or a flag. -/
inductive Mention
  | option (option : ValueOption) (value : String)
  | flag (flag : Flag)
deriving DecidableEq, Repr

namespace Mention

/-- The words of a mention. A value stands in the word of its option or in one behind it. -/
def words (isAttached : ValueOption → Bool) : Mention → List String
  | option o value =>
    if isAttached o then ["--" ++ o.name ++ "=" ++ value] else ["--" ++ o.name, value]
  | flag f => ["--" ++ f.name]

def longName : Mention → LongName
  | option o _ => .value o
  | flag f => .flag f

def entry? : Mention → Option (ValueOption × String)
  | option o value => some (o, value)
  | flag _ => none

def flag? : Mention → Option Flag
  | option _ _ => none
  | flag f => some f

/-- The mention has its place on the level, and its value can be read. -/
def FitsOn (level : Level) : Mention → Prop
  | option _ value => IsValue value
  | flag f => f ∈ level.flags

end Mention

/-- All that a command line has to mention. -/
def Request.mentions (request : Request) : List Mention :=
  ValueOption.all.filterMap (fun option => (request.value? option).map (.option option)) ++
    ((if request.dryRun then [Flag.dryRun] else []) ++ request.command.flags).map .flag

/-- What stands before the subcommand, what stands behind it, and which options have their values in
the same word. -/
structure Arrangement where
  before : List Mention
  after : List Mention
  isAttached : ValueOption → Bool

namespace Arrangement

/-- The command line. -/
def args (arrangement : Arrangement) (subcommand : Subcommand) : List String :=
  arrangement.before.flatMap (·.words arrangement.isAttached) ++
    subcommand.name :: arrangement.after.flatMap (·.words arrangement.isAttached)

/-- Everything is mentioned once and nothing else is, and the flags of the subcommand stand behind
it. -/
structure Of (arrangement : Arrangement) (request : Request) : Prop where
  perm : (arrangement.before ++ arrangement.after).Perm request.mentions
  own : ∀ flag ∈ request.command.flags, .flag flag ∉ arrangement.before

end Arrangement

/-! ## Words -/

section Words

variable {level : Level} {given : Given} {word name : String} {attached : Option String}
  {words : List String} {option : ValueOption} {flag : Flag}

theorem shape_option : shape ("--" ++ option.name) = .long option.name none := by
  cases option <;> decide

theorem shape_flag : shape ("--" ++ flag.name) = .long flag.name none := by
  cases flag <;> decide

theorem notMem_name : '=' ∉ option.name.toList := by
  cases option <;> decide

/-- The name ends at the first `=`; there may be more of them in the value. -/
theorem shape_attached {value : String} :
    shape ("--" ++ option.name ++ "=" ++ value) = .long option.name (some value) := by
  have hlist : ("--" ++ option.name ++ "=" ++ value).toList =
      '-' :: '-' :: (option.name.toList ++ '=' :: value.toList) := by simp
  unfold shape
  rw [hlist]
  -- there are two dashes and a name behind them, so only the second case is possible
  split
  · next h => simp at h
  · next rest _ h =>
      obtain rfl : option.name.toList ++ '=' :: value.toList = rest := by simpa using h
      simp [Text.splitOnce_append notMem_name]
  · next hlong heq => exact (hlong (List.cons.inj (List.cons.inj heq).2).1.symm).elim
  · next hlong => exact (hlong _ _ rfl).elim

theorem IsValue.shape (h : IsValue word) : CommandLine.shape word = .plain := by
  obtain ⟨-, hhead⟩ := h
  unfold CommandLine.shape
  split
  · next heq => simp [heq] at hhead
  · next heq => simp [heq] at hhead
  · next heq => simp [heq] at hhead
  · rfl

/-- No subcommand looks like an option. -/
theorem shape_of_subcommand? {subcommand : Subcommand} (h : subcommand? word = some subcommand) :
    shape word = .plain := by
  obtain rfl : subcommand.name = word := by simpa using List.find?_some h
  cases subcommand <;> decide

theorem longName?_option : longName? level option.name = some (.value option) := by
  cases option <;> rfl

theorem Flag.name_injective {other : Flag} (h : other.name = flag.name) : other = flag := by
  revert h
  cases other <;> cases flag <;> decide

theorem longName?_flag (h : flag ∈ level.flags) :
    longName? level flag.name = some (.flag flag) := by
  have hnone : ValueOption.all.find? (·.name = flag.name) = none := by cases flag <;> decide
  have hsome : level.flags.find? (·.name = flag.name) = some flag := by
    cases hfind : level.flags.find? (·.name = flag.name) with
    | none => simpa using List.find?_eq_none.mp hfind flag h
    | some other =>
        have hname : other.name = flag.name := by simpa using List.find?_some hfind
        rw [Flag.name_injective hname]
  simp [longName?, hnone, hsome]

theorem readLevel_long (h : shape word = .long name attached) :
    readLevel level given (word :: words) =
      (do readLevel level (← readLong level given name attached) words) := by
  have hplain : shape helpWord = .plain := by decide
  have hhelp : word ≠ helpWord := by
    rintro rfl
    rw [hplain] at h
    cases h
  have hnone : subcommand? word = none := by
    cases hword : subcommand? word with
    | none => rfl
    | some subcommand =>
        rw [shape_of_subcommand? hword] at h
        cases h
  rw [readLevel]
  simp [hhelp, hnone, h]

theorem readLevel_value (hwaiting : given.isWaiting = true) (h : shape word = .plain) :
    readLevel level given (word :: words) = readLevel level (given.supply word) words := by
  rw [readLevel]
  simp [hwaiting, h]

theorem readLevel_subcommand {subcommand : Subcommand} (hwaiting : given.isWaiting = false) :
    readLevel .program given (subcommand.name :: words) =
      .ok (given, some (subcommand, words)) := by
  have hhelp : subcommand.name ≠ helpWord := by cases subcommand <;> decide
  have hsome : subcommand? subcommand.name = some subcommand := by cases subcommand <;> rfl
  rw [readLevel]
  simp [hwaiting, hhelp, hsome]

end Words

/-! ## One level -/

namespace Given

/-- What is given by some mentions, all of them settled. -/
def ofMentions (mentions : List Mention) : Given :=
  { values := mentions.filterMap Mention.entry?, flags := mentions.filterMap Mention.flag? }

/-- So far some mentions were read. The last of them may not be settled. -/
structure Holds (given : Given) (mentions : List Mention) : Prop where
  isWaiting : given.isWaiting = false
  settle : given.settle = .ok (.ofMentions mentions)

variable {mentions : List Mention} {mention : Mention} {option : ValueOption} {flag : Flag}
  {value : String}

theorem holds_ofMentions : (ofMentions mentions).Holds mentions := ⟨rfl, rfl⟩

theorem mem_flags_ofMentions : flag ∈ (ofMentions mentions).flags ↔ .flag flag ∈ mentions := by
  simp only [ofMentions, List.mem_filterMap]
  constructor
  · rintro ⟨mention, hmem, hflag⟩
    cases mention with
    | option option value => cases hflag
    | flag other => cases hflag; exact hmem
  · intro hmem
    exact ⟨_, hmem, rfl⟩

theorem value?_ofMentions_flag :
    (ofMentions (.flag flag :: mentions)).value? option = (ofMentions mentions).value? option := rfl

theorem value?_ofMentions_option {other : ValueOption} :
    (ofMentions (.option other value :: mentions)).value? option =
      if option = other then some value else (ofMentions mentions).value? option := by
  unfold value? ofMentions
  by_cases heq : option = other
  · simp [Mention.entry?, heq]
  · simp [Mention.entry?, List.lookup_cons, beq_eq_false_iff_ne.mpr heq, heq]

/-- Where no option is mentioned twice, its value is the one it is mentioned with. -/
theorem value?_ofMentions (h : (mentions.map Mention.longName).Nodup) :
    (ofMentions mentions).value? option = some value ↔ .option option value ∈ mentions := by
  induction mentions with
  | nil => simp [ofMentions, value?]
  | cons mention mentions ih =>
      obtain ⟨hfresh, hrest⟩ := List.nodup_cons.mp h
      -- no later mention has this one's long name, so the first mention of an option settles it
      cases mention with
      | flag other => simp [value?_ofMentions_flag, ih hrest]
      | option other text =>
          rw [value?_ofMentions_option]
          split
          · next heq =>
              subst heq
              have hnot : .option option value ∉ mentions := fun hmem =>
                hfresh (List.mem_map.mpr ⟨_, hmem, rfl⟩)
              simp [hnot, eq_comm]
          · next hne => simp [ih hrest, hne]

theorem value?_ofMentions_append {front rest : List Mention} :
    (ofMentions (front ++ rest)).value? option =
      ((ofMentions front).value? option).or ((ofMentions rest).value? option) := by
  simp [value?, ofMentions, List.lookup_append]

theorem value?_ofMentions_of_fresh (h : .value option ∉ mentions.map Mention.longName) :
    (ofMentions mentions).value? option = none := by
  refine List.lookup_eq_none_iff.mpr fun entry hmem => ?_
  obtain ⟨mention, hmention, hentry⟩ := List.mem_filterMap.mp hmem
  cases mention with
  | flag other => cases hentry
  | option other text =>
      cases hentry
      simpa using fun heq : option = other => h (heq ▸ List.mem_map_of_mem hmention)

theorem accept_ofMentions (h : .value option ∉ mentions.map Mention.longName)
    (hvalue : value ≠ "") :
    (ofMentions mentions).accept option value =
      .ok (.ofMentions (mentions ++ [.option option value])) := by
  have haccepts : option.accepts value = true := by simp [ValueOption.accepts, hvalue]
  simp only [accept, value?_ofMentions_of_fresh h, haccepts]
  simp [ofMentions, Mention.entry?, Mention.flag?]

theorem raise_ofMentions (h : .flag flag ∉ mentions) :
    (ofMentions mentions).raise flag = .ok (.ofMentions (mentions ++ [.flag flag])) := by
  have hnot : flag ∉ (ofMentions mentions).flags := fun hmem => h (mem_flags_ofMentions.mp hmem)
  simp only [raise, hnot]
  simp [ofMentions, Mention.entry?, Mention.flag?]

/-- Only the settings file can be refused for what the environment says. -/
theorem Holds.finish {given : Given} {env : Environment} (h : given.Holds mentions)
    (hconfig : env "TAPNAT_CONFIG" ≠ some "") : given.finish env = .ok (.ofMentions mentions) := by
  have haccepts (option : ValueOption) :
      ((env option.envName).any fun value => !option.accepts value) = false := by
    cases option with
    -- only the settings file's option refuses a value: the empty text
    | config =>
        cases hvalue : env "TAPNAT_CONFIG" with
        | none => simp [ValueOption.envName, hvalue]
        | some value =>
            have hne : value ≠ "" := fun heq => hconfig (heq ▸ hvalue)
            simp [ValueOption.envName, ValueOption.accepts, hvalue, hne]
    | _ => simp [ValueOption.accepts]
  simp only [Given.finish, h.settle, bind, Except.bind, haccepts]
  simp

end Given

section Levels

variable {level : Level} {given : Given} {front mentions : List Mention} {mention : Mention}

/-- What a mention adds to what was read so far. -/
theorem readLevel_mention (isAttached : ValueOption → Bool) (h : given.Holds front)
    (hfits : mention.FitsOn level) (hfresh : mention.longName ∉ front.map Mention.longName)
    (rest : List String) :
    ∃ after : Given, after.Holds (front ++ [mention]) ∧
      readLevel level given (mention.words isAttached ++ rest) = readLevel level after rest := by
  cases mention with
  | flag flag =>
      have hnot : .flag flag ∉ front := fun hmem => hfresh (List.mem_map_of_mem hmem)
      have hlong : readLong level given flag.name none =
          .ok (.ofMentions (front ++ [.flag flag])) := by
        simp only [readLong, longName?_flag hfits, h.settle]
        exact Given.raise_ofMentions hnot
      refine ⟨_, Given.holds_ofMentions, ?_⟩
      simp only [Mention.words, List.cons_append, List.nil_append]
      rw [readLevel_long shape_flag, hlong]
      rfl
  | option option value =>
      have haccept := Given.accept_ofMentions hfresh hfits.1
      cases hspelling : isAttached option with
      | true =>
          have hlong : readLong level given option.name (some value) =
              .ok (.ofMentions (front ++ [.option option value])) := by
            simp only [readLong, longName?_option, h.settle]
            exact haccept
          refine ⟨_, Given.holds_ofMentions, ?_⟩
          simp only [Mention.words, hspelling, if_true, List.cons_append, List.nil_append]
          rw [readLevel_long shape_attached, hlong]
          rfl
      | false =>
          -- The option is settled only by what stands behind its value.
          have hlong : readLong level given option.name none =
              .ok { Given.ofMentions front with pending := some (option, none) } := by
            simp only [readLong, longName?_option, h.settle]
            rfl
          refine ⟨{ Given.ofMentions front with pending := some (option, some value) },
            ⟨rfl, haccept⟩, ?_⟩
          simp only [Mention.words, hspelling, Bool.false_eq_true, if_false, List.cons_append,
            List.nil_append]
          rw [readLevel_long shape_option, hlong]
          exact readLevel_value rfl hfits.shape

/-- What all mentions of a level come to, by induction on them. -/
theorem readLevel_mentions (isAttached : ValueOption → Bool) (h : given.Holds front)
    (hfits : ∀ mention ∈ mentions, mention.FitsOn level)
    (hnodup : ((front ++ mentions).map Mention.longName).Nodup) (rest : List String) :
    ∃ after : Given, after.Holds (front ++ mentions) ∧
      readLevel level given (mentions.flatMap (·.words isAttached) ++ rest) =
        readLevel level after rest := by
  -- the induction is on the words still to be read; `front` grows by what has been taken in,
  -- and `Holds` says that nothing else is on record
  induction mentions generalizing given front with
  | nil => exact ⟨given, by simpa using h, rfl⟩
  | cons mention mentions ih =>
      rw [List.forall_mem_cons] at hfits
      have hfresh : mention.longName ∉ front.map Mention.longName := by
        rw [List.map_append, List.nodup_append] at hnodup
        intro hmem
        exact hnodup.2.2 _ hmem _ (by simp) rfl
      obtain ⟨next, hnext, hstep⟩ := readLevel_mention isAttached h hfits.1 hfresh
        (mentions.flatMap (·.words isAttached) ++ rest)
      obtain ⟨after, hafter, hrun⟩ := ih hnext hfits.2 (by simpa using hnodup)
      refine ⟨after, by simpa using hafter, ?_⟩
      rw [List.flatMap_cons, List.append_assoc, hstep, hrun]

/-- What a level comes to whose words are some mentions. -/
theorem readLevel_all (isAttached : ValueOption → Bool)
    (hfits : ∀ mention ∈ mentions, mention.FitsOn level)
    (hnodup : (mentions.map Mention.longName).Nodup) (rest : List String) :
    ∃ given : Given, given.Holds mentions ∧
      readLevel level {} (mentions.flatMap (·.words isAttached) ++ rest) =
        readLevel level given rest :=
  have hstart : (Given.ofMentions []).Holds [] := Given.holds_ofMentions
  readLevel_mentions isAttached hstart hfits hnodup rest

end Levels

/-! ## The whole line -/

section Requests

variable {request : Request} {arrangement : Arrangement} {env : Environment}

namespace Request

theorem option_mem_mentions {option : ValueOption} {value : String} :
    .option option value ∈ request.mentions ↔ request.value? option = some value := by
  have hall : option ∈ ValueOption.all := by cases option <;> decide
  simp [mentions, hall]

theorem flag_mem_mentions {flag : Flag} : .flag flag ∈ request.mentions ↔
    (request.dryRun = true ∧ flag = .dryRun) ∨ flag ∈ request.command.flags := by
  cases hdryRun : request.dryRun with
  | false => simp [mentions, hdryRun]
  | true => simp [mentions, hdryRun, @eq_comm _ flag]

/-- A request mentions nothing twice. -/
theorem nodup_mentions : (request.mentions.map Mention.longName).Nodup := by
  -- each command has its own flags, and `--dry-run` is none of them
  have hflags :
      ((if request.dryRun then [Flag.dryRun] else []) ++ request.command.flags).Nodup := by
    cases request.dryRun <;> cases request.command with
    | up options => rcases options with ⟨_ | _, _ | _⟩ <;> decide
    | down disableForwarding => cases disableForwarding <;> decide
    | status => decide
  rw [mentions, List.map_append, List.map_filterMap, List.map_map, List.nodup_append]
  refine ⟨List.Nodup.filterMap ?_ (by decide), hflags.map ?_, ?_⟩
  · -- two options of one long name are the same option
    intro option other longName hoption hother
    simp only [Option.map_map, Option.mem_def, Option.map_eq_some_iff, Function.comp_apply,
      Mention.longName] at hoption hother
    obtain ⟨_, _, rfl⟩ := hoption
    obtain ⟨_, _, heq⟩ := hother
    exact (LongName.value.inj heq).symm
  · -- and so are two flags
    intro flag other heq
    exact LongName.flag.inj heq
  · -- no option that takes a value is a flag
    intro longName hvalue other hflag heq
    obtain ⟨option, -, hoption⟩ := List.mem_filterMap.mp hvalue
    obtain ⟨flag, -, rfl⟩ := List.mem_map.mp hflag
    subst heq
    simp [Option.map_map, Mention.longName] at hoption

/-- What is mentioned has its place on a level that knows dry runs and, if it is a flag of the
subcommand, knows that flag. -/
theorem fitsOn {level : Level} {mention : Mention}
    (hvalues : ∀ option value, request.value? option = some value → IsValue value)
    (hmention : mention ∈ request.mentions) (hdryRun : .dryRun ∈ level.flags)
    (hown : ∀ flag ∈ request.command.flags, mention = .flag flag → flag ∈ level.flags) :
    mention.FitsOn level := by
  cases mention with
  | option option value => exact hvalues option value (option_mem_mentions.mp hmention)
  | flag flag =>
      obtain ⟨-, rfl⟩ | hflag := flag_mem_mentions.mp hmention
      · exact hdryRun
      · exact hown flag hflag rfl

/-- The arrangement with everything behind the subcommand, and each value in a word of its own. -/
def allBehind (request : Request) : Arrangement := ⟨[], request.mentions, fun _ => false⟩

theorem allBehind_of : request.allBehind.Of request := ⟨.rfl, fun _ _ => List.not_mem_nil⟩

/-- Only one invocation does what is asked for. -/
theorem Fulfilled.unique {invocation other : Invocation}
    (h : request.Fulfilled env invocation) (hother : request.Fulfilled env other) :
    invocation = other :=
  Invocation.eq_of_values (h.command.trans hother.command.symm) (h.dryRun.trans hother.dryRun.symm)
    fun option => (h.value option).trans (hother.value option).symm

end Request

/-- What levels together say about an option. -/
theorem value?_assemble {levels : List Given} {command : Option Command} {option : ValueOption} :
    (assemble levels env command).value? option =
      ((levels.findSome? (·.value? option)).or (env option.envName)).or option.default? := by
  cases option with
  | logLevel =>
      cases hgiven : levels.findSome? (·.value? .logLevel) with
      | some value => simp [assemble, Invocation.value?, hgiven]
      | none =>
          cases henv : env ValueOption.logLevel.envName <;>
            simp [assemble, Invocation.value?, ValueOption.default?, hgiven, henv]
  | _ =>
      simp only [assemble, Invocation.value?, ValueOption.default?, Option.or_none]
      split <;> next hgiven => simp [hgiven]

/-- The invocation that the two levels of an arrangement make up. -/
def Arrangement.invocation (arrangement : Arrangement) (env : Environment)
    (subcommand : Subcommand) : Invocation :=
  assemble [.ofMentions arrangement.after, .ofMentions arrangement.before] env
    (some (subcommand.command (Given.ofMentions arrangement.after).flags))

namespace Arrangement.Of

variable (h : arrangement.Of request)
include h

theorem mem_iff {mention : Mention} :
    mention ∈ arrangement.after ∨ mention ∈ arrangement.before ↔ mention ∈ request.mentions := by
  rw [or_comm, ← List.mem_append, h.perm.mem_iff]

theorem nodup : ((arrangement.before ++ arrangement.after).map Mention.longName).Nodup :=
  (h.perm.map _).nodup_iff.mpr request.nodup_mentions

/-- Whatever the arrangement, the levels together make up what is asked for. -/
theorem fulfilled :
    request.Fulfilled env (arrangement.invocation env request.command.subcommand) where
  command := by
    refine congrArg some (Command.command_subcommand fun flag hflag => ?_)
    have hne : flag ≠ .dryRun := fun heq => Subcommand.dryRun_notMem_flags (heq ▸ hflag)
    have hmem : .flag flag ∈ arrangement.after ∨ .flag flag ∈ arrangement.before ↔
        flag ∈ request.command.flags := by simp [h.mem_iff, request.flag_mem_mentions, hne]
    rw [Given.mem_flags_ofMentions]
    exact ⟨fun hafter => hmem.mp (.inl hafter),
      fun hown => (hmem.mpr hown).resolve_right (h.own flag hown)⟩
  dryRun := by
    have hown : .dryRun ∉ request.command.flags := fun hmem =>
      Subcommand.dryRun_notMem_flags (Command.flags_subset hmem)
    rw [Bool.eq_iff_iff]
    simp [Arrangement.invocation, assemble, Given.mem_flags_ofMentions, h.mem_iff,
      request.flag_mem_mentions, hown]
  value option := by
    have hgiven : (Given.ofMentions (arrangement.after ++ arrangement.before)).value? option =
        request.value? option := by
      have hnodup : ((arrangement.after ++ arrangement.before).map Mention.longName).Nodup :=
        (List.perm_append_comm.map _).nodup_iff.mpr h.nodup
      ext value
      rw [Given.value?_ofMentions hnodup, List.mem_append, h.mem_iff, request.option_mem_mentions]
    rw [Arrangement.invocation, value?_assemble, ← hgiven, Given.value?_ofMentions_append]
    -- the level behind the subcommand is asked first
    cases hafter : (Given.ofMentions arrangement.after).value? option <;> simp [hafter]

variable (hvalues : ∀ option value, request.value? option = some value → IsValue value)
include hvalues

theorem before_fitsOn : ∀ mention ∈ arrangement.before, mention.FitsOn .program :=
  fun _ hmem => Request.fitsOn hvalues (h.mem_iff.mp (.inr hmem)) List.mem_cons_self
    fun flag hflag heq => absurd (heq ▸ hmem) (h.own flag hflag)

theorem after_fitsOn :
    ∀ mention ∈ arrangement.after, mention.FitsOn (.behind request.command.subcommand) :=
  fun _ hmem => Request.fitsOn hvalues (h.mem_iff.mp (.inl hmem)) List.mem_cons_self
    fun _ hflag _ => List.mem_cons_of_mem _ (Command.flags_subset hflag)

/-- Reading an arrangement gives what its levels make up. -/
theorem read_args (hconfig : env "TAPNAT_CONFIG" ≠ some "") :
    read env (arrangement.args request.command.subcommand) =
      .ok (arrangement.invocation env request.command.subcommand) := by
  obtain ⟨hbefore, hafter, -⟩ := List.nodup_append.mp (List.map_append ▸ h.nodup)
  obtain ⟨outer, houter, hreadOuter⟩ := readLevel_all arrangement.isAttached
    (h.before_fitsOn hvalues) hbefore
    (request.command.subcommand.name :: arrangement.after.flatMap (·.words arrangement.isAttached))
  obtain ⟨inner, hinner, hreadInner⟩ := readLevel_all arrangement.isAttached
    (h.after_fitsOn hvalues) hafter []
  -- the outer level stops at the subcommand, the inner one reads to the end of the words
  rw [readLevel_subcommand houter.isWaiting] at hreadOuter
  rw [List.append_nil, readLevel] at hreadInner
  unfold read Arrangement.args
  simp only [hreadOuter, hreadInner, hinner.finish hconfig, houter.finish hconfig, bind,
    Except.bind]
  rfl

end Arrangement.Of

/-- All ways to write down a request are read as the same invocation, and this one fulfils the
request. -/
theorem arrangements_agree
    (hvalues : ∀ option value, request.value? option = some value → IsValue value)
    (hconfig : env "TAPNAT_CONFIG" ≠ some "") :
    ∃ invocation, request.Fulfilled env invocation ∧ ∀ arrangement : Arrangement,
      arrangement.Of request →
        read env (arrangement.args request.command.subcommand) = .ok invocation := by
  refine ⟨_, request.allBehind_of.fulfilled, fun arrangement h => ?_⟩
  rw [h.read_args hvalues hconfig, h.fulfilled.unique request.allBehind_of.fulfilled]

/-- Values that are spelled like subcommands and like options with values, two of them given against
the environment. -/
theorem arrangements_agree_of_misleading :
    let request : Request :=
      { command := .up { idempotent := true, verifyInterfaces := false }
        value? := fun
          | .tap => some "down"
          | .subnet => some "tap=up"
          | .logLevel => some "help"
          | _ => none
        dryRun := true }
    let env : Environment := fun name =>
      if name ∈ ["TAPNAT_TAP", "TAPNAT_UPLINK", "TAPNAT_LOG"] then some "status" else none
    (∀ option value, request.value? option = some value → IsValue value) ∧
      env "TAPNAT_CONFIG" ≠ some "" ∧
      ∃ invocation, request.Fulfilled env invocation ∧
        read env ["--tap", "down", "--subnet=tap=up", "up", "--no-verify-interfaces", "--log-level",
          "help", "--dry-run", "--idempotent"] = .ok invocation ∧
        read env ["--dry-run", "--log-level=help", "up", "--idempotent", "--subnet", "tap=up",
          "--tap", "down", "--no-verify-interfaces"] = .ok invocation := by
  intro request env
  have hvalues : ∀ option value, request.value? option = some value → IsValue value := by
    intro option value hvalue
    cases option <;> cases hvalue <;> exact ⟨by decide, by decide⟩
  have hconfig : env "TAPNAT_CONFIG" ≠ some "" := by decide
  obtain ⟨invocation, hfulfilled, hread⟩ := arrangements_agree hvalues hconfig
  let first : Arrangement :=
    { before := [.option .tap "down", .option .subnet "tap=up"]
      after := [.flag .noVerifyInterfaces, .option .logLevel "help", .flag .dryRun,
        .flag .idempotent]
      isAttached := (· = .subnet) }
  let second : Arrangement :=
    { before := [.flag .dryRun, .option .logLevel "help"]
      after := [.flag .idempotent, .option .subnet "tap=up", .option .tap "down",
        .flag .noVerifyInterfaces]
      isAttached := (· = .logLevel) }
  have hfirst : first.Of request := ⟨by decide, by decide⟩
  have hsecond : second.Of request := ⟨by decide, by decide⟩
  exact ⟨hvalues, hconfig, invocation, hfulfilled, hread first hfirst, hread second hsecond⟩

end Requests

end CommandLine

end GuestNat
