import Wab.Text.Quoted
import Wab.Text.WordCharacter

/-!
# Arguments of the command line

An argument is an option, the value of one, or an operand, of which there is one: the locator. An
option has a long name, which may be cut short as long as it stays clear which one is meant, and
most have a short one; short ones that take no value may be written together. A value follows its
option or is joined to it, with an equals sign behind a long name. Behind two hyphens there are
operands only; two hyphens that are joined to an option are dropped, which leaves it without value.

* **`Flag`**: an option.
* **`Invocation`**: what the arguments ask for.
* **`CommandLine.parse`**: the invocation, or what is wrong with the arguments.
-/

namespace Wab

/-- An option of the command line. -/
inductive Flag where
  /-- Asks for a description of the arguments. -/
  | help
  /-- The parameters. -/
  | query
  /-- The file to be written. -/
  | output
  /-- The configuration file. -/
  | configFile
  /-- An option of the configuration. -/
  | setting
  /-- Asks for all log lines. -/
  | verbose
  /-- Asks for warnings only. -/
  | quiet
  deriving DecidableEq, Repr

namespace Flag

/-- All options in order. -/
def all : List Flag := [help, query, output, configFile, setting, verbose, quiet]

/-- The names of an option, the short one first. -/
def names : Flag → List Text
  | help => ["-h", "--help"]
  | query => ["-Q", "--query"]
  | output => ["-o", "--output"]
  | configFile => ["--config-file"]
  | setting => ["-O", "--option"]
  | verbose => ["-v", "--verbose"]
  | quiet => ["-q", "--quiet"]

/-- The option is followed by a value. -/
def takesValue : Flag → Bool
  | query | output | configFile | setting => true
  | help | verbose | quiet => false

/-- The option as messages name it. -/
def label (f : Flag) : Text := List.intercalate ['/'] f.names

/-- The option of a name. -/
def ofName? (name : Text) : Option Flag := all.find? fun f => f.names.contains name

/-- The names that begin with a text, with their options. -/
def abbreviated (start : Text) : List (Text × Flag) :=
  all.flatMap fun f => (f.names.filter (Text.startsWith start)).map fun name => (name, f)

end Flag

/-- What is wrong with the arguments. -/
inductive UsageError where
  /-- There is no locator. -/
  | missingLocator
  /-- There are more arguments than are known. -/
  | unrecognized (arguments : List Text)
  /-- The value of an option is missing. -/
  | missingValue (flag : Flag)
  /-- An option that takes no value has one. -/
  | unexpectedValue (flag : Flag) (value : Text)
  /-- An argument may be one of several options. -/
  | ambiguous (argument : Text) (names : List Text)
  /-- An option of the configuration has no equals sign. -/
  | malformedSetting (written : Text)
  deriving DecidableEq, Repr

/-- The error in words. -/
def UsageError.message : UsageError → String
  | missingLocator => "the following arguments are required: locator"
  | unrecognized arguments =>
    "unrecognized arguments: " ++ Text.str (List.intercalate [' '] arguments)
  | missingValue flag => s!"argument {Text.str flag.label}: expected one argument"
  | unexpectedValue flag value =>
    s!"argument {Text.str flag.label}: ignored explicit argument {Text.quoted value}"
  | ambiguous argument names =>
    s!"ambiguous option: {Text.str argument} could match "
      ++ Text.str (List.intercalate ", " names)
  | malformedSetting written => s!"invalid --option argument: {Text.quoted written}"

/-- The value of an option. -/
inductive OptionValue where
  /-- A text. -/
  | text (s : Text)
  /-- Nothing, where two hyphens were dropped. -/
  | dropped
  deriving DecidableEq, Repr

namespace OptionValue

/-- The value that is joined to an option. -/
def ofJoined (s : Text) : OptionValue := if s = (['-', '-'] : Text) then dropped else text s

/-- The text of a value, empty if there is none. -/
def getText : OptionValue → Text
  | text s => s
  | dropped => []

end OptionValue

/-- What the arguments ask for. -/
structure Invocation where
  /-- The locator of the archive. -/
  locator : Option Text := none
  /-- The parameters, if they are not those of the locator. -/
  query : Option OptionValue := none
  /-- The file to be written; an empty name is none. -/
  output : Text := []
  /-- The configuration file; an empty name is none. -/
  configFile : Text := []
  /-- Options of the configuration in order. -/
  settings : List OptionValue := []
  /-- All log lines are wanted. -/
  verbose : Bool := false
  /-- Only warnings are wanted. -/
  quiet : Bool := false
  deriving DecidableEq, Repr

namespace CommandLine

/-! ## Single arguments -/

/-- What an argument looks like. -/
inductive Token where
  /-- A value or an operand. -/
  | operand
  /-- An option that there is not. -/
  | unknown
  /-- An option under one of its names, with what is joined to it. -/
  | option (name : Text) (flag : Flag) (joined : Option Text)
  deriving DecidableEq, Repr

/-- The text is a negative number: a hyphen and digits, among which there may be a point that digits
follow. A single line feed after it does not count. -/
def isNegativeNumber (s : Text) : Bool :=
  let s := if s.getLast? = some (.scalar '\n') then s.dropLast else s
  match s with
  | '-' :: rest =>
    match Text.cut? ['.'] rest with
    | none => !rest.isEmpty && rest.all Text.isDecimal
    | some (whole, fraction) =>
      whole.all Text.isDecimal && !fraction.isEmpty && fraction.all Text.isDecimal
  | _ => false

/-- An argument with a hyphen in front that is no option: negative numbers and what holds a space
are operands. -/
def withoutFlag (argument : Text) : Token :=
  if isNegativeNumber argument || argument.contains ' ' then .operand else .unknown

/-- A long name, which may be cut short, and what an equals sign joins to it. -/
def longToken (argument : Text) : Except UsageError Token :=
  let (start, joined) : Text × Option Text := match Text.cut? ['='] argument with
    | some (start, value) => (start, some value)
    | none => (argument, none)
  match Flag.abbreviated start with
  | [] => .ok (withoutFlag argument)
  | [(name, flag)] => .ok (.option name flag joined)
  | several => .error (.ambiguous argument (several.map (·.1)))

/-- A short name and what is joined to it. -/
def shortToken (argument : Text) : Token :=
  match Flag.ofName? (argument.take 2) with
  | some flag => .option (argument.take 2) flag (some (argument.drop 2))
  | none => withoutFlag argument

/-- The option whose whole name stands in front of an equals sign. -/
def namedBeforeEquals? (argument : Text) : Option Token :=
  match Text.cut? ['='] argument with
  | some (name, value) => (Flag.ofName? name).map fun flag => .option name flag (some value)
  | none => none

/-- What an argument in front of two hyphens looks like. -/
def token (argument : Text) : Except UsageError Token :=
  match argument with
  | [] | ['-'] => .ok .operand
  | '-' :: c :: _ =>
    match Flag.ofName? argument, namedBeforeEquals? argument with
    | some flag, _ => .ok (.option argument flag none)
    | none, some named => .ok named
    | none, none => if c = '-' then longToken argument else .ok (shortToken argument)
  | _ => .ok .operand

/-! ## All arguments -/

/-- Why the arguments are no invocation. -/
inductive Stop where
  /-- A description of the arguments is asked for. -/
  | help
  /-- Something is wrong. -/
  | usage (error : UsageError)
  deriving DecidableEq, Repr

/-- The options of one argument with their values, the last of which may still need one. -/
structure Group where
  /-- The options that are complete. -/
  complete : List (Flag × OptionValue) := []
  /-- An option whose value has to follow. -/
  waiting : Option Flag := none
  deriving DecidableEq, Repr

/-- The group of an option without value. -/
def Group.switch (flag : Flag) : Group := { complete := [(flag, .text [])] }

/-- The group with one more option without value in front. -/
def Group.cons (flag : Flag) (g : Group) : Group :=
  { g with complete := (flag, .text []) :: g.complete }

/-- The group of an option with a value joined to it. -/
def Group.joined (flag : Flag) (value : Text) : Group :=
  { complete := [(flag, .ofJoined value)] }

/-- The option with nothing joined to it. -/
def lone (flag : Flag) : Group :=
  if flag.takesValue then { waiting := some flag } else .switch flag

/-- The options of an argument that begins with a short option without value, to which a text is
joined. Its first character names the next option. -/
def shortGroup (flag : Flag) : Text → Except UsageError Group
  | [] => .error (.unexpectedValue flag [])
  | c :: more =>
    match Flag.ofName? ['-', c] with
    | none => .error (.unexpectedValue flag (c :: more))
    | some next =>
      if more.isEmpty then .ok ((lone next).cons flag)
      else if next.takesValue then .ok ((Group.joined next more).cons flag)
      else (shortGroup next more).map (Group.cons flag)

/-- The options of one argument. -/
def group (name : Text) (flag : Flag) : Option Text → Except UsageError Group
  | none => .ok (lone flag)
  | some joined =>
    if flag.takesValue then .ok (.joined flag joined)
    else if Text.startsWith ['-', '-'] name then .error (.unexpectedValue flag joined)
    else shortGroup flag joined

/-- What was read from the arguments so far. -/
structure Progress where
  /-- What they ask for. -/
  invocation : Invocation := {}
  /-- Arguments of no use. -/
  excess : List Text := []
  /-- The argument before is the locator. -/
  afterLocator : Bool := false
  deriving DecidableEq, Repr

namespace Progress

/-- Takes an option with its value into account. -/
def set (p : Progress) (flag : Flag) (value : OptionValue) : Except Stop Progress :=
  let i := p.invocation
  match flag with
  | .help => .error .help
  | .query => .ok { p with invocation := { i with query := some value } }
  | .output => .ok { p with invocation := { i with output := value.getText } }
  | .configFile => .ok { p with invocation := { i with configFile := value.getText } }
  | .setting => .ok { p with invocation := { i with settings := i.settings ++ [value] } }
  | .verbose => .ok { p with invocation := { i with verbose := true } }
  | .quiet => .ok { p with invocation := { i with quiet := true } }

/-- Takes the options of one argument into account. -/
def setAll (p : Progress) (g : Group) : Except Stop Progress :=
  g.complete.foldlM (fun p (flag, value) => p.set flag value)
    { p with afterLocator := false }

/-- Takes an operand into account: the first one is the locator. -/
def operand (p : Progress) (argument : Text) : Progress :=
  match p.invocation.locator with
  | none => { p with
      invocation := { p.invocation with locator := some argument }
      afterLocator := true }
  | some _ => { p with excess := p.excess ++ [argument], afterLocator := false }

/-- Takes two hyphens and the operands behind them into account. The hyphens are of use directly
before or behind the locator. -/
def operands (p : Progress) (hyphens : Text) (arguments : List Text) : Progress :=
  let ofUse := p.afterLocator || (p.invocation.locator.isNone && !arguments.isEmpty)
  arguments.foldl operand (if ofUse then p else { p with excess := p.excess ++ [hyphens] })

end Progress

/-- Reads the arguments in front of two hyphens. -/
def readTokens (p : Progress) : List (Text × Token) → Except Stop Progress
  | [] => .ok p
  | (argument, .operand) :: rest => readTokens (p.operand argument) rest
  | (argument, .unknown) :: rest =>
    readTokens { p with excess := p.excess ++ [argument], afterLocator := false } rest
  | (_, .option name flag joined) :: rest => do
    let g ← (group name flag joined).mapError .usage
    match g.waiting, rest with
    | none, rest => readTokens (← p.setAll g) rest
    | some waiting, (value, .operand) :: rest => do
      let p ← p.setAll g
      readTokens (← p.set waiting (.text value)) rest
    | some waiting, _ => throw (.usage (.missingValue waiting))

/-- Two hyphens, behind which there are operands only. -/
def hyphens : Text := ['-', '-']

/-- The invocation that the arguments are. -/
def parse (arguments : List Text) : Except Stop Invocation := do
  let (before, behind) := arguments.span (· ≠ hyphens)
  let tokens ← (before.mapM token).mapError .usage
  let p ← readTokens {} (before.zip tokens)
  let p := match behind with
    | [] => p
    | _ :: operands => p.operands hyphens operands
  -- A missing locator is worse than arguments of no use.
  if p.invocation.locator.isNone then throw (.usage .missingLocator)
  if !p.excess.isEmpty then throw (.usage (.unrecognized p.excess))
  return p.invocation

/-! ## Examples -/

example : (parse ["a.war", "-qQx=1"]).toOption
    = some { locator := some ↑"a.war", query := some (.text "x=1"),
             quiet := true } := by
  decide +kernel

example : (parse ["--que=x", "a.war"]).toOption
    = some { locator := some ↑"a.war", query := some (.text "x") } := by
  decide +kernel

example : (parse ["a.war", "--o"]).toOption = none := by decide +kernel

end CommandLine

end Wab
