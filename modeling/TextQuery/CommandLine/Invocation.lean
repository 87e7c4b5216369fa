import TextQuery.CommandLine.Refusal
import TextQuery.CommandLine.Similar

/-!
# Invocations

Reading a command line. Arguments are read from left to right. The value of an option may be the
next argument; the option counts as given only once something follows that settles this. An argument
that starts with a dash but is no option is an operand while the command takes one, and after two
dashes every argument is an operand.
-/

namespace TextQuery.CommandLine

/-- A command with all that it needs. -/
inductive Command where
  | tokenize (texts : List String) (field : Option String) (json : Bool)
  | parse (query : String) (json string : Bool) (format : Option Config.OutputFormat)
  | init (global force : Bool)
  | status
  | config
  deriving DecidableEq, Repr

/-- What a command line asks for. -/
structure Invocation where
  /-- How often more logging is asked for, up to 255. -/
  verbosity : Nat
  command : Command
  deriving DecidableEq, Repr

/-- An option that was given. -/
structure Given where
  option : OptionSpec
  /-- How often, for an option that counts. -/
  times : Nat := 1
  /-- Its value, for an option that takes one. -/
  value : String := ""
  deriving DecidableEq, Repr

/-- What is known of a command line after some of its arguments. -/
structure Scan where
  /-- The options given, in the order they were settled. -/
  given : List Given := []
  /-- An option that is not settled yet, with its value once that is known. -/
  pending : Option (OptionSpec × Option String) := none
  operands : List String := []
  /-- Whether two dashes were met. -/
  escaped : Bool := false
  deriving DecidableEq, Repr

/-- A scan that went on, or one that came to a halt. The scan is kept in both cases, since messages
show what was given before. -/
abbrev Progress := Scan × Option Halt

/-- Goes on unless there was a halt. -/
def Progress.next (p : Progress) (f : Scan → Progress) : Progress :=
  match p with
  | (s, none) => f s
  | (s, some h) => (s, some h)

namespace Scan

/-- What is known of an option. -/
def find? (s : Scan) (name : String) : Option Given :=
  s.given.find? fun g => g.option.long == name

/-- The scan without an option. -/
def without (s : Scan) (name : String) : Scan :=
  { s with given := s.given.filter fun g => g.option.long != name }

/-- The scan with one more option. -/
def add (s : Scan) (g : Given) : Scan := { s with given := s.given ++ [g] }

/-- The options given. -/
def options (s : Scan) : List OptionSpec := s.given.map (·.option)

/-- Whether the next operand has a place. -/
def takesOperand (s : Scan) (c : CommandSpec) : Bool :=
  c.operand.any fun o => o.many || s.operands.isEmpty

/-- Whether all that follows is operands. -/
def onlyOperands (s : Scan) (c : CommandSpec) : Bool :=
  c.operand.any fun o => o.many && !s.operands.isEmpty

/-- A halt by a refusal. -/
def refuse (s : Scan) (flaw : Flaw) (usage : Option String) : Progress :=
  (s, some (.refused ⟨flaw, usage⟩))

/-- Gives an option with its value. -/
def give (c : CommandSpec) (s : Scan) (o : OptionSpec) (value : String) : Progress :=
  match o.effect with
  | .help => (s, some (.help c))
  | .version => (s, some .version)
  | .count =>
    let before := (s.find? o.long).elim 0 (·.times)
    ((s.without o.long).add ⟨o, min 255 (before + 1), ""⟩, none)
  | effect =>
    if (s.find? o.long).isSome then
      (s.without o.long).refuse (.repeated o.shown) (some c.usage)
    else
      let s' := s.add ⟨o, 1, value⟩
      match effect, Config.OutputFormat.ofName? value with
      | .format _, none => s'.refuse (.invalidFormat value o.shown) none
      | _, _ => (s', none)

/-- Settles the pending option. -/
def settle (c : CommandSpec) (s : Scan) : Progress :=
  match s.pending with
  | none => (s, none)
  | some (o, none) => { s with pending := none }.refuse (.missingValue o.shown) none
  | some (o, some value) => give c { s with pending := none } o value

/-- Meets an option, with the value attached to it. -/
def meet (c : CommandSpec) (s : Scan) (o : OptionSpec) (value : Option String) : Progress :=
  Progress.next (s.settle c) fun s =>
    match o.effect.placeholder?, value with
    | some _, none => ({ s with pending := some (o, none) }, none)
    | _, _ => give c s o (value.getD "")

/-- Takes an operand. -/
def takeOperand (c : CommandSpec) (s : Scan) (argument : String) : Progress :=
  if s.takesOperand c then
    Progress.next (s.settle c) fun s => ({ s with operands := s.operands ++ [argument] }, none)
  else (s.settle c).1.refuse (.unexpected argument none) (some c.usage)

/-- Takes an argument that is no option: the value that the pending option waits for, or an
operand. -/
def takePlain (c : CommandSpec) (s : Scan) (argument : String) : Progress :=
  match s.pending with
  | some (o, none) => ({ s with pending := some (o, some argument) }, none)
  | _ => takeOperand c s argument

/-- The most similar of the options of a command. -/
def similarOption? (c : CommandSpec) (name : String) : Option OptionSpec :=
  (similarTo name (c.options.map (·.long))).getLast?.bind c.byLong?

/-- The command named first among the arguments to come that has a similar option. -/
def elsewhere? (commands : List String) (name : String) : List String → Option Tip
  | [] => none
  | argument :: rest =>
    match (if commands.contains argument then Verb.ofName? argument else none) with
    | none => elsewhere? commands name rest
    | some v =>
      match similarOption? v.spec name with
      | some o => some (.elsewhere v.name ("--" ++ o.long))
      | none => elsewhere? commands name rest

/-- Refuses an unknown long option. If a similar one is known, the usage shows it as if given. -/
def refuseLong (c : CommandSpec) (s : Scan) (name : String) (rest : List String) : Progress :=
  let s := (s.settle c).1
  match similarOption? c name with
  | some o =>
    let used := if (s.find? o.long).isSome then s.options else s.options ++ [o]
    s.refuse (.unexpected ("--" ++ name) (some (.similarOption ("--" ++ o.long))))
      (some (c.usageWith used))
  | none =>
    let tip := match elsewhere? c.commandNames name rest with
      | some tip => some tip
      | none => if c.operand.isSome then some (.escape ("--" ++ name)) else none
    s.refuse (.unexpected ("--" ++ name) tip) (some (c.usageWith s.options))

/-- Reads an argument that starts with two dashes, given what follows these. -/
def readLong (c : CommandSpec) (s : Scan) (body : List Char) (rest : List String) : Progress :=
  let name := String.ofList (body.takeWhile (· != '='))
  let value := match body.dropWhile (· != '=') with
    | [] => none
    | _ :: cs => some (String.ofList cs)
  match c.byLong? name with
  | some o =>
    match o.effect.placeholder?, value with
    | none, some v =>
      let used := if (s.find? o.long).isSome then s.options else s.options ++ [o]
      (s.settle c).1.refuse (.surplusValue v o.shown) (some (c.usageWith used))
    | _, _ => meet c s o value
  | none =>
    if s.takesOperand c then takePlain c s ("--" ++ String.ofList body)
    else refuseLong c s name rest

/-- Reads letters after one dash. A letter that takes a value takes what is left as its value. -/
def readLetters (c : CommandSpec) (s : Scan) : List Char → Progress
  | [] => (s, none)
  | letter :: rest =>
    match c.byShort? letter with
    | none =>
      let argument := String.ofList ['-', letter]
      let tip := if c.operand.isSome then some (Tip.escape argument) else none
      (s.settle c).1.refuse (.unexpected argument tip) (some c.usage)
    | some o =>
      if o.effect.placeholder?.isSome then
        let value := match rest with
          | [] => none
          | '=' :: cs => some (String.ofList cs)
          | cs => some (String.ofList cs)
        meet c s o value
      else Progress.next (meet c s o none) fun s => readLetters c s rest

/-- Reads an argument that starts with one dash, given what follows it. It is an operand if some
letter is no option and an operand has a place. -/
def readShort (c : CommandSpec) (s : Scan) (letters : List Char) : Progress :=
  if s.takesOperand c && letters.any fun l => (c.byShort? l).isNone then
    takePlain c s (String.ofList ('-' :: letters))
  else readLetters c s letters

/-- Reads one argument, given those that follow it. -/
def step (c : CommandSpec) (s : Scan) (argument : String) (rest : List String) : Progress :=
  if s.escaped || s.onlyOperands c then takeOperand c s argument
  else
    match argument.toList with
    | ['-', '-'] => ({ s with escaped := true }, none)
    | '-' :: '-' :: body => readLong c s body rest
    | '-' :: letter :: letters => readShort c s (letter :: letters)
    | _ => takePlain c s argument

/-- Reads all arguments. -/
def run (c : CommandSpec) (s : Scan) : List String → Progress
  | [] => s.settle c
  | argument :: rest => Progress.next (step c s argument rest) fun s => run c s rest

/-! ### Checks on the whole -/

/-- The first option that cannot be used with others, in the order given. -/
def conflict? (c : CommandSpec) (s : Scan) : Option Halt :=
  s.options.findSome? fun o =>
    match s.options.filter fun p => p != o && o.conflicts p with
    | [] => none
    | others =>
      let used := s.options.filter fun p => !others.contains p
      some (.refused ⟨.conflict o.shown (others.map (·.shown)), some (c.usageWith used)⟩)

/-- The operand that is missing. -/
def missing? (c : CommandSpec) (s : Scan) : Option Halt :=
  match c.operand with
  | some o =>
    if o.required && s.operands.isEmpty then
      let options := String.join (s.options.map fun o => " " ++ o.shown)
      some (.refused ⟨.missingOperand o.shown, some (c.name ++ options ++ c.tail)⟩)
    else none
  | none => none

/-! ### The command -/

/-- Whether an option was given. -/
def has (s : Scan) (name : String) : Bool := (s.find? name).isSome

/-- The value of an option. -/
def value? (s : Scan) (name : String) : Option String := (s.find? name).map (·.value)

/-- The command that a scan adds up to. -/
def command (s : Scan) : Verb → Command
  | .tokenize => .tokenize s.operands (s.value? "field") (s.has "json")
  | .parse => .parse (s.operands.headD "") (s.has "json") (s.has "string")
      ((s.value? "format").bind Config.OutputFormat.ofName?)
  | .init => .init (s.has "global") (s.has "force")
  | .status => .status
  | .config => .config

end Scan

/-- Reads the arguments of a command. -/
def readCommand (v : Verb) (arguments : List String) : Except Halt Scan :=
  match Scan.run v.spec {} arguments with
  | (_, some h) => .error h
  | (s, none) =>
    match s.conflict? v.spec, s.missing? v.spec with
    | some h, _ => .error h
    | none, some h => .error h
    | none, none => .ok s

/-- The halt that asking for help on a command comes to. -/
def readHelp : List String → Halt
  | [] => .help programSpec
  | word :: rest =>
    let found := if word == helpWord then some helpSpec else (Verb.ofName? word).map Verb.spec
    match found, rest with
    | none, _ => .refused ⟨.unknownCommand word [], some programSpec.usage⟩
    | some c, [] => .help c
    | some c, extra :: _ => .refused ⟨.unknownCommand extra [], some c.usage⟩

/-- The halt at an argument that should be a command. -/
def refuseWord (s : Scan) (word : String) : Halt :=
  let known := programSpec.commandNames
  if s.escaped && known.contains word then
    .refused ⟨.unexpected word (some (.unescape word)), some programSpec.usage⟩
  else .refused ⟨.unknownCommand word (similarTo word known), some programSpec.usage⟩

/-- Reads the arguments up to the command, and the rest as the arguments of the command. The
verbosity asked for with the command counts before the one asked for in front of it. -/
def readProgram (s : Scan) : List String → Except Halt Invocation
  | [] =>
    if s.given.isEmpty then .error .nothing
    else
      .error (.refused ⟨.missingCommand programSpec.commandNames, some programSpec.usage⟩)
  | argument :: rest =>
    if !s.escaped && argument == helpWord then .error (readHelp rest)
    else
      match (if s.escaped then none else Verb.ofName? argument) with
      | some v =>
        match readCommand v rest with
        | .error h => .error h
        | .ok sub =>
          let times (s : Scan) := (s.find? verboseOption.long).map (·.times)
          .ok ⟨((times sub).or (times s)).getD 0, sub.command v⟩
      | none =>
        match argument.toList with
        | '-' :: _ :: _ =>
          if s.escaped then .error (refuseWord s argument)
          else
            match Scan.step programSpec s argument rest with
            | (_, some h) => .error h
            | (s, none) => readProgram s rest
        | _ => .error (refuseWord s argument)

/-- What a command line asks for. -/
def Invocation.ofArguments (arguments : List String) : Except Halt Invocation :=
  readProgram {} arguments

end TextQuery.CommandLine
