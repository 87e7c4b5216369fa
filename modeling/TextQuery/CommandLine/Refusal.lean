import TextQuery.CommandLine.Help
import TextQuery.Config.Error

/-!
# Refused command lines

Why a command line is not carried out, and what the user is told.
-/

namespace TextQuery.CommandLine

/-- Advice on an argument that is not known. -/
inductive Tip where
  /-- An option of the command is similar. -/
  | similarOption (shown : String)
  /-- Another command has a similar option. -/
  | elsewhere (command option : String)
  /-- After two dashes it would be an operand. -/
  | escape (argument : String)
  /-- Without two dashes before it, it would be a command. -/
  | unescape (command : String)
  deriving DecidableEq, Repr

/-- The advice in words. -/
def Tip.message : Tip → String
  | .similarOption shown => "a similar argument exists: '" ++ shown ++ "'"
  | .elsewhere command option => "'" ++ command ++ " " ++ option ++ "' exists"
  | .escape argument => "to pass '" ++ argument ++ "' as a value, use '-- " ++ argument ++ "'"
  | .unescape command =>
    "subcommand '" ++ command ++ "' exists; to use it, remove the '--' before it"

/-- What is wrong with a command line. -/
inductive Flaw where
  /-- An argument is neither an option, nor an operand. -/
  | unexpected (argument : String) (tip : Option Tip)
  /-- A word is no command. Similar commands are known, the most similar one last. -/
  | unknownCommand (word : String) (similar : List String)
  /-- There is no command. -/
  | missingCommand (known : List String)
  /-- There is no operand. -/
  | missingOperand (shown : String)
  /-- An option has no value. -/
  | missingValue (option : String)
  /-- An option that takes no value has one. -/
  | surplusValue (value option : String)
  /-- The value of an option is no format. -/
  | invalidFormat (value option : String)
  /-- An option is given together with others that exclude it. -/
  | conflict (option : String) (others : List String)
  /-- An option is given more than once. -/
  | repeated (option : String)
  deriving DecidableEq, Repr

namespace Flaw

/-- Words between single quotes, as a list. -/
def quoted (words : List String) : String :=
  String.intercalate ", " (words.map fun w => "'" ++ w ++ "'")

/-- The flaw in words. -/
def message : Flaw → String
  | .unexpected argument _ => "unexpected argument '" ++ argument ++ "' found"
  | .unknownCommand word _ => "unrecognized subcommand '" ++ word ++ "'"
  | .missingCommand known =>
    "'" ++ programName ++ "' requires a subcommand but one was not provided\n  [subcommands: " ++
      String.intercalate ", " known ++ "]"
  | .missingOperand shown =>
    "the following required arguments were not provided:\n  " ++ shown
  | .missingValue option => "a value is required for '" ++ option ++ "' but none was supplied"
  | .surplusValue value option =>
    "unexpected value '" ++ value ++ "' for '" ++ option ++ "' found; no more were expected"
  | .invalidFormat value option =>
    "invalid value '" ++ value ++ "' for '" ++ option ++ "': " ++
      (Config.Error.unknownFormat value).message
  | .conflict option [other] =>
    "the argument '" ++ option ++ "' cannot be used with '" ++ other ++ "'"
  | .conflict option others =>
    "the argument '" ++ option ++ "' cannot be used with:" ++
      String.join (others.map fun o => "\n  " ++ o)
  | .repeated option => "the argument '" ++ option ++ "' cannot be used multiple times"

/-- The advice that goes with the flaw. -/
def advice : Flaw → Option String
  | .unexpected _ tip => tip.map Tip.message
  | .unknownCommand _ [] => none
  | .unknownCommand _ [one] => some ("a similar subcommand exists: " ++ quoted [one])
  | .unknownCommand _ similar => some ("some similar subcommands exist: " ++ quoted similar)
  | _ => none

end Flaw

/-- A refusal: the flaw, and how the command would be called, where that helps. -/
structure Refusal where
  flaw : Flaw
  usage : Option String := none
  deriving DecidableEq, Repr

/-- The refusal as the user reads it. -/
def Refusal.message (r : Refusal) : String :=
  "error: " ++ r.flaw.message ++
    r.flaw.advice.elim "" (fun tip => "\n\n  tip: " ++ tip) ++
    r.usage.elim "" (fun usage => "\n\nUsage: " ++ usage) ++
    "\n\nFor more information, try '--help'.\n"

/-- Why a command line leads to no command. -/
inductive Halt where
  /-- Help on a command is asked for. -/
  | help (command : CommandSpec)
  /-- The version is asked for. -/
  | version
  /-- Nothing is asked for. -/
  | nothing
  /-- The command line is refused. -/
  | refused (r : Refusal)
  deriving DecidableEq, Repr

end TextQuery.CommandLine
