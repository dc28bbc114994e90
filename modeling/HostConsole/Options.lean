/-! The command line of the demo console. -/

namespace HostConsole

/-- How the console was asked to run. Where lines are given, they are evaluated
instead of those on standard input. -/
structure Options where
  allMethods : Bool
  quiet : Bool
  lines : List String
  deriving DecidableEq

namespace Options

/-- Why arguments are no options. -/
inductive Misuse where
  | unrecognized (argument : String)
  | missingValue (option : String)
  | behindHelp
  deriving DecidableEq

def Misuse.message : Misuse → String
  | .unrecognized argument => "Unrecognized argument: " ++ argument ++ "\n"
  | .missingValue option => "No value provided for option '" ++ option ++ "'.\n"
  | .behindHelp => "Trailing arguments are not allowed after `help`."

def none : Options :=
  ⟨false, false, []⟩

/-- What the arguments ask for. -/
inductive Request where
  | usage
  | run (options : Options)
  deriving DecidableEq

/-- The arguments from the left, with the options so far and whether help was asked
for. An option's value is taken as it is, whatever it looks like. -/
def read (o : Options) (help : Bool) : List String → Except Misuse Request
  | [] => .ok (if help then .usage else .run o)
  | a :: r =>
    if a = "--help" || a = "help" then read o true r
    else if a = "--" then
      match r with
      | [] => .ok (if help then .usage else .run o)
      | b :: _ => .error (.unrecognized b)
    else if a.toList.head? = some '-' then
      if help then .error .behindHelp
      else if a = "--all-methods" then read { o with allMethods := true } help r
      else if a = "-q" || a = "--quiet" then read { o with quiet := true } help r
      else if a = "-c" || a = "--command" then
        match r with
        | [] => .error (.missingValue a)
        | line :: r => read { o with lines := o.lines ++ [line] } help r
      else .error (.unrecognized a)
    else .error (.unrecognized a)

def ofArguments (arguments : List String) : Except Misuse Request :=
  read none false arguments

def usage : String :=
  "\n".intercalate
    ["Usage: command-console [--all-methods] [-q] [-c <command...>]",
     "",
     "Command console over a demo ship and calculator.",
     "",
     "Options:",
     "  --all-methods     expose every declared method, not only those marked as",
     "                    commands.",
     "  -q, --quiet       print only errors and results.",
     "  -c, --command     evaluate this line and exit instead of starting the prompt;",
     "                    may be repeated.",
     "  --help, help      display usage information",
     ""]

end Options

end HostConsole
