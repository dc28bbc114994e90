/-! Calls as trees. A call has a name and arguments, and an argument is a text
or again a call. -/

namespace HostConsole

/-- An argument as it was typed. -/
inductive Argument where
  | text (content : String)
  | call (name : String) (arguments : List Argument)

/-- A name with its arguments. -/
structure Call where
  name : String
  arguments : List Argument

def Argument.ofCall (c : Call) : Argument :=
  .call c.name c.arguments

/-- Why a line is no call. -/
inductive CallFault where
  | missingName
  | unclosed
  | trailing (text : String)
  deriving DecidableEq

def CallFault.message : CallFault → String
  | .missingName => "missing command name"
  | .unclosed => "unclosed parenthesis"
  | .trailing text => "unexpected input after closing parenthesis: '" ++ text ++ "'"

end HostConsole
