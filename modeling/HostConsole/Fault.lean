import HostConsole.Call.Basic
import HostConsole.Number.Floating
import HostConsole.Number.Integer
import HostConsole.Ty

/-! Everything that can end the evaluation of a line, by cause, with its text. -/

namespace HostConsole

/-- An error of an operation's own, with the errors that led to it. -/
structure Failure where
  message : String
  causes : List String
  deriving DecidableEq

namespace Failure

def ofMessage (message : String) : Failure :=
  ⟨message, []⟩

/-- The error under another that says what it was met in. -/
def within (f : Failure) (context : String) : Failure :=
  ⟨context, f.message :: f.causes⟩

/-- All messages, the outermost first. -/
def chain (f : Failure) : List String :=
  f.message :: f.causes

end Failure

/-- Why an operation that was called with fitting arguments gave no result. -/
inductive InvocationCause where
  | failed (failure : Failure)
  | inUse (targetName : String)
  | untracked (targetName : String)
  deriving DecidableEq

/-- All messages of a cause, the outermost first. -/
def InvocationCause.chain : InvocationCause → List String
  | .failed failure => failure.chain
  | .inUse targetName => [targetName ++ " target is already in use"]
  | .untracked targetName => ["no " ++ targetName ++ " target is registered"]

/-- Why a value does not fit a parameter. -/
inductive Reason where
  | integer (cause : Integer.ReadFault)
  | floating (cause : Floating.ReadFault)
  | notBool
  | notMember (members : List String)
  | ofType (typeName : String)
  deriving DecidableEq

def Reason.message : Reason → String
  | .integer cause => cause.message ++ "."
  | .floating cause => cause.message ++ "."
  | .notBool => "Expected true or false."
  | .notMember members => "Expected one of: " ++ ", ".intercalate members ++ "."
  | .ofType typeName => "Value is of type " ++ typeName ++ "."

/-- Why a line, or a registration, came to nothing. -/
inductive Fault where
  | invalidAssignment
  | malformed (input : String) (cause : CallFault)
  | unknownCommand (name : String)
  | arityMismatch (signature name arguments : String)
  | nullArgument (index : Nat) (expected : Ty)
  | unsupportedType (argument : String) (expected : Ty)
  | coercion (argument : String) (expected : Ty) (reason : Reason)
  | duplicateTarget (typeName : String)
  | invocation (name : String) (cause : InvocationCause)
  deriving DecidableEq

def Fault.message : Fault → String
  | .invalidAssignment => "Invalid variable"
  | .malformed input cause => "Malformed expression '" ++ input ++ "': " ++ cause.message
  | .unknownCommand name => "No method found with given name: " ++ name
  | .arityMismatch signature name arguments =>
    "Argument count is invalid for: " ++ signature ++ " Input method: " ++ name ++
      ", Args: " ++ arguments
  | .nullArgument index expected =>
    "Argument " ++ Decimal.text index ++ " is null. Expected: " ++ expected.name
  | .unsupportedType argument expected =>
    "Method param type not implemented: " ++ argument ++ " to " ++ expected.name
  | .coercion argument expected reason =>
    "Could not parse argument " ++ argument ++ " to " ++ expected.name ++ ". " ++ reason.message
  | .duplicateTarget typeName => "Multiple objects of same type is not allowed: " ++ typeName
  | .invocation name cause =>
    "Invocation of " ++ name ++ " failed: " ++ ": ".intercalate cause.chain

end HostConsole
