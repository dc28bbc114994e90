import HostConsole.Call.Parser
import HostConsole.Coercion
import HostConsole.Session.Basic

/-! Evaluation of calls. Arguments are evaluated before the call they stand in,
from left to right, and the first fault ends the whole line. What had happened by
then stays: changed targets, runs and reports. -/

namespace HostConsole

/-- One run of an operation: with which number and arguments, and to what end. -/
structure Run (H : Host) where
  number : Nat
  operation : Operation H
  arguments : Arguments H.Content
  result : Except Failure (Option H.Value)

/-- What a line is evaluated in. The host may hold targets for itself meanwhile. -/
structure Scope (H : Host) where
  operations : List (Operation H)
  bindings : Bindings H.Content
  held : List H.Kind

/-- What changes while a line is evaluated. -/
structure Progress (H : Host) where
  targets : List (Tracked H)
  nextRun : Nat
  runs : List (Run H)
  log : List Entry

abbrev Evaluation (H : Host) : Type → Type :=
  ExceptT Fault (StateM (Progress H))

variable {H : Host}

namespace Progress

def report (p : Progress H) (text : String) : Progress H :=
  { p with log := p.log ++ [⟨.info, text⟩] }

/-- The operation's target with its new state, and the run on record. -/
def record (p : Progress H) (o : Operation H) (arguments : Arguments H.Content)
    (reply : Reply H.Content (H.State o.owner)) : Progress H :=
  { p with
    targets := Tracked.replace o.owner reply.state p.targets
    nextRun := p.nextRun + 1
    runs := p.runs ++ [⟨p.nextRun, o, arguments, reply.result⟩] }

end Progress

namespace Operation

/-- The operation's name with the arguments it is given. -/
def callText (o : Operation H) (arguments : Arguments H.Content) : String :=
  o.name ++ "(" ++ arguments.text ++ ")"

/-- One run of the operation on the target of its kind. -/
def run (o : Operation H) (held : List H.Kind) (arguments : Arguments H.Content) :
    Evaluation H (Option H.Value) := fun p =>
  match Tracked.find? o.owner p.targets with
  | none => (.error (.invocation o.name (.untracked o.ownerName)), p)
  | some state =>
    if o.owner ∈ held then (.error (.invocation o.name (.inUse o.ownerName)), p)
    else
      let reply := o.declaration.body p.nextRun arguments state
      let after := p.record o arguments reply
      match reply.result with
      | .error f => (.error (.invocation o.name (.failed f)), after)
      | .ok v => (.ok v, after.report ("Method invoked: " ++ o.callText arguments))

end Operation

/-- The texts of resolved arguments. -/
def resolvedText (vs : List (Option H.Value)) : String :=
  ", ".intercalate (vs.map fun v => (v.map Value.text).getD "null")

/-- Whether an argument list begins with an empty text. -/
def beginsEmpty : List Argument → Bool
  | .text content :: _ => content.isEmpty
  | _ => false

namespace Scope

/-- What a text stands for: the value of the variable of that name, or itself. -/
def valueOf (s : Scope H) (text : String) : H.Value :=
  (s.bindings.find? text).getD (.string text)

/-- A call whose arguments are resolved. Nothing runs unless the name is known,
the number of arguments is right and each of them fits its parameter. -/
def invoke (s : Scope H) (name : String) (arguments : List Argument) (vs : List (Option H.Value)) :
    Evaluation H (Option H.Value) :=
  match Session.operation? s.operations name with
  | none => throw (.unknownCommand name)
  | some o =>
    if vs.length ≠ o.arity || beginsEmpty arguments then
      throw (.arityMismatch o.signature name (resolvedText vs))
    else
      match coerceAll vs o.parameters with
      | .error f => throw f
      | .ok ws => o.run s.held ⟨ws⟩

mutual

def resolve (s : Scope H) : Argument → Evaluation H (Option H.Value)
  | .text content => return some (s.valueOf content)
  | .call name arguments => do
    let vs ← resolveAll s arguments
    s.invoke name arguments vs

def resolveAll (s : Scope H) : List Argument → Evaluation H (List (Option H.Value))
  | [] => return []
  | a :: as => do
    let v ← resolve s a
    let vs ← resolveAll s as
    return v :: vs

end

/-- An expression: the name of a variable, or a call. -/
def evaluate (s : Scope H) (text : List Char) : Evaluation H (Option H.Value) := do
  let line := Text.trim text
  let name := String.ofList line
  match s.bindings.find? name with
  | some v =>
    modify (·.report (name ++ ": " ++ v.text))
    return some v
  | none =>
    match Call.parse line with
    | .error cause => throw (.malformed name cause)
    | .ok c => s.resolve (.ofCall c)

end Scope

end HostConsole
