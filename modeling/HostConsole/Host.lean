import HostConsole.Arguments
import HostConsole.Fault

/-! Hosts and what they offer. A host has kinds of targets, each with a state of
its own, and publishes the operations of a target in a table of declarations. -/

namespace HostConsole

/-- What a console has to know of the program around it. A session tracks at most
one target of each kind. -/
structure Host where
  Kind : Type
  decEqKind : DecidableEq Kind
  kindName : Kind → String
  State : Kind → Type
  Content : Type
  described : Described Content

attribute [instance] Host.decEqKind Host.described

/-- The values of a host. -/
abbrev Host.Value (H : Host) : Type :=
  HostConsole.Value H.Content

/-- What a run of an operation comes to. The state may have changed even where
the run failed. -/
structure Reply (C σ : Type) where
  state : σ
  result : Except Failure (Option (Value C))

/-- An entry of a target's table. The body is given the number of its run, which
the objects it makes carry, then its arguments and the state of its target. -/
structure Declaration (C σ : Type) where
  name : String
  parameters : List Parameter
  marked : Bool
  body : Nat → Arguments C → σ → Reply C σ

/-- A target that is offered for registration. -/
structure Target (H : Host) where
  kind : H.Kind
  state : H.State kind
  declarations : List (Declaration H.Content (H.State kind))

/-- A registered operation. It belongs to a kind, not to a single target. -/
structure Operation (H : Host) where
  owner : H.Kind
  declaration : Declaration H.Content (H.State owner)

namespace Operation

variable {H : Host}

def name (o : Operation H) : String :=
  o.declaration.name

def parameters (o : Operation H) : List Parameter :=
  o.declaration.parameters

def arity (o : Operation H) : Nat :=
  o.parameters.length

def marked (o : Operation H) : Bool :=
  o.declaration.marked

def ownerName (o : Operation H) : String :=
  H.kindName o.owner

/-- The name with all parameters, always in parentheses. -/
def signature (o : Operation H) : String :=
  o.name ++ "(" ++ ", ".intercalate (o.parameters.map Parameter.text) ++ ")"

/-- The name alone where there are no parameters, the signature otherwise. -/
def listing (o : Operation H) : String :=
  if o.parameters.isEmpty then o.name else o.signature

def describe (o : Operation H) : String :=
  "Operation \x7b name: " ++ Text.quoted o.name ++ ", params: [" ++
    ", ".intercalate (o.parameters.map Parameter.describe) ++ "], marked: " ++
    (if o.marked then "true" else "false") ++ ", owner: " ++ Text.quoted o.ownerName ++ ", .. \x7d"

end Operation

/-- A registered target with its state. -/
structure Tracked (H : Host) where
  kind : H.Kind
  state : H.State kind

namespace Tracked

variable {H : Host}

/-- The state of the target of a kind. -/
def find? (k : H.Kind) : List (Tracked H) → Option (H.State k)
  | [] => none
  | t :: ts => if h : t.kind = k then some (h ▸ t.state) else find? k ts

/-- The targets with a new state for the one of a kind. -/
def replace (k : H.Kind) (s : H.State k) : List (Tracked H) → List (Tracked H)
  | [] => []
  | t :: ts => if t.kind = k then ⟨k, s⟩ :: ts else t :: replace k s ts

end Tracked

end HostConsole
