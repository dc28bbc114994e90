import HostConsole.Bindings
import HostConsole.Host
import HostConsole.Log
import HostConsole.Text.Alike

/-! Sessions: the operations within reach, the targets they belong to and the
variables assigned so far. -/

namespace HostConsole

/-- How a session is set up: whether only marked operations are within reach, and
whether results are reported apart from information. -/
structure Settings where
  requireMarking : Bool
  resultsApart : Bool
  deriving DecidableEq

def Settings.resultLevel (s : Settings) : Level :=
  if s.resultsApart then .result else .info

structure Session (H : Host) where
  settings : Settings
  operations : List (Operation H)
  targets : List (Tracked H)
  bindings : Bindings H.Content
  /-- The number that the next run of an operation gets. -/
  nextRun : Nat

namespace Session

variable {H : Host}

def new (settings : Settings) : Session H :=
  ⟨settings, [], [], .empty, 0⟩

/-- Whether the settings let a declaration be called. -/
def admits (s : Session H) {C σ : Type} (d : Declaration C σ) : Bool :=
  d.marked || !s.settings.requireMarking

def tracks (s : Session H) (k : H.Kind) : Bool :=
  s.targets.any (·.kind = k)

/-- The operations that a target contributes, in the order of its table. -/
def offered (s : Session H) (t : Target H) : List (Operation H) :=
  (t.declarations.filter s.admits).map fun d => ⟨t.kind, d⟩

/-- The session with a target, and the number of operations it adds. Of each kind
the first target stays, whatever it added. -/
def register (s : Session H) (t : Target H) : Except Fault (Nat × Session H) :=
  if s.tracks t.kind then .error (.duplicateTarget (H.kindName t.kind))
  else
    let added := s.offered t
    .ok (added.length,
      { s with
        operations := s.operations ++ added
        targets := s.targets ++ [⟨t.kind, t.state⟩] })

/-- The operation that a name means: the first with that name up to case. -/
def operation? (operations : List (Operation H)) (name : String) : Option (Operation H) :=
  operations.find? (Text.alike ·.name name)

/-- The operations whose names begin with a text up to case. -/
def beginning (s : Session H) (start : String) : List (Operation H) :=
  s.operations.filter (Text.beginsAlike ·.name start)

def names (s : Session H) (start : String) : List String :=
  (s.beginning start).map Operation.name

def listings (s : Session H) (start : String) : List String :=
  (s.beginning start).map Operation.listing

def targetNames (s : Session H) : List String :=
  s.targets.map fun t => H.kindName t.kind

/-- What is reported on a request for help. -/
def help (s : Session H) : List Entry :=
  ⟨.info, "List of commands:"⟩ :: (s.listings "").map fun l => ⟨.info, l⟩

/-- Every name begins with the empty text. -/
@[simp]
theorem beginning_empty (s : Session H) : s.beginning "" = s.operations := by
  have hall : ∀ o ∈ s.operations, Text.beginsAlike (Operation.name o) "" = true := fun _ _ => rfl
  exact List.filter_eq_self.2 hall

/-- Help is a heading and then all operations, in the order in which they are registered. -/
theorem help_eq (s : Session H) :
    s.help = ("List of commands:" :: s.operations.map Operation.listing).map (⟨.info, ·⟩) := by
  rw [help, listings, beginning_empty]
  rfl

end Session

end HostConsole
