import HostConsole.Demo.Calculator
import HostConsole.Session.Line

/-! The demo host: a ship and a calculator beside the targets of another host. -/

namespace HostConsole.Demo

inductive Kind (K : Type) where
  | ship
  | calculator
  | other (kind : K)
  deriving DecidableEq

/-- A host with the demo's two kinds added. -/
@[reducible]
def host (H : Host) : Host where
  Kind := Kind H.Kind
  decEqKind := inferInstance
  kindName
    | .ship => "Ship"
    | .calculator => "Calculator"
    | .other kind => H.kindName kind
  State
    | .ship => Ship
    | .calculator => Calculator
    | .other kind => H.State kind
  Content := Content H.Content
  described := inferInstance

instance : Described Empty :=
  ⟨nofun, nofun⟩

/-- The host without any targets or objects. -/
@[reducible]
def noHost : Host where
  Kind := Empty
  decEqKind := inferInstance
  kindName := nofun
  State := nofun
  Content := Empty
  described := inferInstance

variable {H : Host}

def ship (s : Ship) : Target (host H) :=
  ⟨.ship, s, Ship.declarations⟩

def calculator (c : Calculator) : Target (host H) :=
  ⟨.calculator, c, Calculator.declarations⟩

/-- A fresh ship and calculator registered, each if it can be, and the number of
operations they add. -/
def install (s : Session (host H)) : Nat × Session (host H) :=
  [ship .initial, calculator .initial].foldl (fun (added, s) t =>
    match s.register t with
    | .ok (n, s) => (added + n, s)
    | .error _ => (added, s)) (0, s)

end HostConsole.Demo
