import HostConsole.Host

/-! A ship whose controls are operations. Its state can be taken as an object and
given back later. -/

namespace HostConsole.Demo

/-- The four points of the compass. -/
def heading : Enumeration :=
  ⟨"Heading", ["North", "East", "South", "West"]⟩

structure Ship where
  name : String
  speed : Float32
  heading : String
  shields : Bool

namespace Ship

def initial : Ship :=
  ⟨"Nautilus", 0, "North", false⟩

def text (s : Ship) : String :=
  s.name ++ ": " ++ Floating.writeSingle s.speed ++ " knots heading " ++ s.heading ++
    ", shields " ++ if s.shields then "up" else "down"

/-- A ship's text has its name, its heading, and its speed as the text of a value. -/
theorem text_eq {C : Type} [Described C] (s : Ship) :
    s.text = s.name ++ ": " ++ (Value.float s.speed : Value C).text ++ " knots heading " ++
      s.heading ++ ", shields " ++ if s.shields then "up" else "down" :=
  rfl

def distance (s : Ship) (factor : Float) (jumps : Int32) : Float :=
  factor * s.speed.toFloat * Float.ofInt jumps.toInt

end Ship

/-- The objects of a demo host: snapshots of the ship, and those of another host. -/
inductive Content (C : Type) where
  | snapshot (ship : Ship)
  | other (content : C)

namespace Content

variable {C : Type}

def ship? : Content C → Option Ship
  | .snapshot ship => some ship
  | .other _ => none

instance [Described C] : Described (Content C) where
  typeName
    | .snapshot _ => "ShipStatus"
    | .other content => Described.typeName content
  text
    | .snapshot ship => ship.text
    | .other content => Described.text content

end Content

/-- A run that changes the state and gives nothing. -/
def change {C σ : Type} (s : σ) (r : Except AccessFault σ) : Reply C σ :=
  match r with
  | .ok t => ⟨t, .ok none⟩
  | .error f => ⟨s, .error (.ofMessage f.message)⟩

/-- A run that gives a value and keeps the state. -/
def answer {C σ : Type} (s : σ) (r : Except AccessFault (Value C)) : Reply C σ :=
  ⟨s, match r with
    | .ok v => .ok (some v)
    | .error f => .error (.ofMessage f.message)⟩

namespace Ship

variable {C : Type} [Described C]

/-- The operations of the ship. -/
def declarations : List (Declaration (Content C) Ship) :=
  [{ name := "SetSpeed", parameters := [⟨"value", .float⟩], marked := true
     body := fun _ a s => change s do return { s with speed := ← a.float 0 } },
   { name := "GetSpeed", parameters := [], marked := true
     body := fun _ _ s => answer s (.ok (.float s.speed)) },
   { name := "Turn", parameters := [⟨"heading", .enum Demo.heading⟩], marked := true
     body := fun _ a s => change s do return { s with heading := ← a.member 0 } },
   { name := "Heading", parameters := [], marked := true
     body := fun _ _ s => answer s (.ok (.member Demo.heading.name s.heading)) },
   { name := "Rename", parameters := [⟨"name", .string⟩], marked := true
     body := fun _ a s => change s do return { s with name := ← a.string 0 } },
   { name := "Shields", parameters := [⟨"on", .bool⟩], marked := true
     body := fun _ a s => change s do return { s with shields := ← a.bool 0 } },
   { name := "Warp", parameters := [⟨"factor", .double⟩, ⟨"jumps", .int⟩], marked := true
     body := fun _ a s => answer s do
      let factor ← a.double 0
      let jumps ← a.int 1
      return .string (s.name ++ " travelled " ++
        Floating.writeDouble (s.distance factor jumps) ++ " leagues") },
   { name := "Status", parameters := [], marked := true
     body := fun run _ s => answer s (.ok (.object ⟨⟨run, 0⟩, .snapshot s⟩)) },
   { name := "Restore", parameters := [⟨"status", .object "ShipStatus"⟩], marked := true
     body := fun _ a s => change s (a.object Content.ship? 0) }]

end Ship

end HostConsole.Demo
