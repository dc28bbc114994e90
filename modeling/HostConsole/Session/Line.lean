import HostConsole.Session.Evaluation

/-! Lines evaluated in a session. A line is an expression or an assignment
`name = expression`, and only an assignment that yields a value binds a name. -/

namespace HostConsole

/-- The two sides of the first equals sign, if it comes before any parenthesis. -/
def splitAssignment : List Char → Option (List Char × List Char)
  | [] => none
  | c :: r =>
    if c = '(' then none
    else if c = '=' then some ([], r)
    else (splitAssignment r).map fun p => (c :: p.1, p.2)

/-- What the evaluation of a line comes to. -/
structure Outcome (H : Host) where
  result : Except Fault (Option H.Value)
  session : Session H
  runs : List (Run H)
  log : List Entry

namespace Session

variable {H : Host}

def scope (s : Session H) (held : List H.Kind) : Scope H :=
  ⟨s.operations, s.bindings, held⟩

/-- An expression evaluated in a session, whose variables stay as they are. -/
def evaluateExpression (s : Session H) (held : List H.Kind) (text : List Char) : Outcome H :=
  let (result, p) := ((s.scope held).evaluate text).run.run ⟨s.targets, s.nextRun, [], []⟩
  ⟨result, { s with targets := p.targets, nextRun := p.nextRun }, p.runs, p.log⟩

/-- The session with a variable bound to the value that an outcome has, if any. -/
def bindResult (s : Session H) (name : String) : Except Fault (Option H.Value) → Session H
  | .ok (some v) => { s with bindings := s.bindings.insert name v }
  | _ => s

/-- A line evaluated while the host holds some targets, its outcome not reported. -/
def attempt (s : Session H) (held : List H.Kind) (line : String) : Outcome H :=
  match splitAssignment line.toList with
  | none => s.evaluateExpression held line.toList
  | some (left, right) =>
    let name := Text.trim left
    if name.isEmpty then ⟨.error .invalidAssignment, s, [], []⟩
    else
      let o := s.evaluateExpression held right
      { o with session := o.session.bindResult (String.ofList name) o.result }

/-- The entry that closes the report of a line. A line without a value has none. -/
def closing (settings : Settings) : Except Fault (Option H.Value) → List Entry
  | .ok (some v) => [⟨settings.resultLevel, v.text⟩]
  | .ok none => []
  | .error f => [⟨.error, f.message⟩]

/-- A line evaluated and its outcome reported. -/
def evaluate (s : Session H) (held : List H.Kind) (line : String) : Outcome H :=
  let o := s.attempt held line
  { o with log := o.log ++ closing s.settings o.result }

end Session

/-- The value that a reported evaluation hands back: none where it failed. -/
def Outcome.value? {H : Host} (o : Outcome H) : Option H.Value :=
  match o.result with
  | .ok v => v
  | .error _ => none

end HostConsole
