import HostConsole.Proofs.Demo.Installed
import HostConsole.Proofs.Session.Keeping

/-! Headings. That one is of the four that are declared is checked where a text is read, and
nowhere else: a member is taken for what it says, and so is a snapshot. That is enough, since all
headings come from there, by way of the ship, of variables and of snapshots. -/

namespace HostConsole.Demo

/-- One of the four headings, as it is declared. -/
def IsHeading (name : String) : Prop :=
  name ∈ heading.members

variable {C : Type}

/-- A value whose headings are declared: a member is one of them, and an object has one. -/
inductive Declared : Value (Content C) → Prop where
  | int (n : Int32) : Declared (.int n)
  | float (x : Float32) : Declared (.float x)
  | double (x : Float) : Declared (.double x)
  | bool (b : Bool) : Declared (.bool b)
  | string (s : String) : Declared (.string s)
  | member {name : String} (h : IsHeading name) : Declared (.member heading.name name)
  | snapshot {i : Identity} {ship : Ship} (h : IsHeading ship.heading) :
      Declared (.object ⟨i, .snapshot ship⟩)

variable [Described C]

/-- Reading as a heading gives a declared one, and reading as any other type no heading. -/
theorem declared_of_coerce {v w : Value (Content C)} {type : Ty} (hv : Declared v)
    (he : ∀ e, type = .enum e → e = heading) (h : coerce v type = .ok w) : Declared w := by
  rcases eq_or_text_of_coerce h with ⟨rfl, -⟩ | ⟨text, -, hw⟩
  · exact hv
  · cases w with
    | int | float | double | bool | string => constructor
    | object o => exact absurd hw (coerceText_ne_object text type o)
    | member typeName name =>
      cases type with
      | enum e =>
        obtain rfl := he e rfl
        obtain ⟨_, hmem, hname⟩ := mem_of_coerceText_enum hw
        cases hname
        exact .member hmem
      | any => cases hw
      | int | float | double | bool | string | object => cases hasType_of_coerceText hw

/-! ### Arguments -/

section

variable {a : Arguments (Content C)} {i : Nat}

theorem exists_of_get {α : Type} {expected : String} {view : Value (Content C) → Option α} {x : α}
    (h : a.get expected view i = .ok x) : ∃ v ∈ a.values, view v = some x := by
  obtain ⟨v, hv, hx⟩ := Call.bind_eq_ok_iff.1 h
  refine ⟨v, ?_, ?_⟩
  · rw [Arguments.value] at hv
    split at hv
    next w hw =>
      cases hv
      exact List.mem_of_getElem? hw
    · cases hv
  · split at hx
    next y hy =>
      cases hx
      exact hy
    · cases hx

variable (ha : ∀ v ∈ a.values, Declared v)

include ha

theorem isHeading_of_member {name : String} (h : a.member i = .ok name) : IsHeading name := by
  obtain ⟨v, hv, hview⟩ := exists_of_get h
  cases ha v hv with
  | member hname =>
    cases hview
    exact hname
  | int | float | double | bool | string | snapshot => cases hview

theorem isHeading_of_object {ship : Ship} (h : a.object Content.ship? i = .ok ship) :
    IsHeading ship.heading := by
  obtain ⟨o, ho, hship⟩ := Call.bind_eq_ok_iff.1 h
  obtain ⟨v, hv, hview⟩ := exists_of_get ho
  cases ha v hv with
  | snapshot hs =>
    cases hview
    cases hship
    exact hs
  | int | float | double | bool | string | member => cases hview

end

/-! ### Operations -/

variable {H : Host}

/-- Declared headings everywhere. -/
def headings : Invariant (host H) where
  value := Declared
  state
    | .ship, s => IsHeading (s : Ship).heading
    | .calculator, _ => True
    | .other _, _ => True
  text := .string

namespace Headings

section

variable {a : Arguments (Content H.Content)} {number : Nat} {s : Ship} {c : Calculator}

theorem answers_change {r : Except AccessFault Ship} (hs : IsHeading s.heading)
    (hr : ∀ t, r = .ok t → IsHeading t.heading) :
    (headings (H := H)).Answers .ship (change s r) := by
  cases r with
  | ok t => exact ⟨hr t rfl, nofun⟩
  | error f => exact ⟨hs, nofun⟩

theorem answers_answer {k : Kind H.Kind} {state : (host H).State k} (hs : headings.state k state)
    {r : Except AccessFault (host H).Value} (hr : ∀ v, r = .ok v → Declared v) :
    (headings (H := H)).Answers k (answer state r) := by
  cases r with
  | ok v =>
    refine ⟨hs, fun w hw => ?_⟩
    cases hw
    exact hr v rfl
  | error f => exact ⟨hs, nofun⟩

theorem answers_evaluation {r : Except Failure (host H).Value} (hr : ∀ v, r = .ok v → Declared v) :
    (headings (H := H)).Answers .calculator (c.evaluation r) := by
  cases r with
  | ok v =>
    refine ⟨trivial, fun w hw => ?_⟩
    cases hw
    exact hr v rfl
  | error f => exact ⟨trivial, nofun⟩

/-- A control that is set to an argument, if the argument is there. -/
theorem answers_set {α : Type} {x : Except AccessFault α} {f : α → Ship} (hs : IsHeading s.heading)
    (hf : ∀ y, x = .ok y → IsHeading (f y).heading) :
    (headings (H := H)).Answers .ship (change s (x >>= fun y => .ok (f y))) := by
  cases x with
  | ok y => exact ⟨hf y rfl, nofun⟩
  | error f => exact ⟨hs, nofun⟩

theorem declared_of_bind {ε α : Type} {x : Except ε α} {f : α → Except ε (host H).Value}
    (hf : ∀ y v, f y = .ok v → Declared v) : ∀ v, x >>= f = .ok v → Declared v := by
  intro v hv
  obtain ⟨y, -, hy⟩ := Call.bind_eq_ok_iff.1 hv
  exact hf y v hy

theorem answers_ship (ha : ∀ v ∈ a.values, Declared v) (hs : IsHeading s.heading) :
    ∀ d ∈ (Ship.declarations : List (Declaration (Content H.Content) Ship)),
      (headings (H := H)).Answers .ship (d.body number a s) := by
  have hstate : (headings (H := H)).state .ship s := hs
  simp only [Ship.declarations, List.forall_mem_cons]
  refine ⟨?speed, ?getSpeed, ?turn, ?heading, ?rename, ?shields, ?warp, ?status, ?restore,
    List.forall_mem_nil _⟩
  case speed | rename | shields => exact answers_set hs fun _ _ => hs
  case turn => exact answers_set hs fun _ => isHeading_of_member ha
  case restore => exact answers_change hs fun _ => isHeading_of_object ha
  case getSpeed => exact answers_answer hstate (by rintro _ ⟨⟩; exact .float _)
  case heading => exact answers_answer hstate (by rintro _ ⟨⟩; exact .member hs)
  case status => exact answers_answer hstate (by rintro _ ⟨⟩; exact .snapshot hs)
  case warp =>
    refine answers_answer hstate (declared_of_bind fun factor => declared_of_bind fun jumps => ?_)
    rintro _ ⟨⟩
    exact .string _

theorem answers_calculator (ha : ∀ v ∈ a.values, Declared v) :
    ∀ d ∈ (Calculator.declarations : List (Declaration (Content H.Content) Calculator)),
      (headings (H := H)).Answers .calculator (d.body number a c) := by
  have hstate : ∀ c : Calculator, (headings (H := H)).state .calculator c := fun _ => trivial
  simp only [Calculator.declarations, List.forall_mem_cons]
  refine ⟨?add, ?mul, ?concat, ?search, ?echo, ?count, ?reset, List.forall_mem_nil _⟩
  case add =>
    refine answers_evaluation (declared_of_bind fun m => declared_of_bind fun n =>
      declared_of_bind fun k => ?_)
    rintro _ ⟨⟩
    exact .int k
  case mul =>
    refine answers_evaluation (declared_of_bind fun x => declared_of_bind fun y => ?_)
    rintro _ ⟨⟩
    exact .double _
  case concat =>
    refine answers_evaluation (declared_of_bind fun x => declared_of_bind fun y => ?_)
    rintro _ ⟨⟩
    exact .string _
  case search =>
    refine answers_evaluation (declared_of_bind fun pattern => declared_of_bind fun text =>
      declared_of_bind fun b => ?_)
    rintro _ ⟨⟩
    exact .bool b
  case echo =>
    -- the one operation that hands a member or an object on
    refine answers_answer (hstate c) fun v hv => ?_
    rw [Arguments.value] at hv
    split at hv
    next w hw =>
      cases hv
      exact ha _ (List.mem_of_getElem? hw)
    · cases hv
  case count => exact answers_answer (hstate c) (by rintro _ ⟨⟩; exact .int _)
  case reset => exact ⟨trivial, nofun⟩

/-- An operation that asks for no other member than a heading can only be handed declared ones. -/
theorem keeps_of_answers {o : Operation (host H)}
    (he : ∀ p ∈ o.parameters, ∀ e, p.type = .enum e → e = heading)
    (hb : ∀ number a state, (∀ v ∈ a.values, Declared v) → headings.state o.owner state →
      headings.Answers o.owner (o.declaration.body number a state)) :
    headings.Keeps o := by
  intro number a state hfit hs
  have ha : ∀ w ∈ a.values, Declared w := by
    intro w hw
    obtain ⟨i, hi⟩ := List.mem_iff_getElem?.1 hw
    have hlt : i < o.parameters.length := (List.getElem?_eq_some_iff.1 hi).1.trans_eq hfit.1
    obtain ⟨v, _, hi', hc, hv⟩ := hfit.2 i _ (List.getElem?_eq_getElem hlt)
    rw [hi] at hi'
    cases hi'
    exact declared_of_coerce hv (he _ (List.getElem_mem hlt)) hc
  exact ⟨ha, hb number a state ha hs⟩

theorem keeps_ship : ∀ d ∈ (ship (H := H) .initial).declarations,
    (headings (H := H)).Keeps ⟨.ship, d⟩ := by
  intro d hd
  have he : ∀ d ∈ (Ship.declarations : List (Declaration (Content H.Content) Ship)),
      ∀ p ∈ d.parameters, ∀ e, p.type = .enum e → e = heading := by
    simp [Ship.declarations]
  exact keeps_of_answers (he d hd) fun number a state ha hs => answers_ship ha hs d hd

theorem keeps_calculator : ∀ d ∈ (calculator (H := H) .initial).declarations,
    (headings (H := H)).Keeps ⟨.calculator, d⟩ := by
  intro d hd
  have he : ∀ d ∈ (Calculator.declarations : List (Declaration (Content H.Content) Calculator)),
      ∀ p ∈ d.parameters, ∀ e, p.type = .enum e → e = heading := by
    simp [Calculator.declarations]
  exact keeps_of_answers (he d hd) fun number a state ha _ => answers_calculator ha d hd

end

end Headings

/-! ### Whole runs -/

/-- What a host does that has the demo's targets and no others, and sets no heading of its own. -/
inductive OfDemo : Action (host H) → Prop where
  | ship {s : Ship} (h : IsHeading s.heading) : OfDemo (.register (Demo.ship s))
  | calculator (c : Calculator) : OfDemo (.register (Demo.calculator c))
  | help : OfDemo .help
  | evaluate (held : List (Kind H.Kind)) (line : String) : OfDemo (.evaluate held line)
  | attempt (held : List (Kind H.Kind)) (line : String) : OfDemo (.attempt held line)
  | steer {s : Ship} (h : IsHeading s.heading) : OfDemo (.change .ship s)
  | count (c : Calculator) : OfDemo (.change .calculator c)

theorem OfDemo.permits {a : Action (host H)} (h : OfDemo a) : headings.Permits a := by
  cases h with
  | ship h => exact ⟨h, Headings.keeps_ship⟩
  | calculator c => exact ⟨trivial, Headings.keeps_calculator⟩
  | help | evaluate | attempt | count => trivial
  | steer h => exact h

/-- Where the demo's targets are the only ones, the ship has a declared heading at any time, and so
has whatever a variable has, an operation is handed or gives, or a line comes to. -/
theorem headings_of_run (settings : Settings) {actions : List (Action (host H))}
    (h : ∀ a ∈ actions, OfDemo a) :
    let s : Session (host H) := (Session.new settings).afterAll actions
    let past : List (Run (host H)) := (Session.new settings).madeAll actions
    (∀ ship : Ship, Tracked.find? (H := host H) .ship s.targets = some ship →
      IsHeading ship.heading) ∧
    (∀ n v, s.bindings.find? n = some v → Declared v) ∧
    ∀ held line,
      let o := s.attempt held line
      (∀ v, o.result = .ok (some v) ∨ (s.evaluate held line).value? = some v → Declared v) ∧
      (∀ r ∈ past ++ o.runs,
        (∀ v ∈ r.arguments.values, Declared v) ∧ ∀ v, r.value = some v → Declared v) ∧
      ∀ (i : Nat) (ship : Ship), Tracked.find? (H := host H) .ship s.targets = some ship →
        let later : Ship := (o.runs.take i).foldl (Run.advance (H := host H) .ship) ship
        IsHeading later.heading := by
  intro s past
  have hs : s.Sound := Session.sound_afterAll settings actions
  have hb : s.BoundBy past := Session.boundBy_madeAll settings actions
  have hall : headings.Holds s past :=
    Invariant.holds_afterAll settings fun a ha => (h a ha).permits
  refine ⟨hall.targets .ship, fun n v hv => ?_, fun held line => ⟨fun v hv => ?_, ?_, ?_⟩⟩
  · exact Invariant.value_of_givenBy hall.runs (hb n v hv)
  · rw [Session.value?_evaluate, or_self] at hv
    exact hall.result hs hb hv
  · intro r hr
    have hgood : headings.Good r := by
      rcases List.mem_append.1 hr with hr | hr
      · exact hall.runs r hr
      · exact hall.line_runs hb (hs.attempts held line) r hr
    exact ⟨hgood.arguments, hgood.value⟩
  · exact fun i => (hall.line hb (hs.attempts held line) i).2 .ship

theorem headings_of_run_status :
    let actions : List (Action (host noHost)) :=
      [.register (ship .initial), .register (calculator .initial), .attempt [] "n = Status"]
    let s : Session (host noHost) := (Session.new ⟨false, false⟩).afterAll actions
    let status : (host noHost).Value := .object ⟨⟨0, 0⟩, .snapshot .initial⟩
    (∀ a ∈ actions, OfDemo a) ∧ s.bindings.find? "n" = some status ∧ Declared status ∧
      ∃ ship : Ship, Tracked.find? (H := host noHost) .ship s.targets = some ship ∧
        IsHeading ship.heading := by
  intro actions s status
  have hactions : ∀ a ∈ actions, OfDemo a := by
    have hinitial : IsHeading Ship.initial.heading := .head _
    simpa [actions] using ⟨.ship hinitial, .calculator _, .attempt _ _⟩
  have hsplit : splitAssignment "n = Status".toList = some (['n', ' '], " Status".toList) := rfl
  have hc : Call.parse (Text.trim " Status".toList) = .ok ⟨"Status", []⟩ := by
    rw [Call.parse_trim, Call.parse_of_not_mem (by decide)]
    rfl
  have hs : s.bindings = Bindings.empty.insert "n" status := by
    simp only [s, actions, Session.afterAll, List.foldl_cons, List.foldl_nil, Session.after]
    rw [Session.attempt_assigning _ _ hsplit (by decide),
      Session.evaluateExpression_of_call _ _ rfl hc]
    rfl
  have hn : s.bindings.find? "n" = some status := by
    rw [hs, Bindings.find?_insert, if_pos rfl]
  obtain ⟨hship, hbound, -⟩ := headings_of_run ⟨false, false⟩ hactions
  obtain ⟨ship, hstate⟩ := @exists_ship noHost ⟨false, false⟩ [.attempt [] "n = Status"]
  exact ⟨hactions, hn, hbound "n" status hn, ship, hstate, hship ship hstate⟩

end HostConsole.Demo
