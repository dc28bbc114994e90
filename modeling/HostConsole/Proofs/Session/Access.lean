import HostConsole.Proofs.Session.Provenance

/-! Typed access to arguments over whole runs. The accessor of a declared type gives a value
whatever a line hands to an operation. What other operations have given fits a type by its name
alone, so a member can be of another enumeration, and an object of another host type. -/

namespace HostConsole

/-! ### Accessors -/

namespace Arguments

variable {C : Type} [Described C]

/-- What the accessor of a type gives at an index, where `given` are the values that operations
have given. -/
inductive Access (given : Value C → Prop) (a : Arguments C) (i : Nat) : Ty → Prop where
  | any {v : Value C} (h : a.value i = .ok v) : Access given a i .any
  | int {n : Int32} (h : a.int i = .ok n) : Access given a i .int
  | float {x : Float32} (h : a.float i = .ok x) : Access given a i .float
  | double {x : Float} (h : a.double i = .ok x) : Access given a i .double
  | bool {b : Bool} (h : a.bool i = .ok b) : Access given a i .bool
  | string {s : String} (h : a.string i = .ok s) : Access given a i .string
  | declared {e : Enumeration} {name : String} (h : a.member i = .ok name)
      (hm : name ∈ e.members) : Access given a i (.enum e)
  | member {e : Enumeration} {name : String} (h : a.member i = .ok name)
      (hg : given (.member e.name name)) : Access given a i (.enum e)
  | object {o : Object C} (hg : given (.object o))
      (h : ∀ {α : Type} (view : C → Option α), a.object view i = match view o.content with
        | some x => .ok x
        | none => .error (.foreignObject i (Described.typeName o.content))) :
      Access given a i (.object (Described.typeName o.content))

/-- What a declared type promises: a value at its accessor, of an enumeration one of its
members, and an object for every view of all contents that have the name of the type. -/
def Keeps (a : Arguments C) (i : Nat) : Ty → Prop
  | .any => ∃ v, a.value i = .ok v
  | .int => ∃ n, a.int i = .ok n
  | .float => ∃ x, a.float i = .ok x
  | .double => ∃ x, a.double i = .ok x
  | .bool => ∃ b, a.bool i = .ok b
  | .string => ∃ s, a.string i = .ok s
  | .enum e => ∃ name ∈ e.members, a.member i = .ok name
  | .object name => ∀ {α : Type} (view : C → Option α),
    (∀ content, Described.typeName content = name → (view content).isSome) →
      ∃ x, a.object view i = .ok x

variable {given : Value C → Prop} {a : Arguments C} {i : Nat} {v : Value C} {type : Ty}

theorem Access.keeps (h : a.Access given i type)
    (hm : ∀ e name, type = .enum e → given (.member e.name name) → name ∈ e.members) :
    a.Keeps i type := by
  cases h with
  | any h | int h | float h | double h | bool h | string h => exact ⟨_, h⟩
  | declared h hname => exact ⟨_, hname, h⟩
  | member h hg => exact ⟨_, hm _ _ rfl hg, h⟩
  | @object o hg h =>
    intro α view hview
    obtain ⟨x, hx⟩ := Option.isSome_iff_exists.1 (hview o.content rfl)
    exact ⟨x, by rw [h, hx]⟩

omit [Described C] in
theorem value_of_getElem? (hv : a.values[i]? = some v) : a.value i = .ok v := by
  rw [value, hv]

theorem get_of_getElem? {α : Type} {view : Value C → Option α} {x : α}
    (hv : a.values[i]? = some v) (hx : view v = some x) (expected : String) :
    get expected view a i = .ok x := by
  rw [get, value_of_getElem? hv]
  change (match view v with
    | some x => pure x
    | none => throw _) = _
  rw [hx]
  rfl

theorem object_of_getElem? {o : Object C} (ho : a.values[i]? = some (.object o)) {α : Type}
    (view : C → Option α) : a.object view i = match view o.content with
      | some x => .ok x
      | none => .error (.foreignObject i (Described.typeName o.content)) := by
  rw [object, get_of_getElem? (x := o) ho rfl]
  rfl

/-- The accessor of a type gives a value wherever there is one of the type. -/
theorem access_of_hasType (hv : a.values[i]? = some v) (ht : v.hasType type = true)
    (hm : ∀ e name, type = .enum e → v = .member e.name name → name ∈ e.members ∨ given v)
    (ho : ∀ o, v = .object o → given v) : a.Access given i type := by
  cases type with
  | any => exact .any (value_of_getElem? hv)
  | int =>
    cases v with
    | int n => exact .int (get_of_getElem? hv (by rfl) "int")
    | float | double | bool | string | member | object => cases ht
  | float =>
    cases v with
    | float x => exact .float (get_of_getElem? hv (by rfl) "float")
    | int | double | bool | string | member | object => cases ht
  | double =>
    cases v with
    | double x => exact .double (get_of_getElem? hv (by rfl) "double")
    | int | float | bool | string | member | object => cases ht
  | bool =>
    cases v with
    | bool b => exact .bool (get_of_getElem? hv (by rfl) "bool")
    | int | float | double | string | member | object => cases ht
  | string =>
    cases v with
    | string s => exact .string (get_of_getElem? hv (by rfl) "string")
    | int | float | double | bool | member | object => cases ht
  | enum e =>
    obtain ⟨name, rfl⟩ := eq_member_of_hasType ht
    have hname : a.member i = .ok name := get_of_getElem? hv (by rfl) "enum"
    rcases hm e name rfl rfl with hmem | hg
    · exact .declared hname hmem
    · exact .member hname hg
  | object name =>
    obtain ⟨o, rfl, rfl⟩ := eq_object_of_hasType ht
    exact .object (ho o rfl) (object_of_getElem? hv)

end Arguments

/-! ### Runs -/

variable {H : Host}

theorem Run.Supplied.access {before : List (Run H)} {r : Run H} (h : r.Supplied before) {i : Nat}
    {p : Parameter} (hp : r.operation.parameters[i]? = some p) :
    r.arguments.Access (GivenBy before) i p.type := by
  obtain ⟨v, w, hw, hc, hv⟩ := h.source i p hp
  refine Arguments.access_of_hasType hw (hasType_of_coerce hc) ?_ ?_
  · rintro e name ht rfl
    rw [ht] at hc
    rcases eq_or_text_of_coerce hc with ⟨rfl, -⟩ | ⟨text, -, hm⟩
    · rcases hv with ⟨text, ht⟩ | hg
      · cases ht
      · exact .inr hg
    · obtain ⟨_, hmem, hname⟩ := mem_of_coerceText_enum hm
      cases hname
      exact .inl hmem
  · rintro o rfl
    exact h.object_of_mem (List.mem_of_getElem? hw)

namespace Session

/-- The accessor of a declared type never fails on its own argument, but for an object of a
type that only has the name of the one looked for. A member that is not of the enumeration, and
such an object, are ones that an earlier run has given. -/
theorem access_of_run (settings : Settings) (actions : List (Action H)) :
    let past : List (Run H) := (new settings).madeAll actions
    ∀ (i : Nat) (r : Run H), past[i]? = some r →
      ∀ (j : Nat) (p : Parameter), r.operation.parameters[j]? = some p →
        r.arguments.Access (GivenBy (past.take i)) j p.type ∧
        ((∀ e name, p.type = .enum e → GivenBy (past.take i) (.member e.name name) →
          name ∈ e.members) → r.arguments.Keeps j p.type) := by
  intro past i r hr j p hp
  have ha := (supplied_madeAll settings actions hr).access hp
  exact ⟨ha, ha.keeps⟩

theorem access_of_run_turn :
    let actions : List (Action (Demo.host Demo.noHost)) :=
      [.register (Demo.ship .initial), .attempt [] "Turn north"]
    let past := (new ⟨true, false⟩ : Session (Demo.host Demo.noHost)).madeAll actions
    ∃ r, past[0]? = some r ∧ r.operation.parameters[0]? = some ⟨"heading", .enum Demo.heading⟩ ∧
      ∃ name ∈ Demo.heading.members, r.arguments.member 0 = .ok name := by
  intro actions past
  have hc : Call.parse (Text.trim "Turn north".toList) = .ok ⟨"Turn", [.text "north"]⟩ := by
    rw [Call.parse_trim, Call.parse_of_not_mem (by decide)]
    rfl
  obtain ⟨r, hr, hp⟩ : ∃ r, past[0]? = some r ∧
      r.operation.parameters[0]? = some ⟨"heading", .enum Demo.heading⟩ := by
    simp only [past, actions, madeAll, made]
    rw [attempt_of_none _ _ rfl, evaluateExpression_of_call _ _ rfl hc]
    exact ⟨_, rfl, rfl⟩
  refine ⟨r, hr, hp, ?_⟩
  refine (access_of_run ⟨true, false⟩ actions 0 r hr 0 _ hp).2 ?_
  rintro e name - ⟨t, ht, -⟩
  cases ht

end Session

/-! ### Values of another target -/

namespace Demo

/-- An object of a host's own that has the name of the type of the ship's. -/
inductive Wreck where
  | wreck

instance : Described Wreck :=
  ⟨fun _ => "ShipStatus", fun _ => "wreck"⟩

/-- A host with a sea beside the demo's targets. -/
@[reducible]
def seaHost : Host where
  Kind := Unit
  decEqKind := inferInstance
  kindName _ := "Sea"
  State _ := Unit
  Content := Wreck
  described := inferInstance

/-- A target that gives a heading the ship does not know, and an object that is no snapshot. -/
def sea : Target (host seaHost) where
  kind := .other ()
  state := ()
  declarations :=
    [{ name := "Drift", parameters := [], marked := true
       body := fun _ _ s => ⟨s, .ok (some (.member Demo.heading.name "Adrift"))⟩ },
     { name := "Salvage", parameters := [], marked := true
       body := fun run _ s => ⟨s, .ok (some (.object ⟨⟨run, 0⟩, .other .wreck⟩))⟩ }]

def sailing : Session (host seaHost) :=
  (Session.new ⟨true, false⟩).afterAll [.register (ship .initial), .register sea]

end Demo

namespace Session

/-- A member that its enumeration lacks, and an object that is not of the host type looked for,
reach an operation that declares them by name. -/
theorem access_fails_by_name_alone :
    (∃ r ∈ (Demo.sailing.attempt [] "Turn(Drift())").runs,
      r.operation.parameters = [⟨"heading", .enum Demo.heading⟩] ∧
        r.arguments.member 0 = .ok "Adrift" ∧ "Adrift" ∉ Demo.heading.members) ∧
    ∃ r ∈ (Demo.sailing.attempt [] "Restore(Salvage())").runs,
      r.operation.parameters = [⟨"status", .object "ShipStatus"⟩] ∧
        (∀ content : Demo.Content Demo.Wreck, content.ship?.isSome →
          Described.typeName content = "ShipStatus") ∧
        r.arguments.object Demo.Content.ship? 0 = .error (.foreignObject 0 "ShipStatus") := by
  have hturn : Call.parse (Text.trim "Turn(Drift())".toList) =
      .ok ⟨"Turn", [.call "Drift" []]⟩ :=
    (Call.parse_trim _).trans (Call.parse_call_of_call
      (Call.wellFormed_bare "Turn" (by decide) rfl (by decide))
      (Call.wellFormed_bare "Drift" (by decide) rfl (by decide)))
  have hrestore : Call.parse (Text.trim "Restore(Salvage())".toList) =
      .ok ⟨"Restore", [.call "Salvage" []]⟩ :=
    (Call.parse_trim _).trans (Call.parse_call_of_call
      (Call.wellFormed_bare "Restore" (by decide) rfl (by decide))
      (Call.wellFormed_bare "Salvage" (by decide) rfl (by decide)))
  constructor
  · rw [attempt_of_none _ _ rfl, evaluateExpression_of_call _ _ rfl hturn]
    exact ⟨_, .tail _ (.head _), rfl, rfl, by decide⟩
  · rw [attempt_of_none _ _ rfl, evaluateExpression_of_call _ _ rfl hrestore]
    refine ⟨_, .tail _ (.head _), rfl, ?_, rfl⟩
    rintro (ship | content) h
    · rfl
    · cases h

end Session

end HostConsole
