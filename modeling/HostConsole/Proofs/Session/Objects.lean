import HostConsole.Proofs.Session.Provenance

/-! Objects over whole runs. Each is one that a run has given, and what asks for an object
gets one of the type it names. A text in such a place ends the line. -/

namespace HostConsole

variable {H : Host}

/-! ### Texts in the place of objects -/

/-- A text stands where the operation that a call means takes an object. -/
structure Scope.Misplaces (s : Scope H) (n : Resolved H) (o : Operation H) (i : Nat)
    (text type : String) : Prop where
  known : Session.operation? s.operations n.call.name = some o
  parameter : ∃ p, o.parameters[i]? = some p ∧ p.type = .object type
  value : n.values[i]? = some (some (.string text))

namespace Scope.Misplaces

variable {s : Scope H} {n : Resolved H} {o : Operation H} {i : Nat} {text type : String}

theorem coerce_error (h : s.Misplaces n o i text type) :
    ∃ p, o.parameters[i]? = some p ∧
      coerce (C := H.Content) (.string text) p.type =
        .error (.unsupportedType text (.object type)) := by
  obtain ⟨p, hp, ht⟩ := h.parameter
  refine ⟨p, hp, ?_⟩
  rw [ht]
  exact coerce_text_object text type

theorem not_admits (h : s.Misplaces n o i text type) (operation : Operation H)
    (arguments : Arguments H.Content) : ¬ s.Admits n operation arguments := by
  intro ha
  obtain rfl : o = operation := Option.some.inj (h.known.symm.trans ha.known)
  obtain ⟨p, hp, hc⟩ := h.coerce_error
  -- a call that is admitted has had the text coerced
  obtain ⟨-, hfit⟩ := fits_of_coerceFrom ha.count ha.fits
  obtain ⟨_, w, hv, -, v, rfl, hw⟩ := hfit i p hp
  have hvt := h.value
  rw [hv] at hvt
  cases hvt
  rw [hc] at hw
  cases hw

/-- The fault is about the text if the arguments before it fit. -/
theorem fault_eq (h : s.Misplaces n o i text type) {f : Fault} (hf : s.Rejects n f)
    (hn : n.values.length = o.arity) (he : beginsEmpty n.call.arguments = false)
    (hall : ∀ j < i, ∃ q u w, o.parameters[j]? = some q ∧ n.values[j]? = some u ∧ Fits q u w) :
    f = .unsupportedType text (.object type) := by
  obtain ⟨p, hp, hc⟩ := h.coerce_error
  have hall' : coerceAll n.values o.parameters = .error (.unsupportedType text (.object type)) :=
    coerceFrom_error hp h.value hc hall
  cases hf with
  | unknown ho =>
    rw [h.known] at ho
    cases ho
  | arity ho ha =>
    rw [h.known] at ho
    cases ho
    rw [he] at ha
    rcases ha with ha | ha
    · exact absurd hn ha
    · cases ha
  | coercion ho _ _ hf =>
    rw [h.known] at ho
    cases ho
    rw [hall'] at hf
    cases hf
    rfl

end Scope.Misplaces

namespace Session

theorem Executes.not_mem_of_misplaces {s : Session H} {held : List H.Kind} {c : Call}
    {o : Outcome H} {done todo : List (Resolved H)} (h : s.Executes held c o done todo)
    {n : Resolved H} {operation : Operation H} {i : Nat} {text type : String}
    (hm : (s.scope held).Misplaces n operation i text type) : n ∉ done :=
  h.not_mem_of_not_admits hm.not_admits

theorem StopsAt.of_misplaces {s : Session H} {held : List H.Kind} {o : Outcome H}
    {n : Resolved H} (h : s.StopsAt held o n) {operation : Operation H} {i : Nat}
    {text type : String} (hm : (s.scope held).Misplaces n operation i text type) :
    ∃ f, o.result = .error f ∧ (s.scope held).Rejects n f := by
  cases h with
  | rejected hf ho => exact ⟨_, ho, hf⟩
  | inUse ha => exact absurd ha (hm.not_admits _ _)

/-- Every object that a variable has, an operation is handed or a line gives is one that an
earlier run has given. What takes an object gets one of the type it names, and nothing is run
for a call with a text in its place. -/
theorem objects_of_run (settings : Settings) (actions : List (Action H)) :
    let s : Session H := (new settings).afterAll actions
    let past := (new settings).madeAll actions
    (∀ n o, s.bindings.find? n = some (.object o) → GivenBy past (.object o)) ∧
    (∀ (i : Nat) (r : Run H), past[i]? = some r →
      (∀ o, .object o ∈ r.arguments.values → GivenBy (past.take i) (.object o)) ∧
      ∀ (j : Nat) (p : Parameter) type, r.operation.parameters[j]? = some p →
        p.type = .object type → ∃ o, r.arguments.values[j]? = some (.object o) ∧
          Described.typeName o.content = type ∧ GivenBy (past.take i) (.object o)) ∧
    ∀ held line,
      let outcome := s.attempt held line
      (∀ o, outcome.result = .ok (some (.object o)) ∨
        (s.evaluate held line).value? = some (.object o) →
        GivenBy (past ++ outcome.runs) (.object o)) ∧
      ∀ expression c, expression? line = some expression →
        s.bindings.find? (String.ofList (Text.trim expression)) = none →
        Call.parse expression = .ok c → ∃ done todo, s.Executes held c outcome done todo ∧
          ∀ n operation i text type, (s.scope held).Misplaces n operation i text type →
            n ∉ done ∧ (todo.head? = some n → (∀ r ∈ outcome.runs, r.Returned) →
              ∃ f, outcome.result = .error f ∧ (s.scope held).Rejects n f ∧
                (n.values.length = operation.arity → beginsEmpty n.call.arguments = false →
                  (∀ j < i, ∃ q u w, operation.parameters[j]? = some q ∧
                    n.values[j]? = some u ∧ Fits q u w) →
                  f = .unsupportedType text (.object type))) := by
  intro s past
  have hs : s.Sound := sound_afterAll settings actions
  have hbound : s.BoundBy past := boundBy_madeAll settings actions
  refine ⟨fun n o => hbound n _, fun i r hr => ?_, fun held line => ⟨fun o ho => ?_, ?_⟩⟩
  · have hsup : r.Supplied (past.take i) := supplied_madeAll settings actions hr
    exact ⟨fun o => hsup.object_of_mem, fun j p type => hsup.object_at⟩
  · rw [value?_evaluate, or_self] at ho
    exact (hs.attempts held line).given hbound ho
  · intro expression c hl hb hc
    obtain ⟨done, todo, hx⟩ := hs.executes_of_parse held hl hb hc
    refine ⟨done, todo, hx, fun n operation i text type hm => ?_⟩
    refine ⟨hx.not_mem_of_misplaces hm, fun hn hr => ?_⟩
    obtain ⟨f, ho, hf⟩ := (hx.stopsAt hn hr).of_misplaces hm
    exact ⟨f, ho, hf, hm.fault_eq hf⟩

theorem objects_of_run_status :
    let actions : List (Action (Demo.host Demo.noHost)) :=
      [.register (Demo.ship .initial), .attempt [] "s = Status"]
    let s : Session (Demo.host Demo.noHost) := (new ⟨true, false⟩).afterAll actions
    let status : Object (Demo.Content Empty) := ⟨⟨0, 0⟩, .snapshot .initial⟩
    s.bindings.find? "s" = some (.object status) ∧
      GivenBy ((new ⟨true, false⟩).madeAll actions) (.object status) ∧
      (s.attempt [] "Restore x").result = .error (.unsupportedType "x" (.object "ShipStatus")) := by
  intro actions s status
  have hsplit : splitAssignment "s = Status".toList =
      some (['s', ' '], " Status".toList) := rfl
  have hc : Call.parse (Text.trim " Status".toList) = .ok ⟨"Status", []⟩ := by
    rw [Call.parse_trim, Call.parse_of_not_mem (by decide)]
    rfl
  have hs : s.bindings = Bindings.empty.insert "s" (.object status) ∧
      s.operations = ((new ⟨true, false⟩).after (.register (Demo.ship .initial))).operations := by
    simp only [s, actions, afterAll, List.foldl_cons, List.foldl_nil, after]
    rw [attempt_assigning _ _ hsplit (by decide), evaluateExpression_of_call _ _ rfl hc]
    exact ⟨rfl, rfl⟩
  have hb : ∀ n, s.bindings.find? n = if n = "s" then some (.object status) else none := by
    intro n
    rw [hs.1, Bindings.find?_insert, Bindings.find?_empty]
  obtain ⟨restore, hop, hparam⟩ : ∃ o, operation? s.operations "Restore" = some o ∧
      o.parameters = [⟨"status", .object "ShipStatus"⟩] := by
    rw [hs.2]
    exact ⟨⟨.ship, Demo.Ship.declarations[8]⟩, rfl, rfl⟩
  have hrestore : Call.parse "Restore x".toList = .ok ⟨"Restore", [.text "x"]⟩ := by
    rw [Call.parse_of_not_mem (by decide)]
    rfl
  obtain ⟨hbound, -, hlines⟩ := objects_of_run ⟨true, false⟩ actions
  refine ⟨hb "s", hbound "s" status (hb "s"), ?_⟩
  obtain ⟨done, todo, hx, htext⟩ := (hlines [] "Restore x").2 _ _ rfl (hb "Restore x") hrestore
  let n : Resolved (Demo.host Demo.noHost) := ⟨⟨"Restore", [.text "x"]⟩, [some (.string "x")]⟩
  have hm : (s.scope []).Misplaces n restore 0 "x" "ShipStatus" :=
    ⟨hop, ⟨⟨"status", .object "ShipStatus"⟩, by rw [hparam]; rfl, rfl⟩, rfl⟩
  obtain ⟨hnot, hhead⟩ := htext n restore 0 "x" "ShipStatus" hm
  have hvalue : (s.scope []).valueOf "x" = .string "x" := by
    rw [Scope.valueOf, scope, hb]
    rfl
  have hall : done ++ todo = [n] := by
    rw [hx.values]
    simpa [Argument.ofCall, Scope.resolved, Scope.resolvedAll, Scope.valuesFrom,
      Scope.valueFrom, n] using hvalue
  obtain ⟨hn, hruns⟩ := hx.runs_eq_nil hall hnot
  have hreturned : ∀ r ∈ (s.attempt [] "Restore x").runs, r.Returned := by
    rw [hruns]
    simp
  obtain ⟨f, hf, -, hfault⟩ := hhead hn hreturned
  have harity : n.values.length = restore.arity := by
    rw [Operation.arity, hparam]
    rfl
  rw [hf, hfault harity rfl (by simp)]

end Session

end HostConsole
