import HostConsole.Proofs.Call.Reading
import HostConsole.Proofs.Evaluation.Coercion
import HostConsole.Proofs.Session.Reachable

/-! What a line runs. Where its expression is a call, the first calls of its tree in
post-order have run, each once and in that order. The line fails at the call behind them,
or at the last of them where its run failed. -/

namespace HostConsole

variable {H : Host}

/-- A fault of a line that has no call to run. -/
inductive Fault.OfLine : Fault → Prop where
  | invalid : OfLine .invalidAssignment
  | malformed (input : String) (cause : CallFault) : OfLine (.malformed input cause)

/-- A fault that turns down a call whose arguments have been evaluated. -/
inductive Fault.OfCall : Fault → Prop where
  | unknown (name : String) : OfCall (.unknownCommand name)
  | arity (signature name arguments : String) : OfCall (.arityMismatch signature name arguments)
  | argument {f : Fault} (h : f.OfArgument) : OfCall f

theorem Fault.OfLine.not_ofCall {f : Fault} (h : f.OfLine) : ¬ f.OfCall := by
  rintro (_ | _ | hf)
  · cases h
  · cases h
  · cases h <;> cases hf

theorem Run.Returned.result_eq {r : Run H} (h : r.Returned) : r.result = .ok r.value := by
  obtain ⟨v, hv⟩ := h
  rw [value, hv]

namespace Scope

theorem Rejects.ofCall {s : Scope H} {n : Resolved H} {f : Fault} (h : s.Rejects n f) :
    f.OfCall := by
  cases h with
  | unknown => exact .unknown _
  | arity => exact .arity _ _ _
  | coercion _ _ _ hf => exact .argument (coerceFrom_fault hf)

namespace Ends

variable {α : Type} {s : Scope H} {p : Progress H} {todo : List (Resolved H)}
  {rs : List (Run H)} {v : α} {res : Except Fault α}

theorem returned (h : s.Ends p todo rs v res) : ∀ r ∈ rs.dropLast, r.Returned := by
  cases h with
  | complete _ hr => exact fun r h => hr r (List.dropLast_subset rs h)
  | stuck _ hr => exact fun r h => hr r (List.dropLast_subset rs h)
  | failed _ hr _ => exact hr

theorem rejected {f : Fault} (h : s.Ends p todo rs v res) (he : res = .error f)
    (hf : ∀ name cause, f ≠ .invocation name cause) :
    (∀ r ∈ rs, r.Returned) ∧ ∃ n, todo.head? = some n ∧ s.Rejects n f := by
  subst he
  cases h with
  | failed => exact absurd rfl (hf _ _)
  | @stuck n _ ht hr h =>
    cases h with
    | rejected h => exact ⟨hr, n, ht, h⟩
    | untracked => exact absurd rfl (hf _ _)
    | inUse => exact absurd rfl (hf _ _)

theorem invocation {name : String} {cause : InvocationCause}
    (h : s.Ends p todo rs v res) (he : res = .error (.invocation name cause))
    (htracked : ∀ n o arguments, s.Admits n o arguments →
      Tracked.find? o.owner p.targets ≠ none) :
    (∃ r f, rs.getLast? = some r ∧ r.result = .error f ∧ name = r.operation.name ∧
      cause = .failed f) ∨
    (∀ r ∈ rs, r.Returned) ∧ ∃ n o arguments, todo.head? = some n ∧ s.Admits n o arguments ∧
      o.owner ∈ s.held ∧ name = o.name ∧ cause = .inUse o.ownerName := by
  subst he
  cases h with
  | @failed r f hl _ hf => exact .inl ⟨r, f, hl, hf, rfl, rfl⟩
  | @stuck n _ ht hr h =>
    cases h with
    | rejected h =>
      cases h.ofCall with
      | argument h => cases h
    | @untracked o arguments h hn => exact absurd hn (htracked n o arguments h)
    | @inUse o arguments h hh => exact .inr ⟨hr, n, o, arguments, ht, h, hh, rfl, rfl⟩

end Ends

/-- The value of a call that has run is that of the last run. -/
theorem exists_last_of_complete {s : Scope H} {c : Call} {rs : List (Run H)}
    {done : List (Resolved H)}
    (ho : s.resolved (rs.map Run.value) (.ofCall c) = done ++ [])
    (hd : List.Forall₂ (fun n r => s.Admits n r.operation r.arguments) done rs) :
    ∃ r, rs.getLast? = some r ∧ s.valueFrom (rs.map Run.value) (.ofCall c) = r.value := by
  have hlen : rs.length = (Argument.callsAll c.arguments).length + 1 := by
    have h := length_of_complete ho hd
    rw [List.length_map, length_resolved] at h
    simpa [Argument.ofCall, Argument.calls] using h
  refine ⟨rs[(Argument.callsAll c.arguments).length], ?_, ?_⟩
  · simp [List.getLast?_eq_getElem?, hlen]
  · simp [Argument.ofCall, valueFrom, hlen]

end Scope

namespace Session

/-- How a line ran whose expression is the call `c`. Of the calls of its tree those in `done`
have run, and those in `todo` have not. -/
structure Executes (s : Session H) (held : List H.Kind) (c : Call) (o : Outcome H)
    (done todo : List (Resolved H)) : Prop where
  order : (done ++ todo).map Resolved.call = c.postorder
  values : done ++ todo = (s.scope held).resolved (o.runs.map Run.value) (.ofCall c)
  runs : List.Forall₂ (fun n r => (s.scope held).Admits n r.operation r.arguments) done o.runs
  /-- Each run is made on the state that its target has behind the runs before it. -/
  steps : ∀ i r, o.runs[i]? = some r → r.number = s.nextRun + i ∧ r.operation.owner ∉ held ∧
    ∃ state, Tracked.find? r.operation.owner s.targets = some state ∧
      r.result =
        (r.reply ((o.runs.take i).foldl (Run.advance r.operation.owner) state)).result
  targets : ∀ k, Tracked.find? k o.session.targets =
    (Tracked.find? k s.targets).map fun state => o.runs.foldl (Run.advance k) state
  returned : ∀ r ∈ o.runs.dropLast, r.Returned
  ok : ∀ v, o.result = .ok v → todo = [] ∧ ∃ r, o.runs.getLast? = some r ∧ r.result = .ok v
  rejected : ∀ f, o.result = .error f → (∀ name cause, f ≠ .invocation name cause) →
    (∀ r ∈ o.runs, r.Returned) ∧ ∃ n, todo.head? = some n ∧ (s.scope held).Rejects n f
  invocation : ∀ name cause, o.result = .error (.invocation name cause) →
    (∃ r f, o.runs.getLast? = some r ∧ r.result = .error f ∧ name = r.operation.name ∧
      cause = .failed f) ∨
    (∀ r ∈ o.runs, r.Returned) ∧ ∃ n operation arguments, todo.head? = some n ∧
      (s.scope held).Admits n operation arguments ∧ operation.owner ∈ held ∧
      name = operation.name ∧ cause = .inUse operation.ownerName

theorem next_of_nextAll {s : Session H} {held : List H.Kind} {rs : List (Run H)}
    (h : s.start.NextAll held rs) {i : Nat} {r : Run H} (hr : rs[i]? = some r) :
    r.number = s.nextRun + i ∧ r.operation.owner ∉ held ∧
      ∃ state, Tracked.find? r.operation.owner s.targets = some state ∧
        r.result = (r.reply ((rs.take i).foldl (Run.advance r.operation.owner) state)).result := by
  obtain ⟨hn, hh, state, ht, hres⟩ := h.getElem? hr
  have hi : i < rs.length := (List.getElem?_eq_some_iff.1 hr).1
  rw [Progress.nextRun_performAll, List.length_take, Nat.min_eq_left (Nat.le_of_lt hi)] at hn
  rw [Progress.find?_performAll, Option.map_eq_some_iff] at ht
  obtain ⟨first, hf, rfl⟩ := ht
  exact ⟨hn, hh, first, hf, hres⟩

/-- In a session that a host can come to, no operation is without a target. -/
theorem Sound.not_untracked {s : Session H} (hs : s.Sound) {held : List H.Kind}
    {rs : List (Run H)} {n : Resolved H} {o : Operation H} {arguments : Arguments H.Content}
    (h : (s.scope held).Admits n o arguments) :
    Tracked.find? o.owner (s.start.performAll rs).targets ≠ none := by
  rw [Ne, Tracked.find?_eq_none_iff, Progress.kinds_performAll, not_not]
  exact hs.owned o (List.mem_of_find?_eq_some h.known)

theorem Sound.executes {s : Session H} (hs : s.Sound) (held : List H.Kind) (c : Call) :
    ∃ done todo,
      s.Executes held c (s.ended ((s.scope held).resolve (.ofCall c) s.start)) done todo := by
  obtain ⟨rs, hp, hn, done, todo, horder, hdone, hends⟩ :=
    (s.scope held).resolve_follows (.ofCall c) s.start
  generalize (s.scope held).resolve (.ofCall c) s.start = e at hp hends
  obtain ⟨result, p⟩ := e
  dsimp only at hp hends
  subst hp
  have hruns : (s.ended (result, s.start.performAll rs)).runs = rs := s.start.runs_performAll rs
  refine ⟨done, todo, ?_⟩
  constructor <;> try rw [hruns]
  case order => rw [← horder, Scope.map_call_resolved, Call.postorder]
  case values => exact horder.symm
  case runs => exact hdone
  case steps => exact fun i r hr => next_of_nextAll hn hr
  case targets => exact fun k => s.start.find?_performAll k rs
  case returned => exact hends.returned
  case rejected => exact fun f he hf => hends.rejected he hf
  case invocation =>
    exact fun name cause he => hends.invocation he fun n o arguments h => hs.not_untracked h
  case ok =>
    intro v hv
    change result = .ok v at hv
    subst hv
    cases hends with
    | complete ht hr =>
      subst ht
      obtain ⟨r, hl, hrv⟩ := Scope.exists_last_of_complete horder hdone
      refine ⟨rfl, r, hl, ?_⟩
      rw [(hr r (List.mem_of_getLast? hl)).result_eq, hrv]

theorem Executes.of_bindings {s : Session H} {held : List H.Kind} {c : Call} {o : Outcome H}
    {done todo : List (Resolved H)} (h : s.Executes held c o done todo)
    (b : Bindings H.Content) :
    s.Executes held c { o with session := { o.session with bindings := b } } done todo :=
  ⟨h.order, h.values, h.runs, h.steps, h.targets, h.returned, h.ok, h.rejected, h.invocation⟩

theorem Sound.attempt_executes {s : Session H} (hs : s.Sound) (held : List H.Kind)
    {line : String} {text : List Char} {c : Call} (hl : expression? line = some text)
    (hb : s.bindings.find? (String.ofList (Text.trim text)) = none)
    (hc : Call.parse (Text.trim text) = .ok c) :
    ∃ done todo, s.Executes held c (s.attempt held line) done todo := by
  obtain ⟨b, ho⟩ := s.attempt_of_expression held hl
  obtain ⟨done, todo, h⟩ := hs.executes held c
  rw [ho, s.evaluateExpression_of_call held hb hc]
  exact ⟨done, todo, h.of_bindings b⟩

/-- A line that is invalid or malformed does nothing. -/
theorem Sound.attempt_of_ofLine {s : Session H} (hs : s.Sound) {held : List H.Kind}
    {line : String} {f : Fault} (hf : f.OfLine) (h : (s.attempt held line).result = .error f) :
    s.attempt held line = ⟨.error f, s, [], []⟩ := by
  cases hl : expression? line with
  | none =>
    rw [s.attempt_of_expression_none held hl] at h ⊢
    cases h
    rfl
  | some text =>
    have hr : (s.evaluateExpression held text).result = .error f := by
      obtain ⟨b, ho⟩ := s.attempt_of_expression held hl
      rwa [ho] at h
    rw [s.attempt_of_error held hl hr]
    cases hb : s.bindings.find? (String.ofList (Text.trim text)) with
    | some v =>
      rw [s.evaluateExpression_of_bound held hb] at hr
      cases hr
    | none =>
      cases hc : Call.parse (Text.trim text) with
      | error cause =>
        rw [s.evaluateExpression_of_malformed held hb hc] at hr ⊢
        cases hr
        rfl
      | ok c =>
        -- a call fails in other ways
        obtain ⟨done, todo, hx⟩ := hs.attempt_executes held hl hb hc
        obtain ⟨-, n, -, hn⟩ := hx.rejected f h fun name cause => by
          rintro rfl
          cases hf
        exact absurd hn.ofCall hf.not_ofCall

/-- The calls of a line run in post-order, each once, up to the one that fails; and a line
without a call runs nothing. -/
theorem attempt_runs_in_postorder {s : Session H} (hs : s.Reachable) (held : List H.Kind)
    (line : String) :
    (∀ text c, expression? line = some text →
      s.bindings.find? (String.ofList (Text.trim text)) = none → Call.parse text = .ok c →
      ∃ done todo, s.Executes held c (s.attempt held line) done todo) ∧
    (((s.attempt held line).result = .error .invalidAssignment ∨
      ∃ input cause, (s.attempt held line).result = .error (.malformed input cause)) →
      (s.attempt held line).runs = [] ∧ (s.attempt held line).log = [] ∧
        (s.attempt held line).session = s) := by
  refine ⟨fun text c hl hb hc => ?_, ?_⟩
  · rw [← Call.parse_trim] at hc
    exact hs.sound.attempt_executes held hl hb hc
  · rintro (h | ⟨input, cause, h⟩)
    · rw [hs.sound.attempt_of_ofLine .invalid h]
      exact ⟨rfl, rfl, rfl⟩
    · rw [hs.sound.attempt_of_ofLine (.malformed input cause) h]
      exact ⟨rfl, rfl, rfl⟩

theorem attempt_runs_in_postorder_nested :
    (expression? "Echo(Echo(b))" = some "Echo(Echo(b))".toList ∧
      Demo.calculating.bindings.find? "Echo(Echo(b))" = none ∧
      Call.parse "Echo(Echo(b))".toList = .ok ⟨"Echo", [.call "Echo" [.text "b"]]⟩ ∧
      ∃ done todo, Demo.calculating.Executes [] ⟨"Echo", [.call "Echo" [.text "b"]]⟩
        (Demo.calculating.attempt [] "Echo(Echo(b))") done todo) ∧
    (Demo.calculating.attempt [] "= Count").result = .error .invalidAssignment ∧
      (Demo.calculating.attempt [] "= Count").session = Demo.calculating := by
  have hl : expression? "Echo(Echo(b))" = some "Echo(Echo(b))".toList := rfl
  have hb : Demo.calculating.bindings.find? "Echo(Echo(b))" = none := rfl
  have hc : Call.parse "Echo(Echo(b))".toList = .ok ⟨"Echo", [.call "Echo" [.text "b"]]⟩ := by
    have htext : (Argument.text "b").WellFormed := .text rfl (by decide)
    have hcall : (Argument.call "Echo" [.text "b"]).WellFormed :=
      .call (by decide) rfl (by decide) (by simp) (by simpa using htext)
    have hw : Call.WellFormed ⟨"Echo", [.call "Echo" [.text "b"]]⟩ :=
      ⟨by decide, rfl, by decide, by simp, by simpa using hcall⟩
    exact Call.parse_of_spells hw (((Argument.spells_self "b").single "Echo").single "Echo")
  have hi : (Demo.calculating.attempt [] "= Count").result = .error .invalidAssignment := rfl
  have h := attempt_runs_in_postorder Demo.reachable_calculating []
  exact ⟨⟨hl, hb, hc, (h _).1 _ _ hl rfl hc⟩, hi, ((h _).2 (.inl hi)).2.2⟩

end Session

end HostConsole
