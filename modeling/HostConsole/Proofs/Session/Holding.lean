import HostConsole.Proofs.Evaluation.Holding
import HostConsole.Proofs.Session.Execution

/-! Lines that are evaluated while the host holds some of the targets. Such a line comes to what
it comes to otherwise if it runs no operation of theirs. Else it ends where the first would have
run, with a fault that says the target is in use; what has run by then has run as otherwise. -/

namespace HostConsole

variable {H : Host}

namespace Session

/-- How a line ends early (`o`) that ran `rs ++ r :: ts` with no target held (`o₀`): `r` is the
first run of a target that is held. -/
structure EndsBefore (s : Session H) (held : List H.Kind) (o₀ o : Outcome H) (rs : List (Run H))
    (r : Run H) (ts : List (Run H)) : Prop where
  split : o₀.runs = rs ++ r :: ts
  free : ∀ t ∈ rs, t.operation.owner ∉ held
  busy : r.operation.owner ∈ held
  runs : o.runs = rs
  log : o₀.log = o.log ++ (r :: ts).flatMap Run.report
  reports : o.log = rs.flatMap Run.report
  result : ∃ cause, o.result = .error (.invocation r.operation.name cause) ∧
    cause.chain = [H.kindName r.operation.owner ++ " target is already in use"]
  bindings : o.session.bindings = s.bindings
  targets : ∀ k, Tracked.find? k o.session.targets =
    (Tracked.find? k s.targets).map fun state => rs.foldl (Run.advance k) state
  untouched : ∀ k ∈ held, Tracked.find? k o.session.targets = Tracked.find? k s.targets

theorem endsBefore_ended {s : Session H} {held : List H.Kind} {e₀ : Except Fault (Option H.Value)}
    {r : Run H} {rs ts : List (Run H)} (hfree : ∀ t ∈ rs, t.operation.owner ∉ held)
    (hr : r.operation.owner ∈ held) :
    s.EndsBefore held (s.ended (e₀, s.start.performAll (rs ++ r :: ts)))
      (s.ended (.error (.invocation r.operation.name (.inUse r.operation.ownerName)),
        s.start.performAll rs)) rs r ts where
  split := s.start.runs_performAll _
  free := hfree
  busy := hr
  runs := s.start.runs_performAll rs
  log := by
    simp only [ended, Progress.log_performAll, List.flatMap_append, List.append_assoc]
  reports := s.start.log_performAll rs
  result := ⟨_, rfl, rfl⟩
  bindings := rfl
  targets k := s.start.find?_performAll k rs
  untouched k hk := by
    have hid : (fun state => rs.foldl (Run.advance k) state) = id := by
      funext state
      exact Run.foldl_advance_of_ne (fun t ht h => hfree t ht (h ▸ hk)) state
    rw [ended, Progress.find?_performAll, hid, Option.map_id]
    rfl

/-- What an expression comes to while some targets are held. -/
theorem evaluateExpression_held (s : Session H) (held : List H.Kind) (text : List Char) :
    (∀ r ∈ (s.evaluateExpression [] text).runs, r.operation.owner ∉ held) ∧
        s.evaluateExpression held text = s.evaluateExpression [] text ∨
      ∃ rs r ts, s.EndsBefore held (s.evaluateExpression [] text) (s.evaluateExpression held text)
        rs r ts := by
  cases hb : s.bindings.find? (String.ofList (Text.trim text)) with
  | some v =>
    rw [s.evaluateExpression_of_bound held hb, s.evaluateExpression_of_bound [] hb]
    exact .inl ⟨by simp, rfl⟩
  | none =>
    cases hc : Call.parse (Text.trim text) with
    | error cause =>
      rw [s.evaluateExpression_of_malformed held hb hc, s.evaluateExpression_of_malformed [] hb hc]
      exact .inl ⟨by simp, rfl⟩
    | ok c =>
      rw [s.evaluateExpression_of_call held hb hc, s.evaluateExpression_of_call [] hb hc]
      have h : Evaluation.Interrupted held s.start ((s.scope []).resolve (.ofCall c) s.start)
          ((s.scope held).resolve (.ofCall c) s.start) :=
        (s.scope []).resolve_interrupted held (.ofCall c) s.start
      rcases h₀ : (s.scope []).resolve (.ofCall c) s.start with ⟨e₀, p₀⟩
      rw [h₀] at h
      cases h with
      | never rs hp hfree he =>
        dsimp only at hp
        subst hp
        refine .inl ⟨?_, congrArg s.ended he⟩
        rwa [ended, Progress.runs_performAll]
      | before rs r ts hp hfree hr he =>
        dsimp only at hp
        subst hp
        refine .inr ⟨rs, r, ts, ?_⟩
        rw [he]
        exact endsBefore_ended hfree hr

theorem EndsBefore.of_eq {s : Session H} {held : List H.Kind} {o₀ o₁ o : Outcome H} {r : Run H}
    {rs ts : List (Run H)} (h : s.EndsBefore held o₀ o rs r ts) (hr : o₁.runs = o₀.runs)
    (hl : o₁.log = o₀.log) : s.EndsBefore held o₁ o rs r ts :=
  { h with split := hr.trans h.split, log := hl.trans h.log }

/-- What a line comes to while some targets are held. -/
theorem attempt_held (s : Session H) (held : List H.Kind) (line : String) :
    (∀ r ∈ (s.attempt [] line).runs, r.operation.owner ∉ held) ∧
        s.attempt held line = s.attempt [] line ∨
      ∃ rs r ts, s.EndsBefore held (s.attempt [] line) (s.attempt held line) rs r ts := by
  cases hl : expression? line with
  | none =>
    rw [s.attempt_of_expression_none held hl, s.attempt_of_expression_none [] hl]
    exact .inl ⟨by simp, rfl⟩
  | some text =>
    obtain ⟨b, ho⟩ := s.attempt_of_expression [] hl
    rcases s.evaluateExpression_held held text with ⟨hfree, he⟩ | ⟨rs, r, ts, h⟩
    · refine .inl ⟨by rwa [ho], ?_⟩
      rcases expression?_eq_some_iff.1 hl with ⟨hs, rfl⟩ | ⟨left, hs, hne⟩
      · rw [s.attempt_of_none held hs, s.attempt_of_none [] hs, he]
      · rw [s.attempt_assigning held hs hne, s.attempt_assigning [] hs hne, he]
    · -- the line fails, so it binds nothing
      obtain ⟨cause, hf, -⟩ := h.result
      rw [s.attempt_of_error held hl hf]
      exact .inr ⟨rs, r, ts, h.of_eq (by rw [ho]) (by rw [ho])⟩

theorem evaluateExpression_ne_inUse (s : Session H) (text : List Char) (name target : String) :
    (s.evaluateExpression [] text).result ≠ .error (.invocation name (.inUse target)) := by
  cases hb : s.bindings.find? (String.ofList (Text.trim text)) with
  | some v =>
    rw [s.evaluateExpression_of_bound [] hb]
    rintro ⟨⟩
  | none =>
    cases hc : Call.parse (Text.trim text) with
    | error cause =>
      rw [s.evaluateExpression_of_malformed [] hb hc]
      rintro ⟨⟩
    | ok c =>
      rw [s.evaluateExpression_of_call [] hb hc]
      intro hres
      obtain ⟨rs, hf⟩ := (s.scope []).resolve_follows (.ofCall c) s.start
      obtain ⟨done, todo, -, -, hends⟩ := hf.ends
      have hres : ((s.scope []).resolve (.ofCall c) s.start).1 = _ := hres
      rw [hres] at hends
      cases hends with
      | stuck _ _ h =>
        cases h with
        | rejected h =>
          cases h.ofCall with
          | argument h => cases h
        | inUse _ hh => cases hh

theorem attempt_ne_inUse (s : Session H) (line name target : String) :
    (s.attempt [] line).result ≠ .error (.invocation name (.inUse target)) := by
  cases hl : expression? line with
  | none =>
    rw [s.attempt_of_expression_none [] hl]
    rintro ⟨⟩
  | some text =>
    obtain ⟨b, ho⟩ := s.attempt_of_expression [] hl
    rw [ho]
    exact s.evaluateExpression_ne_inUse text name target

theorem closing_invocation (settings : Settings) (name : String) (cause : InvocationCause) :
    closing (H := H) settings (.error (.invocation name cause)) =
      [⟨.error, "Invocation of " ++ name ++ " failed: " ++ ": ".intercalate cause.chain⟩] :=
  rfl

/-- A line that runs no operation of a target that the host holds comes to what it comes to
while none is held. Any other ends before the first such run: what comes before that has run,
and been reported, as it would have been, and no variable and no target that is held has changed.
While none is held, no line ends like that. -/
theorem lines_while_held (s : Session H) (held : List H.Kind) (line : String) :
    let o₀ := s.attempt [] line
    let o := s.attempt held line
    ((∀ r ∈ o₀.runs, r.operation.owner ∉ held) →
      o = o₀ ∧ s.evaluate held line = s.evaluate [] line) ∧
    ((∃ r ∈ o₀.runs, r.operation.owner ∈ held) →
      ∃ rs r ts, s.EndsBefore held o₀ o rs r ts ∧
        s.evaluate held line = { o with
          log := o.log ++ [⟨.error, "Invocation of " ++ r.operation.name ++ " failed: " ++
            H.kindName r.operation.owner ++ " target is already in use"⟩] }) ∧
    ∀ name target, o₀.result ≠ .error (.invocation name (.inUse target)) := by
  intro o₀ o
  refine ⟨fun hfree => ?_, fun hheld => ?_, s.attempt_ne_inUse line⟩
  · rcases s.attempt_held held line with ⟨-, h⟩ | ⟨rs, r, ts, h⟩
    · exact ⟨h, by rw [evaluate, evaluate, h]⟩
    · refine absurd h.busy (hfree r ?_)
      rw [h.split]
      simp
  · rcases s.attempt_held held line with ⟨hfree, -⟩ | ⟨rs, r, ts, h⟩
    · obtain ⟨r, hr, hh⟩ := hheld
      exact absurd hh (hfree r hr)
    · refine ⟨rs, r, ts, h, ?_⟩
      obtain ⟨cause, hres, hchain⟩ := h.result
      have hclosing : closing s.settings o.result =
          [⟨.error, "Invocation of " ++ r.operation.name ++ " failed: " ++
            H.kindName r.operation.owner ++ " target is already in use"⟩] := by
        rw [hres, closing_invocation, hchain, String.intercalate_singleton, ← String.append_assoc]
      rw [evaluate, hclosing]

theorem lines_while_held_calculator :
    let s := Demo.calculating.after (.register (Demo.ship .initial))
    let o₀ := s.attempt [] "Echo(Heading())"
    let o := s.attempt [.calculator] "Echo(Heading())"
    o₀.runs.map (·.operation.name) = ["Heading", "Echo"] ∧
      (∃ r ∈ o₀.runs, r.operation.owner ∈ [Demo.Kind.calculator]) ∧
      (∃ rs r ts, s.EndsBefore [.calculator] o₀ o rs r ts) ∧
      (s.attempt [] "Count").runs.map (·.operation.owner) = [.calculator] ∧
      s.attempt [.ship] "Count" = s.attempt [] "Count" := by
  intro s o₀ o
  have hecho : Call.parse (Text.trim "Echo(Heading())".toList) =
      .ok ⟨"Echo", [.call "Heading" []]⟩ :=
    (Call.parse_trim _).trans (Call.parse_call_of_call
      (Call.wellFormed_bare "Echo" (by decide) rfl (by decide))
      (Call.wellFormed_bare "Heading" (by decide) rfl (by decide)))
  have hcount : Call.parse (Text.trim "Count".toList) = .ok ⟨"Count", []⟩ := by
    rw [Call.parse_trim, Call.parse_of_not_mem (by decide)]
    rfl
  have ho₀ : o₀ = s.ended _ :=
    (attempt_of_none s [] rfl).trans (evaluateExpression_of_call s [] rfl hecho)
  have hone : s.attempt [] "Count" = s.ended _ :=
    (attempt_of_none s [] rfl).trans (evaluateExpression_of_call s [] rfl hcount)
  have howner : (s.attempt [] "Count").runs.map (·.operation.owner) = [.calculator] := by
    rw [hone]
    rfl
  have hfree : ∀ r ∈ (s.attempt [] "Count").runs, r.operation.owner ∉ [Demo.Kind.ship] := by
    intro r hr hship
    have hr : r.operation.owner ∈ (s.attempt [] "Count").runs.map (·.operation.owner) :=
      List.mem_map_of_mem hr
    rw [howner, List.mem_singleton.1 hship] at hr
    simp at hr
  have hheld : ∃ r ∈ o₀.runs, r.operation.owner ∈ [Demo.Kind.calculator] := by
    rw [ho₀]
    exact ⟨_, .tail _ (.head _), .head _⟩
  obtain ⟨rs, r, ts, h, -⟩ := (lines_while_held s [.calculator] "Echo(Heading())").2.1 hheld
  refine ⟨?_, hheld, ⟨rs, r, ts, h⟩, howner, ((lines_while_held s [.ship] "Count").1 hfree).1⟩
  rw [ho₀]
  rfl

end Session

end HostConsole
