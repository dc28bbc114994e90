import HostConsole.Proofs.Evaluation.Extension
import HostConsole.Proofs.Session.Registration

/-! What a further target does to a session. Whatever its operations are called, each name that
meant something means the same, the listings grow at their end only, and a line that met no
unknown name comes to what it came to before. -/

namespace HostConsole

variable {H : Host}

/-- The outcome of a line where the session has a further target. -/
def Outcome.adding (o : Outcome H) (t : Target H) : Outcome H :=
  { o with session := o.session.adding t }

namespace Session

variable {s : Session H} {t : Target H}

/-! ### Lookup and listings -/

theorem operation?_adding {name : String} {o : Operation H}
    (h : operation? s.operations name = some o) :
    operation? (s.adding t).operations name = some o :=
  operation?_append h _

theorem beginning_adding (start : String) : s.beginning start <+: (s.adding t).beginning start := by
  rw [beginning, beginning, adding, List.filter_append]
  exact List.prefix_append _ _

/-! ### Lines -/

theorem evaluateExpression_adding (hs : s.Sound) {held : List H.Kind} {text : List Char}
    (hne : ∀ name, (s.evaluateExpression held text).result ≠ .error (.unknownCommand name)) :
    (s.adding t).evaluateExpression held text = (s.evaluateExpression held text).adding t := by
  cases hb : s.bindings.find? (String.ofList (Text.trim text)) with
  | some v =>
    rw [s.evaluateExpression_of_bound held hb, (s.adding t).evaluateExpression_of_bound held hb]
    rfl
  | none =>
    cases hc : Call.parse (Text.trim text) with
    | error cause =>
      rw [s.evaluateExpression_of_malformed held hb hc,
        (s.adding t).evaluateExpression_of_malformed held hb hc]
      rfl
    | ok c =>
      rw [s.evaluateExpression_of_call held hb hc] at hne ⊢
      rw [(s.adding t).evaluateExpression_of_call held hb hc]
      have hx := (s.scope held).resolve_extends (t.operations s.settings.requireMarking)
        ⟨t.kind, t.state⟩ (.ofCall c) s.start hs.owned
      exact congrArg (s.adding t).ended (hx.2 hne)

theorem attempt_adding (hs : s.Sound) {held : List H.Kind} {line : String}
    (hne : ∀ name, (s.attempt held line).result ≠ .error (.unknownCommand name)) :
    (s.adding t).attempt held line = (s.attempt held line).adding t := by
  refine attempt_map (f := (adding · t)) (fun _ => rfl) (fun _ _ => rfl) fun text hl => ?_
  obtain ⟨b, ho⟩ := s.attempt_of_expression held hl
  rw [ho] at hne
  exact evaluateExpression_adding hs hne

theorem evaluate_adding (hs : s.Sound) {held : List H.Kind} {line : String}
    (hne : ∀ name, (s.attempt held line).result ≠ .error (.unknownCommand name)) :
    (s.adding t).evaluate held line = (s.evaluate held line).adding t := by
  rw [evaluate, attempt_adding hs hne]
  rfl

/-- A target of a further kind changes nothing that was there. What a name means, it means
still, and listings have the further names behind all others. A line that did not end at an
unknown name has the same result, runs and report and leaves the same variables and targets,
and the further target is as it was registered. -/
theorem lines_after_register (hs : s.Reachable) (ht : t.kind ∉ Tracked.kinds s.targets) :
    let s' := s.after (.register t)
    (∃ n, s.register t = .ok (n, s')) ∧
    (∀ name o, operation? s.operations name = some o → operation? s'.operations name = some o) ∧
    (∀ start, s.names start <+: s'.names start ∧ s.listings start <+: s'.listings start) ∧
    ∀ held line, (∀ name, (s.attempt held line).result ≠ .error (.unknownCommand name)) →
      (let o := s.attempt held line
       let o' := s'.attempt held line
       o'.result = o.result ∧ o'.runs = o.runs ∧ o'.log = o.log ∧
         o'.session.bindings = o.session.bindings ∧
         o'.session.targets = o.session.targets ++ [⟨t.kind, t.state⟩] ∧
         o'.session = o.session.after (.register t)) ∧
      (s'.evaluate held line).value? = (s.evaluate held line).value? ∧
        (s'.evaluate held line).runs = (s.evaluate held line).runs ∧
        (s'.evaluate held line).log = (s.evaluate held line).log ∧
        (s'.evaluate held line).session = (s'.attempt held line).session := by
  intro s'
  obtain ⟨hr, hs'⟩ := register_of_untracked ht
  have hadd : s' = s.adding t := hs'
  rw [hadd]
  refine ⟨⟨_, hr⟩, fun name o ho => operation?_adding ho,
    fun start => ⟨(beginning_adding start).map _, (beginning_adding start).map _⟩,
    fun held line hne => ?_⟩
  rw [evaluate_adding hs.sound hne, attempt_adding hs.sound hne]
  have hkinds : t.kind ∉ Tracked.kinds (s.attempt held line).session.targets := by
    obtain ⟨b, ho⟩ := s.session_attempt held line
    rw [ho]
    exact fun h => ht (Progress.kinds_performAll s.start _ ▸ h)
  exact ⟨⟨rfl, rfl, rfl, rfl, rfl, (register_of_untracked hkinds).2.symm⟩, rfl, rfl, rfl, rfl⟩

/-- An operation of the same name that would fit the arguments better stays out of reach. -/
theorem lines_after_register_count :
    let rival : Target (Demo.host Demo.noHost) :=
      { kind := .ship, state := .initial
        declarations := [{ name := "COUNT", parameters := [⟨"value", .any⟩], marked := true
                           body := fun _ a s => Demo.answer s (a.value 0) }] }
    let s' := Demo.calculating.after (.register rival)
    let f : Fault := .arityMismatch "Count()" "Count" "1"
    rival.kind ∉ Tracked.kinds Demo.calculating.targets ∧
      (Demo.calculating.attempt [] "Count 1").result = .error f ∧
      (s'.attempt [] "Count 1").result = .error f ∧ (s'.attempt [] "Count 1").runs = [] ∧
      s'.names "" = ["Add", "Mul", "Concat", "Matches", "Echo", "Count", "COUNT"] := by
  intro rival s' f
  have hc : Call.parse (Text.trim "Count 1".toList) = .ok ⟨"Count", [.text "1"]⟩ := by
    rw [Call.parse_trim, Call.parse_of_not_mem (by decide)]
    rfl
  have ho : Demo.calculating.attempt [] "Count 1" = ⟨.error f, Demo.calculating, [], []⟩ := by
    rw [attempt_of_none _ _ rfl, evaluateExpression_of_call _ _ rfl hc]
    rfl
  have ht : rival.kind ∉ Tracked.kinds Demo.calculating.targets := by decide
  obtain ⟨-, -, -, hlines⟩ := lines_after_register Demo.reachable_calculating ht
  obtain ⟨⟨hresult, hruns, -⟩, -⟩ := hlines [] "Count 1" (by simp [ho, f])
  rw [ho] at hresult hruns
  exact ⟨ht, by rw [ho], hresult, hruns, rfl⟩

end Session

end HostConsole
