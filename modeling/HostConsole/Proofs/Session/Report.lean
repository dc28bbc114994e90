import HostConsole.Proofs.Session.History

/-! What lines report. A variable that is asked for is reported with its value, and a call with
one entry for each run that succeeded, in the order of the runs. An entry for the outcome of the
whole line closes the report of an evaluation, unless the line has succeeded without a value. -/

namespace HostConsole

variable {H : Host}

namespace Run

def succeeded (r : Run H) : Bool :=
  r.result.isOk

/-- How a run that succeeded is reported: with the operation's own name, and with the arguments
that its body has received. -/
def entry (r : Run H) : Entry :=
  ⟨.info, "Method invoked: " ++ r.operation.name ++ "(" ++
    ", ".intercalate (r.arguments.values.map Value.text) ++ ")"⟩

theorem report_eq (r : Run H) : r.report = if r.succeeded then [r.entry] else [] := by
  unfold report succeeded
  cases r.result with
  | error f => rfl
  | ok v =>
    simp only [Except.isOk, Except.toBool, if_true, entry, Operation.callText, Arguments.text,
      String.append_assoc]

theorem flatMap_report (rs : List (Run H)) :
    rs.flatMap report = (rs.filter succeeded).map entry := by
  induction rs with
  | nil => rfl
  | cons r rs ih =>
    rw [List.flatMap_cons, ih, report_eq, List.filter_cons]
    split <;> rfl

end Run

namespace Session

variable {s : Session H} {held : List H.Kind}

/-- What the evaluation of a line (`e`) adds to its bare outcome (`o`): the entry that closes the
report, and nothing else. Only a line that yields a value hands one back. -/
structure Closes (s : Session H) (o e : Outcome H) : Prop where
  result : e.result = o.result
  session : e.session = o.session
  runs : e.runs = o.runs
  value : ∀ v, o.result = .ok (some v) → e.value? = some v ∧
    e.log = o.log ++ [⟨if s.settings.resultsApart then .result else .info, v.text⟩]
  nothing : o.result = .ok none → e.log = o.log
  fault : ∀ f, o.result = .error f → e.log = o.log ++ [⟨.error, f.message⟩]
  value?_eq_none : e.value? = none ↔ o.result = .ok none ∨ ∃ f, o.result = .error f

theorem closes_evaluate (s : Session H) (held : List H.Kind) (line : String) :
    s.Closes (s.attempt held line) (s.evaluate held line) where
  result := rfl
  session := rfl
  runs := rfl
  value v h := ⟨value?_evaluate.2 h, by rw [evaluate, h]; rfl⟩
  nothing h := by
    rw [evaluate, h]
    exact List.append_nil _
  fault f h := by
    rw [evaluate, h]
    rfl
  value?_eq_none := by
    have h : (s.evaluate held line).result = (s.attempt held line).result := rfl
    rw [Outcome.value?, h]
    cases (s.attempt held line).result <;> simp

/-- A call reports its runs. -/
theorem log_evaluateExpression_of_call (s : Session H) (held : List H.Kind) {text : List Char}
    {c : Call} (hb : s.bindings.find? (String.ofList (Text.trim text)) = none)
    (hc : Call.parse (Text.trim text) = .ok c) :
    (s.evaluateExpression held text).log =
      (s.evaluateExpression held text).runs.flatMap Run.report := by
  rw [s.evaluateExpression_of_call held hb hc]
  obtain ⟨rs, hf⟩ := (s.scope held).resolve_follows (.ofCall c) s.start
  rw [ended, hf.progress, Progress.runs_performAll, Progress.log_performAll]
  rfl

/-- A line itself reports nothing but information. -/
theorem level_of_mem_log (s : Session H) (held : List H.Kind) (line : String) :
    ∀ e ∈ (s.attempt held line).log, e.level = .info := by
  cases hl : expression? line with
  | none =>
    rw [s.attempt_of_expression_none held hl]
    simp
  | some text =>
    obtain ⟨b, ho⟩ := s.attempt_of_expression held hl
    rw [ho]
    cases hb : s.bindings.find? (String.ofList (Text.trim text)) with
    | some v =>
      rw [s.evaluateExpression_of_bound held hb]
      simp
    | none =>
      cases hc : Call.parse (Text.trim text) with
      | error cause =>
        rw [s.evaluateExpression_of_malformed held hb hc]
        simp
      | ok c =>
        rw [s.log_evaluateExpression_of_call held hb hc, Run.flatMap_report]
        intro e he
        obtain ⟨r, -, rfl⟩ := List.mem_map.1 he
        rfl

theorem Calls.log {line : String} (h : s.Calls held line (s.attempt held line))
    (hb : ∀ text, expression? line = some text →
      s.bindings.find? (String.ofList (Text.trim text)) = none) :
    (s.attempt held line).log =
      ((s.attempt held line).runs.filter Run.succeeded).map Run.entry := by
  cases h with
  | fault _ he =>
    rw [he]
    rfl
  | @call text c done todo hl hc h =>
    obtain ⟨b, ho⟩ := s.attempt_of_expression held hl
    rw [ho, ← Run.flatMap_report]
    exact s.log_evaluateExpression_of_call held (hb text hl) hc

/-- What a line reports is what has happened. A variable is reported with its value. Otherwise the
entries are those of the runs that succeeded, in their order, also where the line fails behind
them. The outcome of the line is reported last, and by an evaluation only. -/
theorem report_of_line (hs : s.Reachable) (held : List H.Kind) (line : String) :
    let o := s.attempt held line
    (∀ text v, expression? line = some text →
      s.bindings.find? (String.ofList (Text.trim text)) = some v →
        o.result = .ok (some v) ∧ o.runs = [] ∧
          o.log = [⟨.info, String.ofList (Text.trim text) ++ ": " ++ v.text⟩]) ∧
    ((∀ text, expression? line = some text →
      s.bindings.find? (String.ofList (Text.trim text)) = none) →
        s.Calls held line o ∧ o.log = (o.runs.filter Run.succeeded).map Run.entry) ∧
    s.Closes o (s.evaluate held line) :=
  ⟨fun _ _ hl hb => s.attempt_of_bound held hl hb,
    fun hb => ⟨hs.sound.calls held hb, (hs.sound.calls held hb).log hb⟩,
    s.closes_evaluate held line⟩

theorem report_of_line_rename :
    let s := Demo.calculating.after (.register (Demo.ship .initial))
    let o := s.attempt [] "Rename(Heading())"
    s.Reachable ∧ expression? "Rename(Heading())" = some "Rename(Heading())".toList ∧
      s.bindings.find? "Rename(Heading())" = none ∧
      o.log = [⟨.info, "Method invoked: Heading()"⟩] ∧
      (s.evaluate [] "Rename(Heading())").log =
        [⟨.info, "Method invoked: Heading()"⟩,
          ⟨.error, "Could not parse argument North to string. Value is of type Heading."⟩] := by
  intro s o
  have hs : s.Reachable := Demo.reachable_calculating.after _
  have hl : expression? "Rename(Heading())" = some "Rename(Heading())".toList := rfl
  have hc : Call.parse (Text.trim "Rename(Heading())".toList) =
      .ok ⟨"Rename", [.call "Heading" []]⟩ :=
    (Call.parse_trim _).trans (Call.parse_call_of_call
      (Call.wellFormed_bare "Rename" (by decide) rfl (by decide))
      (Call.wellFormed_bare "Heading" (by decide) rfl (by decide)))
  have ho : s.attempt [] "Rename(Heading())" = s.ended _ :=
    (attempt_of_none s [] rfl).trans (evaluateExpression_of_call s [] rfl hc)
  obtain ⟨-, hcalls, hcloses⟩ := report_of_line hs [] "Rename(Heading())"
  have hlog : o.log = [⟨.info, "Method invoked: Heading()"⟩] := by
    rw [(hcalls fun text h => by cases h; rfl).2, ho]
    rfl
  refine ⟨hs, hl, rfl, hlog, ?_⟩
  rw [hcloses.fault _ (by rw [ho]; rfl), hlog]
  rfl

end Session

end HostConsole
