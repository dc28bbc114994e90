import HostConsole.Proofs.Session.Execution
import HostConsole.Proofs.Session.Variables

/-! What whole runs of a session have done. Actions make runs of operations, and these are
all that changes the state of a target, the host's own changes apart. -/

namespace HostConsole

variable {H : Host}

namespace Session

/-! ### Lines -/

section Lines

variable {s : Session H} {held : List H.Kind} {c : Call} {o : Outcome H}
  {done todo : List (Resolved H)} {n : Resolved H} {i : Nat} {r : Run H}

/-- The run at a place in a line is made for the call at that place. -/
theorem Executes.admits (h : s.Executes held c o done todo) (hr : o.runs[i]? = some r) :
    ∃ n, done[i]? = some n ∧ (s.scope held).Admits n r.operation r.arguments := by
  obtain ⟨hlen, hall⟩ := List.forall₂_iff_get.1 h.runs
  obtain ⟨hi, rfl⟩ := List.getElem?_eq_some_iff.1 hr
  have hi' : i < done.length := hlen.symm ▸ hi
  exact ⟨done[i], List.getElem?_eq_getElem hi', hall i hi' hi⟩

/-- Why a line ends at a call of which the arguments have been evaluated, with nothing run
for the call: it is rejected, or the host holds its target. -/
inductive StopsAt (s : Session H) (held : List H.Kind) (o : Outcome H) (n : Resolved H) :
    Prop where
  | rejected {f : Fault} (h : (s.scope held).Rejects n f) (ho : o.result = .error f)
  | inUse {operation : Operation H} {arguments : Arguments H.Content}
      (h : (s.scope held).Admits n operation arguments) (hh : operation.owner ∈ held)
      (ho : o.result = .error (.invocation operation.name (.inUse operation.ownerName)))

theorem Executes.stopsAt (h : s.Executes held c o done todo) (hn : todo.head? = some n)
    (hr : ∀ r ∈ o.runs, r.Returned) : s.StopsAt held o n := by
  cases ho : o.result with
  | ok v =>
    obtain ⟨rfl, -⟩ := h.ok v ho
    cases hn
  | error f =>
    by_cases hf : ∃ name cause, f = .invocation name cause
    · obtain ⟨name, cause, rfl⟩ := hf
      rcases h.invocation name cause ho with
        ⟨r, f, hl, hrf, -, -⟩ | ⟨-, m, operation, arguments, hm, ha, hh, rfl, rfl⟩
      · obtain ⟨v, hv⟩ := hr r (List.mem_of_getLast? hl)
        rw [hrf] at hv
        cases hv
      · rw [hn] at hm
        cases hm
        exact .inUse ha hh ho
    · obtain ⟨-, m, hm, hm'⟩ := h.rejected f ho fun name cause he => hf ⟨name, cause, he⟩
      rw [hn] at hm
      cases hm
      exact .rejected hm' ho

theorem Executes.admits_at (h : s.Executes held c o done todo) (hn : done[i]? = some n)
    (hr : o.runs[i]? = some r) : (s.scope held).Admits n r.operation r.arguments := by
  obtain ⟨m, hm, ha⟩ := h.admits hr
  rw [hn] at hm
  cases hm
  exact ha

theorem Executes.exists_run (h : s.Executes held c o done todo) (hn : n ∈ done) :
    ∃ (i : Nat) (r : Run H), done[i]? = some n ∧ o.runs[i]? = some r := by
  obtain ⟨i, hi⟩ := List.mem_iff_getElem?.1 hn
  have hlt : i < o.runs.length := h.runs.length_eq ▸ (List.getElem?_eq_some_iff.1 hi).1
  exact ⟨i, o.runs[i], hi, List.getElem?_eq_getElem hlt⟩

theorem Executes.not_mem_of_not_admits (h : s.Executes held c o done todo)
    (hn : ∀ operation arguments, ¬(s.scope held).Admits n operation arguments) : n ∉ done := by
  intro hmem
  obtain ⟨i, r, hi, hr⟩ := h.exists_run hmem
  exact hn _ _ (h.admits_at hi hr)

/-- A line with one call runs nothing unless it runs that. -/
theorem Executes.runs_eq_nil (h : s.Executes held c o done todo) (hall : done ++ todo = [n])
    (hn : n ∉ done) : todo.head? = some n ∧ o.runs = [] := by
  rcases List.append_eq_singleton_iff.1 hall with ⟨rfl, rfl⟩ | ⟨rfl, -⟩
  · exact ⟨rfl, List.forall₂_nil_left_iff.1 h.runs⟩
  · exact absurd (List.mem_singleton_self n) hn

/-- What a line does that asks for no variable: nothing at all, or the runs of a call. -/
inductive Calls (s : Session H) (held : List H.Kind) (line : String) (o : Outcome H) : Prop where
  | fault {f : Fault} (hf : f.OfLine) (h : o = ⟨.error f, s, [], []⟩)
  | call {text : List Char} {c : Call} {done todo : List (Resolved H)}
      (hl : expression? line = some text) (hc : Call.parse (Text.trim text) = .ok c)
      (h : s.Executes held c o done todo)

theorem Sound.calls (hs : s.Sound) (held : List H.Kind) {line : String}
    (hb : ∀ text, expression? line = some text →
      s.bindings.find? (String.ofList (Text.trim text)) = none) :
    s.Calls held line (s.attempt held line) := by
  cases hl : expression? line with
  | none => exact .fault .invalid (s.attempt_of_expression_none held hl)
  | some text =>
    cases hc : Call.parse (Text.trim text) with
    | error cause =>
      have he := s.evaluateExpression_of_malformed held (hb text hl) hc
      have ho := s.attempt_of_error held hl (congrArg Outcome.result he)
      exact .fault (.malformed _ cause) (ho.trans he)
    | ok c =>
      obtain ⟨done, todo, h⟩ := hs.attempt_executes held hl (hb text hl) hc
      exact .call hl hc h

/-- What a line comes to. It has no call to run, or is the name of a variable, or it has a
call whose runs its outcome shows. -/
inductive Attempts (s : Session H) (held : List H.Kind) (o : Outcome H) : Prop where
  | fault {f : Fault} (hf : f.OfLine) (h : o = ⟨.error f, s, [], []⟩)
  | bound {n : String} {v : H.Value} (hv : s.bindings.find? n = some v) (hr : o.runs = [])
    (h : o.result = .ok (some v))
  | call {c : Call} {done todo : List (Resolved H)} (h : s.Executes held c o done todo)

theorem Sound.attempts (hs : s.Sound) (held : List H.Kind) (line : String) :
    s.Attempts held (s.attempt held line) := by
  by_cases h : ∃ text v, expression? line = some text ∧
      s.bindings.find? (String.ofList (Text.trim text)) = some v
  · obtain ⟨text, v, hl, hb⟩ := h
    obtain ⟨hv, hr, -⟩ := s.attempt_of_bound held hl hb
    exact .bound hb hr hv
  · have hb : ∀ text, expression? line = some text →
        s.bindings.find? (String.ofList (Text.trim text)) = none := fun text hl =>
      Option.eq_none_iff_forall_ne_some.2 fun v hv => h ⟨text, v, hl, hv⟩
    cases hs.calls held hb with
    | fault hf ho => exact .fault hf ho
    | call _ _ h => exact .call h

/-- Only a call makes runs. -/
theorem Attempts.executes (h : s.Attempts held o) (hr : o.runs[i]? = some r) :
    ∃ c done todo, s.Executes held c o done todo := by
  cases h with
  | fault _ ho =>
    rw [ho] at hr
    cases hr
  | bound _ hv _ =>
    rw [hv] at hr
    cases hr
  | call h => exact ⟨_, _, _, h⟩

theorem Sound.executes_of_parse (hs : s.Sound) (held : List H.Kind) {line : String}
    {text : List Char} (hl : expression? line = some text)
    (hb : s.bindings.find? (String.ofList (Text.trim text)) = none)
    (hc : Call.parse text = .ok c) :
    ∃ done todo, s.Executes held c (s.attempt held line) done todo := by
  rw [← Call.parse_trim] at hc
  exact hs.attempt_executes held hl hb hc

end Lines

/-- The runs of a line are all that changes the session, its variables apart. -/
theorem session_attempt (s : Session H) (held : List H.Kind) (line : String) :
    ∃ b, (s.attempt held line).session =
      { s with
        targets := (s.start.performAll (s.attempt held line).runs).targets
        bindings := b
        nextRun := (s.start.performAll (s.attempt held line).runs).nextRun } := by
  cases hl : expression? line with
  | none =>
    rw [s.attempt_of_expression_none held hl]
    exact ⟨s.bindings, rfl⟩
  | some text =>
    obtain ⟨b, ho⟩ := s.attempt_of_expression held hl
    rw [ho]
    refine ⟨b, ?_⟩
    rw [s.session_evaluateExpression held text]

/-! ### Actions -/

theorem sound_afterAll (settings : Settings) (actions : List (Action H)) :
    ((new settings).afterAll actions).Sound :=
  ((Reachable.new settings).afterAll actions).sound

/-- The runs of operations that an action makes. -/
def made (s : Session H) : Action H → List (Run H)
  | .evaluate held line => (s.evaluate held line).runs
  | .attempt held line => (s.attempt held line).runs
  | .register _ | .help | .change _ _ => []

def madeAll (s : Session H) : List (Action H) → List (Run H)
  | [] => []
  | a :: as => s.made a ++ (s.after a).madeAll as

theorem madeAll_append (s : Session H) (as bs : List (Action H)) :
    s.madeAll (as ++ bs) = s.madeAll as ++ (s.afterAll as).madeAll bs := by
  induction as generalizing s with
  | nil => rfl
  | cons a as ih =>
    rw [List.cons_append, madeAll, madeAll, ih, List.append_assoc]
    rfl

theorem madeAll_concat (s : Session H) (as : List (Action H)) (a : Action H) :
    s.madeAll (as ++ [a]) = s.madeAll as ++ (s.afterAll as).made a := by
  rw [madeAll_append, madeAll, madeAll, List.append_nil]

theorem made_of_line {s : Session H} {a : Action H} {held : List H.Kind} {line : String}
    (h : a.line? = some (held, line)) : s.made a = (s.attempt held line).runs := by
  cases a with
  | evaluate | attempt =>
    cases h
    rfl
  | register | help | change => cases h

theorem made_of_none {s : Session H} {a : Action H} (h : a.line? = none) : s.made a = [] := by
  cases a with
  | evaluate | attempt => cases h
  | register | help | change => rfl

theorem after_of_line {s : Session H} {a : Action H} {held : List H.Kind} {line : String}
    (h : a.line? = some (held, line)) : s.after a = (s.attempt held line).session := by
  cases a with
  | evaluate | attempt =>
    cases h
    rfl
  | register | help | change => cases h

/-! ### States of targets -/

/-- The state of the target of a kind behind an action. -/
def advance (s : Session H) (k : H.Kind) (state : H.State k) : Action H → H.State k
  | .change kind new => if h : kind = k then h ▸ new else state
  | a => (s.made a).foldl (Run.advance k) state

def advanceAll (s : Session H) (k : H.Kind) (state : H.State k) : List (Action H) → H.State k
  | [] => state
  | a :: as => (s.after a).advanceAll k (s.advance k state a) as

theorem tracks_iff {s : Session H} {k : H.Kind} :
    s.tracks k = true ↔ k ∈ Tracked.kinds s.targets := by
  simp [tracks, Tracked.kinds]

theorem targets_after_register (s : Session H) (t : Target H) :
    (s.after (.register t)).targets =
      if t.kind ∈ Tracked.kinds s.targets then s.targets
      else s.targets ++ [⟨t.kind, t.state⟩] := by
  rw [after, register]
  by_cases ht : s.tracks t.kind = true
  · rw [if_pos ht, if_pos (tracks_iff.1 ht)]
  · rw [if_neg ht, if_neg (mt tracks_iff.2 ht)]

theorem targets_after_line {s : Session H} {a : Action H} {held : List H.Kind} {line : String}
    (h : a.line? = some (held, line)) :
    (s.after a).targets = (s.start.performAll (s.made a)).targets := by
  obtain ⟨b, ho⟩ := s.session_attempt held line
  rw [made_of_line h, after_of_line h, ho]

/-- A target that is tracked stays so, and only its state advances. -/
theorem target_after {s : Session H} {k : H.Kind} {state : H.State k}
    (h : Tracked.find? k s.targets = some state) (a : Action H) :
    Tracked.find? k (s.after a).targets = some (s.advance k state a) := by
  have hruns : ∀ rs, Tracked.find? k (s.start.performAll rs).targets =
      some (rs.foldl (Run.advance k) state) := fun rs => by
    rw [Progress.find?_performAll, start, h, Option.map_some]
  cases a with
  | register t =>
    rw [targets_after_register]
    split
    · exact h
    · rw [Tracked.find?_append, h]
      rfl
  | help => exact h
  | evaluate held line =>
    rw [targets_after_line rfl]
    exact hruns _
  | attempt held line =>
    rw [targets_after_line rfl]
    exact hruns _
  | change kind new =>
    change Tracked.find? k (Tracked.replace kind new s.targets) = _
    by_cases hk : kind = k
    · subst hk
      rw [Tracked.find?_replace_self, h]
      simp [advance]
    · rw [Tracked.find?_replace_of_ne hk, h]
      simp [advance, hk]

theorem target_afterAll {s : Session H} {k : H.Kind} {state : H.State k}
    (h : Tracked.find? k s.targets = some state) (actions : List (Action H)) :
    Tracked.find? k (s.afterAll actions).targets = some (s.advanceAll k state actions) := by
  induction actions generalizing s state with
  | nil => exact h
  | cons a as ih => exact ih (target_after h a)

/-- Where the host leaves a target alone, its state is what the runs have made of it. -/
theorem advance_eq_foldl (s : Session H) {k : H.Kind} {a : Action H}
    (h : ∀ new, a ≠ .change k new) (state : H.State k) :
    s.advance k state a = (s.made a).foldl (Run.advance k) state := by
  cases a with
  | register | help | evaluate | attempt => rfl
  | change kind new =>
    have hk : kind ≠ k := by
      rintro rfl
      exact h new rfl
    exact dif_neg hk

theorem advanceAll_eq_foldl (s : Session H) {k : H.Kind} {actions : List (Action H)}
    (h : ∀ new, .change k new ∉ actions) (state : H.State k) :
    s.advanceAll k state actions = (s.madeAll actions).foldl (Run.advance k) state := by
  induction actions generalizing s state with
  | nil => rfl
  | cons a as ih =>
    have ha : ∀ new, a ≠ .change k new := fun new he => h new (he ▸ List.mem_cons_self)
    have has : ∀ new, .change k new ∉ as := fun new hm => h new (List.mem_cons_of_mem _ hm)
    rw [advanceAll, ih _ has, advance_eq_foldl s ha, madeAll, List.foldl_append]

end Session

end HostConsole
