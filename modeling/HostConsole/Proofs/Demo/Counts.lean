import HostConsole.Proofs.Demo.Installed
import Mathlib.Algebra.Group.Nat.Defs
import Mathlib.Data.List.DropRight

/-! The count of the calculator. Of all that a session has run, it is the number of evaluations
since the last reset, up to what 32 bits can hold. A call counts once its operation runs, however
deep in a line it stands and whatever its run comes to. A call that is turned down before that
does not count. -/

namespace HostConsole.Demo

variable {H : Host}

/-! ### Evaluations and resets -/

/-- Whether an operation is one of the calculator's, with one of some names. -/
def isCalculators (names : List String) (o : Operation (host H)) : Bool :=
  o.owner = .calculator && o.name ∈ names

def isEvaluation : Operation (host H) → Bool :=
  isCalculators ["Add", "Mul", "Concat", "Matches"]

def isReset : Operation (host H) → Bool :=
  isCalculators ["Reset"]

def isCount : Operation (host H) → Bool :=
  isCalculators ["Count"]

/-- The number of runs of an evaluation behind the last run of a reset, or of all of them where
there is none. -/
def evaluationsOf (rs : List (Run (host H))) : Nat :=
  (rs.rtakeWhile fun r => !isReset r.operation).countP fun r => isEvaluation r.operation

theorem not_isCalculators {names : List String} {o : Operation (host H)}
    (h : o.owner ≠ .calculator) : isCalculators names o = false := by
  rw [isCalculators, decide_eq_false h, Bool.false_and]

theorem evaluationsOf_concat (rs : List (Run (host H))) (r : Run (host H)) :
    evaluationsOf (rs ++ [r]) =
      if isReset r.operation then 0
      else if isEvaluation r.operation then evaluationsOf rs + 1 else evaluationsOf rs := by
  unfold evaluationsOf
  by_cases hr : isReset r.operation = true
  · rw [if_pos hr, List.rtakeWhile_concat_neg _ _ _ (by simp [hr])]
    rfl
  · rw [if_neg hr, List.rtakeWhile_concat_pos _ _ _ (by simpa using hr), List.countP_append,
      List.countP_singleton]
    split <;> rfl

/-- Without a reset, what a line runs is added to what was there. -/
theorem evaluationsOf_append {rs : List (Run (host H))}
    (h : ∀ r ∈ rs, isReset r.operation = false) (past : List (Run (host H))) :
    evaluationsOf (past ++ rs) =
      evaluationsOf past + rs.countP fun r => isEvaluation r.operation := by
  induction rs using List.reverseRecOn with
  | nil => simp
  | append_singleton rs r ih =>
    obtain ⟨hrs, hr⟩ := List.forall_mem_append.1 h
    rw [← List.append_assoc, evaluationsOf_concat, ih hrs, hr r (List.mem_singleton_self r),
      if_neg Bool.false_ne_true, List.countP_append, List.countP_singleton]
    split <;> rfl

/-! ### The table -/

/-- The calculator behind a run of an operation of its own. -/
def Calculator.behind (o : Operation (host H)) (c : Calculator) : Calculator :=
  if isReset o then .initial else if isEvaluation o then c.counted else c

/-- What an entry of the calculator's table does with the count. -/
structure Counts (d : Declaration (Content H.Content) Calculator) : Prop where
  state : ∀ number a c, (d.body number a c).state = c.behind (H := H) ⟨.calculator, d⟩
  count : isCount (H := H) ⟨.calculator, d⟩ = true →
    ∀ number a c, (d.body number a c).result = .ok (some (.int c.evaluations))
  reset : isReset (H := H) ⟨.calculator, d⟩ = true → d.marked = false

theorem counts_of_mem :
    ∀ d ∈ (Calculator.declarations : List (Declaration (Content H.Content) Calculator)),
      Counts (H := H) d := by
  simp only [Calculator.declarations, List.forall_mem_cons]
  refine ⟨?add, ?mul, ?concat, ?search, ?echo, ?count, ?reset, List.forall_mem_nil _⟩
  case add | mul | concat | search | echo => exact ⟨fun _ _ _ => rfl, nofun, nofun⟩
  case count => exact ⟨fun _ _ _ => rfl, fun _ _ _ _ => rfl, nofun⟩
  case reset => exact ⟨fun _ _ _ => rfl, nofun, fun _ => rfl⟩

/-! ### Runs -/

/-- A run that is of the calculator's table, if it is of the calculator. -/
def OfTable (r : Run (host H)) : Prop :=
  r.operation.owner = .calculator → ∃ d ∈ Calculator.declarations, r.operation = ⟨.calculator, d⟩

/-- The calculator with the count that some runs come to. -/
def Calculator.ofRuns (rs : List (Run (host H))) : Calculator :=
  ⟨Int32.ofNat (evaluationsOf rs)⟩

theorem advance_eq_behind {r : Run (host H)} (h : OfTable r) (c : Calculator) :
    Run.advance (H := host H) .calculator c r = c.behind r.operation := by
  obtain ⟨number, o, arguments, result⟩ := r
  by_cases ho : o.owner = .calculator
  · obtain ⟨d, hd, rfl⟩ := h ho
    exact (dif_pos rfl).trans ((counts_of_mem d hd).state number arguments c)
  · have hkeeps : c.behind o = c := by
      rw [Calculator.behind, isReset, isEvaluation, not_isCalculators ho, not_isCalculators ho]
      rfl
    rw [hkeeps]
    exact dif_neg ho

theorem behind_ofRuns (rs : List (Run (host H))) (r : Run (host H)) :
    (Calculator.ofRuns rs).behind r.operation = Calculator.ofRuns (rs ++ [r]) := by
  rw [Calculator.behind, Calculator.ofRuns, Calculator.ofRuns, evaluationsOf_concat]
  split
  · rfl
  · split
    · rw [Int32.ofNat_add]
      rfl
    · rfl

theorem foldl_advance_ofRuns {rs : List (Run (host H))} (h : ∀ r ∈ rs, OfTable r)
    (past : List (Run (host H))) :
    rs.foldl (Run.advance (H := host H) .calculator) (Calculator.ofRuns past) =
      Calculator.ofRuns (past ++ rs) := by
  induction rs generalizing past with
  | nil => rw [List.append_nil, List.foldl_nil]
  | cons r rs ih =>
    obtain ⟨hr, hrs⟩ := List.forall_mem_cons.1 h
    rw [List.foldl_cons, advance_eq_behind hr, behind_ofRuns, ih hrs, List.append_assoc]
    rfl

/-! ### Whole runs -/

/-- Whether a call means an evaluation in a session. -/
def meansEvaluation (s : Session (host H)) (n : Resolved (host H)) : Bool :=
  (Session.operation? s.operations n.call.name).any isEvaluation

theorem countP_of_admits {s : Session (host H)} {held : List (Kind H.Kind)}
    {done : List (Resolved (host H))} {rs : List (Run (host H))}
    (h : List.Forall₂ (fun n r => (s.scope held).Admits n r.operation r.arguments) done rs) :
    rs.countP (fun r => isEvaluation r.operation) = done.countP (meansEvaluation s) := by
  induction h with
  | nil => rfl
  | @cons n r _ _ ha _ ih =>
    have hknown : Session.operation? s.operations n.call.name = some r.operation := ha.known
    have hmeans : meansEvaluation s n = isEvaluation r.operation := by
      rw [meansEvaluation, hknown, Option.any_some]
    rw [List.countP_cons, List.countP_cons, ih, hmeans]

section

variable {settings : Settings} {actions : List (Action (host H))}

/-- All that a session has run since the demo's targets were installed. -/
def history (settings : Settings) (actions : List (Action (host H))) : List (Run (host H)) :=
  (install (Session.new settings)).2.madeAll actions

theorem sound_install : (install (Session.new settings : Session (host H))).2.Sound :=
  @sound_installed H settings []

theorem mem_operations_of_history {r : Run (host H)} (hr : r ∈ history settings actions) :
    r.operation ∈ (installed settings actions).operations :=
  sound_install.mem_operations_of_madeAll hr

theorem ofTable_of_history {r : Run (host H)} (hr : r ∈ history settings actions) : OfTable r :=
  fun ho =>
    have ⟨d, hd, he, _⟩ := mem_declarations_of_installed (mem_operations_of_history hr) ho
    ⟨d, hd, he⟩

/-- A reset is not marked, so it is out of reach where marking is required. -/
theorem not_isReset_of_history (hm : settings.requireMarking = true) :
    ∀ r ∈ (history settings actions : List (Run (host H))), isReset r.operation = false := by
  intro r hr
  by_cases ho : r.operation.owner = .calculator
  · obtain ⟨d, hd, he, hmark⟩ := mem_declarations_of_installed (mem_operations_of_history hr) ho
    rw [he, Bool.eq_false_iff]
    intro hreset
    have hunmarked := (counts_of_mem d hd).reset hreset
    rw [hmark hm] at hunmarked
    cases hunmarked
  · exact not_isCalculators ho

section

variable (h : ∀ c, .change .calculator c ∉ actions)

include h

theorem find?_calculator :
    Tracked.find? (H := host H) .calculator (installed settings actions).targets =
      some (Calculator.ofRuns (history settings actions)) := by
  have hfirst : Tracked.find? (H := host H) .calculator
      (install (Session.new settings)).2.targets = some (Calculator.ofRuns (H := H) []) := rfl
  rw [installed, Session.target_afterAll hfirst, Session.advanceAll_eq_foldl _ h]
  exact congrArg some (foldl_advance_ofRuns (fun r hr => ofTable_of_history hr) [])

/-- Whoever asks for the count is told what the runs up to then come to. -/
theorem result_of_isCount {i : Nat} {r : Run (host H)}
    (hr : (history settings actions)[i]? = some r) (hcount : isCount r.operation = true) :
    r.result = .ok (some
      (.int (Calculator.ofRuns ((history settings actions).take i)).evaluations)) := by
  have ho : r.operation.owner = .calculator := by
    by_contra ho
    rw [isCount, not_isCalculators ho] at hcount
    cases hcount
  have htable := ofTable_of_history (List.mem_of_getElem? hr)
  obtain ⟨number, o, arguments, result⟩ := r
  obtain ⟨d, hd, rfl⟩ := htable ho
  have hres : result = _ := sound_install.result_of_madeAll hr rfl h
  have hbefore : ∀ t ∈ (history settings actions).take i, OfTable t := fun t ht =>
    ofTable_of_history (List.mem_of_mem_take ht)
  have hstate := foldl_advance_ofRuns hbefore []
  rw [List.nil_append] at hstate
  rw [← hstate]
  exact hres.trans ((counts_of_mem d hd).count hcount number arguments _)

end

theorem history_concat {a : Action (host H)} {held : List (Kind H.Kind)} {line : String}
    (ha : a.line? = some (held, line)) : history settings (actions ++ [a]) =
      history settings actions ++ ((installed settings actions).attempt held line).runs := by
  rw [history, Session.madeAll_concat, Session.made_of_line ha]
  rfl

end

/-- Whoever asks for the count is told how often evaluations have run since the last reset, as long
as 32 bits hold that. Of a further line those of its calls count that have run, also the one that
failed in its run. A call that is turned down is none of them, none counts while the host holds the
calculator, and a line without a call runs nothing. Where marking is required, there is no reset. -/
theorem count_of_history (settings : Settings) {actions : List (Action (host H))}
    (h : ∀ c, .change .calculator c ∉ actions) :
    let s : Session (host H) := installed settings actions
    let past : List (Run (host H)) := history settings actions
    Tracked.find? (H := host H) .calculator s.targets = some (Calculator.ofRuns past) ∧
    (∀ (i : Nat) (r : Run (host H)), past[i]? = some r → isCount r.operation = true →
      evaluationsOf (past.take i) < 2 ^ 31 →
      ∃ n : Int32, n.toInt = evaluationsOf (past.take i) ∧ r.result = .ok (some (.int n))) ∧
    (settings.requireMarking = true → ∀ r ∈ past, isReset r.operation = false) ∧
    ∀ held line,
      let o := s.attempt held line
      (∀ a, a.line? = some (held, line) → history settings (actions ++ [a]) = past ++ o.runs) ∧
      s.Attempts held o ∧
      ∀ c done todo, s.Executes held c o done todo →
        (∀ n f, (s.scope held).Rejects n f → n ∉ done) ∧
        (.calculator ∈ held → done.countP (meansEvaluation s) = 0) ∧
        ((∀ r ∈ o.runs, isReset r.operation = false) →
          evaluationsOf (past ++ o.runs) = evaluationsOf past + done.countP (meansEvaluation s)) := by
  intro s past
  refine ⟨find?_calculator h, fun i r hr hcount hlt => ?asked, not_isReset_of_history,
    fun held line => ⟨fun a => history_concat, sound_installed.attempts held line,
      fun c done todo hx => ⟨fun n f hf => hx.not_mem_of_not_admits hf.not_admits,
        fun hheld => ?held, fun hreset => ?line⟩⟩⟩
  case asked => exact ⟨_, Int32.toInt_ofNat_of_lt hlt, result_of_isCount h hr hcount⟩
  case held =>
    rw [← countP_of_admits hx.runs, List.countP_eq_zero]
    intro r hr
    obtain ⟨i, hi⟩ := List.mem_iff_getElem?.1 hr
    obtain ⟨-, hfree, -⟩ := hx.steps i r hi
    rw [isEvaluation, not_isCalculators fun ho => hfree (ho ▸ hheld)]
    exact Bool.false_ne_true
  case line => rw [evaluationsOf_append hreset, countP_of_admits hx.runs]

/-- A sum that is out of range counts, and one of a single argument does not. -/
theorem count_of_history_overflow :
    let actions : List (Action (host noHost)) :=
      [.attempt [] "Add(2147483647,1)", .attempt [] "Add 1", .attempt [] "Count"]
    let past : List (Run (host noHost)) := history ⟨true, false⟩ actions
    (∀ c, .change .calculator c ∉ actions) ∧
      ∃ r t, past = [r, t] ∧ r.result = .error (.ofMessage "integer overflow") ∧
        isCount t.operation = true ∧ ∃ n : Int32, n.toInt = 1 ∧ t.result = .ok (some (.int n)) := by
  intro actions past
  have hactions : ∀ c, .change .calculator c ∉ actions := by simp [actions]
  have hmax : (Argument.text "2147483647").Spells "2147483647".toList := Argument.spells_self _
  have hone : (Argument.text "1").Spells "1".toList := Argument.spells_self _
  have hadd : Call.parse "Add(2147483647,1)".toList =
      .ok ⟨"Add", [.text "2147483647", .text "1"]⟩ := by
    have hw : Call.WellFormed ⟨"Add", [.text "2147483647", .text "1"]⟩ :=
      ⟨by decide, rfl, by decide, by simp,
        by simpa using ⟨.text rfl (by decide), .text rfl (by decide)⟩⟩
    have hs : (Argument.call "Add" [.text "2147483647", .text "1"]).Spells
        "Add(2147483647,1)".toList :=
      @Argument.Spells.call _ _ ["2147483647".toList, "1".toList] [] [] [] _ rfl rfl rfl rfl
        (by simpa using ⟨hmax, hone⟩) (.inr ⟨by simp, rfl⟩)
    exact Call.parse_of_spells hw hs
  have hbare : Call.parse "Add 1".toList = .ok ⟨"Add", [.text "1"]⟩ := by
    rw [Call.parse_of_not_mem (by decide)]
    rfl
  have hcount : Call.parse "Count".toList = .ok ⟨"Count", []⟩ := by
    rw [Call.parse_of_not_mem (by decide)]
    rfl
  have hattempt : ∀ (s : Session (host noHost)) {line : String} {c : Call},
      Call.parse line.toList = .ok c → splitAssignment line.toList = none →
      s.bindings = .empty →
      s.attempt [] line = s.ended ((s.scope []).resolve (.ofCall c) s.start) :=
    fun s line c hc hl hb => by
      rw [← Call.parse_trim] at hc
      rw [s.attempt_of_none [] hl]
      exact s.evaluateExpression_of_call [] (by rw [hb]; rfl) hc
  have hpast : ∃ r t, past = [r, t] ∧ r.result = .error (.ofMessage "integer overflow") ∧
      evaluationsOf [r] = 1 ∧ isCount t.operation = true := by
    simp only [past, history, actions, Session.madeAll, Session.made, Session.after]
    rw [hattempt _ hadd rfl rfl, hattempt _ hbare rfl rfl, hattempt _ hcount rfl rfl]
    exact ⟨_, _, rfl, rfl, rfl, rfl⟩
  obtain ⟨r, t, hruns, hresult, hone, hasks⟩ := hpast
  obtain ⟨-, h, -⟩ := count_of_history ⟨true, false⟩ hactions
  have htake : evaluationsOf (past.take 1) = 1 := by rw [hruns]; exact hone
  have hget : past[1]? = some t := by rw [hruns]; rfl
  obtain ⟨n, hn, ht⟩ := h 1 t hget hasks (by rw [htake]; decide)
  rw [htake] at hn
  exact ⟨hactions, r, t, hruns, hresult, hasks, n, hn, ht⟩

end HostConsole.Demo
