import HostConsole.Demo.Host
import HostConsole.Proofs.Evaluation.Targets
import HostConsole.Proofs.Session.Line
import HostConsole.Proofs.Text.Trim

/-! The sessions that a host can come to, and what holds of all of them. Every operation
has a target of its kind, and every variable a name that an assignment can have. -/

namespace HostConsole

variable {H : Host}

/-- What a host can do with a session. It shares the targets and can change their states
for itself between two lines. -/
inductive Action (H : Host) where
  | register (target : Target H)
  | help
  | evaluate (held : List H.Kind) (line : String)
  | attempt (held : List H.Kind) (line : String)
  | change (kind : H.Kind) (state : H.State kind)

namespace Session

/-- The session behind an action. A target that cannot be registered leaves it as it was. -/
def after (s : Session H) : Action H → Session H
  | .register target => match s.register target with
    | .ok (_, s) => s
    | .error _ => s
  | .help => s
  | .evaluate held line => (s.evaluate held line).session
  | .attempt held line => (s.attempt held line).session
  | .change kind state => { s with targets := Tracked.replace kind state s.targets }

def afterAll (s : Session H) (actions : List (Action H)) : Session H :=
  actions.foldl after s

theorem afterAll_append (s : Session H) (as bs : List (Action H)) :
    s.afterAll (as ++ bs) = (s.afterAll as).afterAll bs :=
  List.foldl_append

inductive Reachable : Session H → Prop where
  | new (settings : Settings) : Reachable (new settings)
  | after {s : Session H} (h : Reachable s) (a : Action H) : Reachable (s.after a)

theorem Reachable.afterAll {s : Session H} (h : s.Reachable) (actions : List (Action H)) :
    (s.afterAll actions).Reachable := by
  induction actions generalizing s with
  | nil => exact h
  | cons a as ih => exact ih (h.after a)

end Session

/-! ### The invariant -/

/-- A name that an assignment can have. -/
structure IsVariable (name : String) : Prop where
  nonempty : name ≠ ""
  trimmed : Text.Trimmed name.toList
  noEquals : '=' ∉ name.toList
  noParenthesis : '(' ∉ name.toList

theorem isVariable_of_split {text left right : List Char}
    (h : splitAssignment text = some (left, right)) (hl : Text.trim left ≠ []) :
    IsVariable (String.ofList (Text.trim left)) := by
  obtain ⟨-, he, hp⟩ := splitAssignment_eq_some_iff.1 h
  refine ⟨fun h => hl ?_, ?_, ?_, ?_⟩
  · simpa using congrArg String.toList h
  · rw [String.toList_ofList]
    exact Text.trimmed_trim left
  · rwa [String.toList_ofList, Text.mem_trim rfl]
  · rwa [String.toList_ofList, Text.mem_trim rfl]

namespace Session

/-- What holds of every session a host can come to. -/
structure Sound (s : Session H) : Prop where
  owned : ∀ o ∈ s.operations, o.owner ∈ Tracked.kinds s.targets
  named : ∀ n, (s.bindings.find? n).isSome → IsVariable n

theorem Sound.of_bindings {s t : Session H} (h : s.Sound) (ho : t.operations = s.operations)
    (hk : Tracked.kinds t.targets = Tracked.kinds s.targets)
    (hb : ∀ n, (t.bindings.find? n).isSome → IsVariable n) : t.Sound where
  owned := by
    rw [ho, hk]
    exact h.owned
  named := hb

theorem sound_new (settings : Settings) : (new settings : Session H).Sound where
  owned := by simp [new]
  named := by simp [new]

theorem Sound.register {s : Session H} (h : s.Sound) (t : Target H) :
    (s.after (.register t)).Sound := by
  rw [after, Session.register]
  by_cases ht : s.tracks t.kind = true
  · rw [if_pos ht]
    exact h
  · rw [if_neg ht]
    refine ⟨fun o ho => ?_, h.named⟩
    rw [Tracked.kinds, List.map_append, List.mem_append]
    rcases List.mem_append.1 ho with ho | ho
    · exact .inl (h.owned o ho)
    · obtain ⟨d, -, rfl⟩ := List.mem_map.1 ho
      exact .inr (by simp)

/-- The runs of an expression are all that changes the session. -/
theorem session_evaluateExpression (s : Session H) (held : List H.Kind) (text : List Char) :
    (s.evaluateExpression held text).session =
      { s with
        targets := (s.start.performAll (s.evaluateExpression held text).runs).targets
        nextRun := (s.start.performAll (s.evaluateExpression held text).runs).nextRun } := by
  cases hb : s.bindings.find? (String.ofList (Text.trim text)) with
  | some v =>
    rw [s.evaluateExpression_of_bound held hb]
    rfl
  | none =>
    cases hc : Call.parse (Text.trim text) with
    | error cause =>
      rw [s.evaluateExpression_of_malformed held hb hc]
      rfl
    | ok c =>
      rw [s.evaluateExpression_of_call held hb hc]
      obtain ⟨rs, hf⟩ := (s.scope held).resolve_follows (.ofCall c) s.start
      have hrs : (s.start.performAll rs).runs = rs := s.start.runs_performAll rs
      rw [ended, hf.progress, hrs]

theorem Sound.attempt {s : Session H} (h : s.Sound) (held : List H.Kind) (line : String) :
    (s.attempt held line).session.Sound := by
  have he : ∀ text, (s.evaluateExpression held text).session.Sound := fun text => by
    rw [session_evaluateExpression]
    exact h.of_bindings rfl (Progress.kinds_performAll s.start _) h.named
  cases hs : splitAssignment line.toList with
  | none =>
    rw [s.attempt_of_none held hs]
    exact he line.toList
  | some p =>
    obtain ⟨left, right⟩ := p
    by_cases hl : Text.trim left = []
    · rw [s.attempt_invalid held hs hl]
      exact h
    · rw [s.attempt_assigning held hs hl]
      have hr := he right
      revert hr
      generalize s.evaluateExpression held right = o
      intro hr
      dsimp only
      unfold bindResult
      split
      · refine hr.of_bindings rfl rfl fun n hn => ?_
        rw [Bindings.find?_insert] at hn
        split at hn
        · next hname => exact hname ▸ isVariable_of_split hs hl
        · exact hr.named n hn
      · exact hr

theorem Sound.after {s : Session H} (h : s.Sound) (a : Action H) : (s.after a).Sound := by
  cases a with
  | register t => exact h.register t
  | help => exact h
  | evaluate held line => exact h.attempt held line
  | attempt held line => exact h.attempt held line
  | change k state => exact h.of_bindings rfl (Tracked.kinds_replace k state s.targets) h.named

theorem Reachable.sound {s : Session H} (h : s.Reachable) : s.Sound := by
  induction h with
  | new settings => exact sound_new settings
  | after _ a ih => exact ih.after a

end Session

/-- The session of a host with a calculator and nothing else. -/
def Demo.calculating : Session (host noHost) :=
  (Session.new ⟨true, false⟩).after (.register (calculator .initial))

theorem Demo.reachable_calculating : calculating.Reachable :=
  .after (.new _) _

end HostConsole
