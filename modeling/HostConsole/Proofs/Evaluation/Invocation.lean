import HostConsole.Session.Evaluation
import Mathlib.Logic.Basic

/-! What a call comes to once its arguments are resolved. Either it is stuck before
anything runs, or the operation it means runs once, on arguments that fit. A run says
all of what it changes, so the progress behind some runs is a fold over them. -/

namespace HostConsole

variable {H : Host}

namespace Evaluation

theorem bind_ok {α β : Type} {x : Evaluation H α} {p q : Progress H} {v : α}
    (h : x p = (.ok v, q)) (f : α → Evaluation H β) : (x >>= f) p = f v q := by
  change ExceptT.bindCont f (x p).1 (x p).2 = _
  rw [h]
  rfl

theorem bind_error {α β : Type} {x : Evaluation H α} {p q : Progress H} {e : Fault}
    (h : x p = (.error e, q)) (f : α → Evaluation H β) : (x >>= f) p = (.error e, q) := by
  change ExceptT.bindCont f (x p).1 (x p).2 = _
  rw [h]
  rfl

theorem bind_return {α β : Type} {x : Evaluation H α} {p q : Progress H} {res : Except Fault α}
    (h : x p = (res, q)) (g : α → β) : (x >>= fun v => return g v) p = (res.map g, q) := by
  cases res with
  | error e => exact bind_error h _
  | ok v => exact bind_ok h _

end Evaluation

/-! ### Runs and what they change -/

namespace Run

/-- The value of a run. A run that failed has none. -/
def value (r : Run H) : Option H.Value :=
  match r.result with
  | .ok v => v
  | .error _ => none

/-- Whether a run succeeded, with a value or without one. -/
def Returned (r : Run H) : Prop :=
  ∃ v, r.result = .ok v

/-- The result of a run as the result of the call it is made for. -/
def outcome (r : Run H) : Except Fault (Option H.Value) :=
  r.result.mapError fun f => .invocation r.operation.name (.failed f)

def reply (r : Run H) (state : H.State r.operation.owner) :
    Reply H.Content (H.State r.operation.owner) :=
  r.operation.declaration.body r.number r.arguments state

/-- The targets behind a run. Only the one of the operation's kind has changed. -/
def effect (r : Run H) (ts : List (Tracked H)) : List (Tracked H) :=
  match Tracked.find? r.operation.owner ts with
  | none => ts
  | some state => Tracked.replace r.operation.owner (r.reply state).state ts

/-- What is reported of a run. A run that failed is not mentioned. -/
def report (r : Run H) : List Entry :=
  match r.result with
  | .ok _ => [⟨.info, "Method invoked: " ++ r.operation.callText r.arguments⟩]
  | .error _ => []

end Run

namespace Progress

def perform (p : Progress H) (r : Run H) : Progress H :=
  { targets := r.effect p.targets
    nextRun := p.nextRun + 1
    runs := p.runs ++ [r]
    log := p.log ++ r.report }

def performAll (p : Progress H) (rs : List (Run H)) : Progress H :=
  rs.foldl perform p

@[simp]
theorem performAll_nil (p : Progress H) : p.performAll [] = p :=
  rfl

theorem performAll_append (p : Progress H) (rs ts : List (Run H)) :
    p.performAll (rs ++ ts) = (p.performAll rs).performAll ts :=
  List.foldl_append

theorem runs_performAll (p : Progress H) (rs : List (Run H)) :
    (p.performAll rs).runs = p.runs ++ rs := by
  induction rs generalizing p with
  | nil => simp
  | cons r rs ih =>
    have h := ih (p.perform r)
    simpa [performAll, perform] using h

theorem log_performAll (p : Progress H) (rs : List (Run H)) :
    (p.performAll rs).log = p.log ++ rs.flatMap Run.report := by
  induction rs generalizing p with
  | nil => simp
  | cons r rs ih =>
    have h := ih (p.perform r)
    simpa [performAll, perform] using h

/-- A run that can happen next: it has the next number, its target is at hand, and its
result is what the operation's body gives on the target's state. -/
structure Next (held : List H.Kind) (p : Progress H) (r : Run H) : Prop where
  number : r.number = p.nextRun
  free : r.operation.owner ∉ held
  result : ∃ state, Tracked.find? r.operation.owner p.targets = some state ∧
    r.result = (r.reply state).result

/-- Runs that can happen one after another. -/
def NextAll (held : List H.Kind) (p : Progress H) : List (Run H) → Prop
  | [] => True
  | r :: rs => p.Next held r ∧ (p.perform r).NextAll held rs

theorem nextAll_append {held : List H.Kind} {p : Progress H} {rs ts : List (Run H)} :
    p.NextAll held (rs ++ ts) ↔ p.NextAll held rs ∧ (p.performAll rs).NextAll held ts := by
  induction rs generalizing p with
  | nil => simp [NextAll]
  | cons r rs ih =>
    rw [List.cons_append, NextAll, NextAll, ih, and_assoc]
    rfl

end Progress

/-! ### Calls with resolved arguments -/

/-- A call with the values of its arguments. -/
structure Resolved (H : Host) where
  call : Call
  values : List (Option H.Value)

namespace Scope

/-- Why a call is turned down before anything runs. -/
inductive Rejects (s : Scope H) (n : Resolved H) : Fault → Prop where
  | unknown (ho : Session.operation? s.operations n.call.name = none) :
      Rejects s n (.unknownCommand n.call.name)
  | arity {o : Operation H} (ho : Session.operation? s.operations n.call.name = some o)
      (ha : n.values.length ≠ o.arity ∨ beginsEmpty n.call.arguments = true) :
      Rejects s n (.arityMismatch o.signature n.call.name (resolvedText n.values))
  | coercion {o : Operation H} {f : Fault}
      (ho : Session.operation? s.operations n.call.name = some o)
      (ha : n.values.length = o.arity) (he : beginsEmpty n.call.arguments = false)
      (hf : coerceAll n.values o.parameters = .error f) : Rejects s n f

/-- The operation that a call means, and its arguments where they fit. -/
structure Admits (s : Scope H) (n : Resolved H) (o : Operation H)
    (arguments : Arguments H.Content) : Prop where
  known : Session.operation? s.operations n.call.name = some o
  count : n.values.length = o.arity
  first : beginsEmpty n.call.arguments = false
  fits : coerceAll n.values o.parameters = .ok arguments.values

theorem Rejects.not_admits {s : Scope H} {n : Resolved H} {f : Fault} (h : s.Rejects n f)
    (o : Operation H) (arguments : Arguments H.Content) : ¬s.Admits n o arguments := by
  rintro ⟨hknown, hcount, hfirst, hfits⟩
  cases h with
  | unknown ho =>
    rw [hknown] at ho
    cases ho
  | arity ho ha =>
    rw [hknown] at ho
    cases ho
    rcases ha with ha | ha
    · exact ha hcount
    · rw [hfirst] at ha
      cases ha
  | coercion ho _ _ hf =>
    rw [hknown] at ho
    cases ho
    rw [hfits] at hf
    cases hf

/-- Why a call runs nothing: it is rejected, or its target is not at hand. -/
inductive Stuck (s : Scope H) (p : Progress H) (n : Resolved H) : Fault → Prop where
  | rejected {f : Fault} (h : s.Rejects n f) : Stuck s p n f
  | untracked {o : Operation H} {arguments : Arguments H.Content} (h : s.Admits n o arguments)
      (ht : Tracked.find? o.owner p.targets = none) :
      Stuck s p n (.invocation o.name (.untracked o.ownerName))
  | inUse {o : Operation H} {arguments : Arguments H.Content} (h : s.Admits n o arguments)
      (hh : o.owner ∈ s.held) : Stuck s p n (.invocation o.name (.inUse o.ownerName))

/-- What a call comes to, with the progress behind it. -/
inductive Settles (s : Scope H) (p : Progress H) (n : Resolved H) :
    Except Fault (Option H.Value) × Progress H → Prop where
  | stuck {f : Fault} (h : s.Stuck p n f) : Settles s p n (.error f, p)
  | ran {r : Run H} (h : s.Admits n r.operation r.arguments) (hr : p.Next s.held r) :
      Settles s p n (r.outcome, p.perform r)

/-- A run of an operation on a target at hand. -/
theorem run_eq_perform {held : List H.Kind} {p : Progress H} {r : Run H} (hr : p.Next held r) :
    r.operation.run held r.arguments p = (r.outcome, p.perform r) := by
  obtain ⟨number, o, arguments, result⟩ := r
  obtain ⟨hn, hh, state, ht, hres⟩ := hr
  cases hn
  have hreply : (o.declaration.body p.nextRun arguments state).result = result := hres.symm
  have heff : Run.effect ⟨p.nextRun, o, arguments, result⟩ p.targets = Tracked.replace o.owner
      (o.declaration.body p.nextRun arguments state).state p.targets := by
    simp only [Run.effect, ht]
    rfl
  simp only [Operation.run, ht, if_neg hh, hreply, Progress.perform, heff]
  cases result with
  | error f =>
    simp only [Run.report, Progress.record, hreply, List.append_nil]
    rfl
  | ok v =>
    simp only [Run.report, Progress.record, Progress.report, hreply]
    rfl

theorem run_settles {s : Scope H} {n : Resolved H} {o : Operation H}
    {arguments : Arguments H.Content} (h : s.Admits n o arguments) (p : Progress H) :
    s.Settles p n (o.run s.held arguments p) := by
  cases ht : Tracked.find? o.owner p.targets with
  | none =>
    have he : o.run s.held arguments p =
        (.error (.invocation o.name (.untracked o.ownerName)), p) := by
      simp only [Operation.run, ht]
    rw [he]
    exact .stuck (.untracked h ht)
  | some state =>
    by_cases hh : o.owner ∈ s.held
    · have he : o.run s.held arguments p =
          (.error (.invocation o.name (.inUse o.ownerName)), p) := by
        simp only [Operation.run, ht, if_pos hh]
      rw [he]
      exact .stuck (.inUse h hh)
    · let r : Run H := ⟨p.nextRun, o, arguments,
        (o.declaration.body p.nextRun arguments state).result⟩
      have hr : p.Next s.held r := ⟨rfl, hh, state, ht, rfl⟩
      have he : o.run s.held arguments p = (r.outcome, p.perform r) := run_eq_perform hr
      rw [he]
      exact .ran h hr

theorem invoke_settles (s : Scope H) (n : Resolved H) (p : Progress H) :
    s.Settles p n (s.invoke n.call.name n.call.arguments n.values p) := by
  rw [invoke]
  cases ho : Session.operation? s.operations n.call.name with
  | none => exact .stuck (.rejected (.unknown ho))
  | some o =>
    dsimp only
    by_cases ha : n.values.length = o.arity ∧ beginsEmpty n.call.arguments = false
    · rw [if_neg (by simp [ha])]
      cases hf : coerceAll n.values o.parameters with
      | error f => exact .stuck (.rejected (.coercion ho ha.1 ha.2 hf))
      | ok ws => exact run_settles ⟨ho, ha.1, ha.2, hf⟩ p
    · have ha' : n.values.length ≠ o.arity ∨ beginsEmpty n.call.arguments = true := by
        rw [not_and_or, Bool.not_eq_false] at ha
        exact ha
      rw [if_pos (by simpa using ha')]
      exact .stuck (.rejected (.arity ho ha'))

end Scope

end HostConsole
