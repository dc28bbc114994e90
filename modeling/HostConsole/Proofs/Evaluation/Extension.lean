import HostConsole.Proofs.Evaluation.Relation
import HostConsole.Proofs.Evaluation.Targets

/-! Evaluation with one more target behind the others, whose operations stand behind the
others too. A tree comes to the same and the target is left alone, as long as the tree meets
no name that was unknown without it. -/

namespace HostConsole

variable {H : Host}

namespace Progress

/-- The progress with a further target behind those it has. -/
def joined (p : Progress H) (t : Tracked H) : Progress H :=
  { p with targets := p.targets ++ [t] }

/-- Each of some operations has a target. -/
def Serves (p : Progress H) (operations : List (Operation H)) : Prop :=
  ∀ o ∈ operations, o.owner ∈ Tracked.kinds p.targets

end Progress

namespace Evaluation

/-- With a further target, `y` comes to what `x` comes to without it, unless that is a name
unknown to `x`. -/
def Extends (operations : List (Operation H)) (t : Tracked H) {α : Type}
    (x y : Evaluation H α) : Prop :=
  ∀ p : Progress H, p.Serves operations → (x p).2.Serves operations ∧
    ((∀ name, (x p).1 ≠ .error (.unknownCommand name)) →
      y (p.joined t) = ((x p).1, (x p).2.joined t))

variable {operations : List (Operation H)} {t : Tracked H}

theorem extends_constant {α : Type} (res : Except Fault α) :
    Extends operations t (fun p => (res, p)) (fun p => (res, p)) :=
  fun _ hp => ⟨hp, fun _ => rfl⟩

theorem Extends.bind {α β : Type} {x y : Evaluation H α} {f g : α → Evaluation H β}
    (hx : Extends operations t x y) (hf : ∀ v, Extends operations t (f v) (g v)) :
    Extends operations t (x >>= f) (y >>= g) := by
  intro p hp
  obtain ⟨hq, h⟩ := hx p hp
  rcases he : x p with ⟨e | v, q⟩
  · rw [he] at hq h
    rw [bind_error he]
    refine ⟨hq, fun hne => bind_error (h fun name hname => hne name ?_) g⟩
    cases hname
    rfl
  · rw [he] at hq h
    rw [bind_ok he, bind_ok (h fun name => by rintro ⟨⟩)]
    exact hf v q hq

theorem compositional_extends (operations : List (Operation H)) (t : Tracked H) :
    Compositional fun x y => Extends operations t x y where
  constant := extends_constant
  bind := Extends.bind

theorem extends_run {o : Operation H} (ho : o ∈ operations) (held : List H.Kind)
    (arguments : Arguments H.Content) :
    Extends operations t (o.run held arguments) (o.run held arguments) := by
  intro p hp
  have howner : o.owner ∈ Tracked.kinds p.targets := hp o ho
  obtain ⟨state, hs⟩ := Option.ne_none_iff_exists'.1 fun h =>
    Tracked.find?_eq_none_iff.1 h howner
  have hs' : Tracked.find? o.owner (p.joined t).targets = some state := by
    rw [Progress.joined, Tracked.find?_append, hs]
    rfl
  by_cases hh : o.owner ∈ held
  · simp only [Operation.run, hs, hs', if_pos hh]
    exact ⟨hp, fun _ => trivial⟩
  · have hr : (p.joined t).record o arguments (o.declaration.body p.nextRun arguments state) =
        (p.record o arguments (o.declaration.body p.nextRun arguments state)).joined t := by
      simp only [Progress.record, Progress.joined, Tracked.replace_append howner]
    have hserves : (p.record o arguments
        (o.declaration.body p.nextRun arguments state)).Serves operations := by
      intro o' ho'
      rw [Progress.record, Tracked.kinds_replace]
      exact hp o' ho'
    have hn : (p.joined t).nextRun = p.nextRun := rfl
    simp only [Operation.run, hs, hs', if_neg hh, hn, hr]
    cases (o.declaration.body p.nextRun arguments state).result with
    | error f => exact ⟨hserves, fun _ => rfl⟩
    | ok v => exact ⟨hserves, fun _ => rfl⟩

end Evaluation

/-- An operation that is found is found among more operations behind it, whatever their
names. -/
theorem Session.operation?_append {operations : List (Operation H)} {name : String}
    {o : Operation H} (h : operation? operations name = some o) (more : List (Operation H)) :
    operation? (operations ++ more) name = some o := by
  rw [operation?, List.find?_append]
  rw [operation?] at h
  rw [h]
  rfl

namespace Scope

variable {s : Scope H} {more : List (Operation H)} {t : Tracked H}

theorem extends_invoke : ∀ name arguments vs,
    Evaluation.Extends s.operations t (s.invoke name arguments vs)
      ({ s with operations := s.operations ++ more }.invoke name arguments vs) := by
  refine invoke_related (t := { s with operations := s.operations ++ more })
    (Evaluation.compositional_extends s.operations t) (Session.operation?_append · more)
    (fun name arguments vs ho => ?_) fun o ho _ => Evaluation.extends_run ho _ _
  rw [invoke, ho]
  exact fun p hp => ⟨hp, fun hne => absurd rfl (hne name)⟩

/-- A tree evaluated with more operations and a further target behind those there are. -/
theorem resolve_extends (s : Scope H) (more : List (Operation H)) (t : Tracked H) (a : Argument) :
    Evaluation.Extends s.operations t (s.resolve a)
      ({ s with operations := s.operations ++ more }.resolve a) :=
  resolve_related (s := s) (t := { s with operations := s.operations ++ more })
    (Evaluation.compositional_extends s.operations t) rfl extends_invoke a

end Scope

end HostConsole
