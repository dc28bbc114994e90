import HostConsole.Proofs.Evaluation.Relation

/-! Evaluation while the host holds targets, beside evaluation while it holds none. Both make
the same runs up to the first that would be one of a held target, and there the first of the two
evaluations ends. -/

namespace HostConsole

variable {H : Host}

namespace Evaluation

/-- What an evaluation that began with `p` comes to while some targets are held (`e`), where it
comes to `e₀` while none is. -/
inductive Interrupted (held : List H.Kind) (p : Progress H) {α : Type}
    (e₀ e : Except Fault α × Progress H) : Prop where
  | never (rs : List (Run H)) (hp : e₀.2 = p.performAll rs)
    (hfree : ∀ r ∈ rs, r.operation.owner ∉ held) (he : e = e₀)
  | before (rs : List (Run H)) (r : Run H) (ts : List (Run H))
    (hp : e₀.2 = p.performAll (rs ++ r :: ts))
    (hfree : ∀ t ∈ rs, t.operation.owner ∉ held) (hr : r.operation.owner ∈ held)
    (he : e = (.error (.invocation r.operation.name (.inUse r.operation.ownerName)),
      p.performAll rs))

namespace Interrupted

variable {held : List H.Kind} {p : Progress H} {α β : Type} {e₀ e : Except Fault α × Progress H}

theorem exists_performAll (h : Interrupted held p e₀ e) : ∃ rs, e₀.2 = p.performAll rs := by
  cases h with
  | never _ hp => exact ⟨_, hp⟩
  | before _ _ _ hp => exact ⟨_, hp⟩

/-- What comes behind runs of targets that are not held. -/
theorem behind {rs : List (Run H)} (h : Interrupted held (p.performAll rs) e₀ e)
    (hfree : ∀ r ∈ rs, r.operation.owner ∉ held) : Interrupted held p e₀ e := by
  have happ : ∀ us : List (Run H), (∀ r ∈ us, r.operation.owner ∉ held) →
      ∀ r ∈ rs ++ us, r.operation.owner ∉ held := fun us hus r hr =>
    (List.mem_append.1 hr).elim (hfree r) (hus r)
  cases h with
  | never us hp hus he =>
    rw [← Progress.performAll_append] at hp
    exact .never _ hp (happ us hus) he
  | before us r ts hp hus hr he =>
    rw [← Progress.performAll_append] at hp he
    rw [← List.append_assoc] at hp
    exact .before _ r ts hp (happ us hus) hr he

theorem bind {x y : Evaluation H α} {f g : α → Evaluation H β}
    (hx : ∀ p, Interrupted held p (x p) (y p)) (hf : ∀ v p, Interrupted held p (f v p) (g v p))
    (p : Progress H) : Interrupted held p ((x >>= f) p) ((y >>= g) p) := by
  have h := hx p
  rcases h₀ : x p with ⟨e | v, q⟩
  · rw [h₀] at h
    rw [bind_error h₀]
    cases h with
    | never rs hp hfree he =>
      rw [bind_error he]
      exact .never rs hp hfree rfl
    | before rs r ts hp hfree hr he =>
      rw [bind_error he]
      exact .before rs r ts hp hfree hr rfl
  · rw [h₀] at h
    rw [bind_ok h₀]
    cases h with
    | never rs hp hfree he =>
      rw [bind_ok he]
      dsimp only at hp
      subst hp
      exact (hf v _).behind hfree
    | before rs r ts hp hfree hr he =>
      rw [bind_error he]
      dsimp only at hp
      subst hp
      -- what `f` goes on to run stands behind the run of the held target
      obtain ⟨us, hus⟩ := (hf v (p.performAll (rs ++ r :: ts))).exists_performAll
      rw [← Progress.performAll_append, List.append_assoc, List.cons_append] at hus
      exact .before rs r _ hus hfree hr rfl

end Interrupted

theorem compositional_interrupted (held : List H.Kind) :
    Compositional (H := H) fun x y => ∀ p, Interrupted held p (x p) (y p) where
  constant _ _ := .never [] rfl (by simp) rfl
  bind := Interrupted.bind

theorem interrupted_run (o : Operation H) (held : List H.Kind) (arguments : Arguments H.Content)
    (p : Progress H) :
    Interrupted held p (o.run [] arguments p) (o.run held arguments p) := by
  cases ht : Tracked.find? o.owner p.targets with
  | none =>
    simp only [Operation.run, ht]
    exact .never [] rfl (by simp) rfl
  | some state =>
    let r : Run H := ⟨p.nextRun, o, arguments,
      (o.declaration.body p.nextRun arguments state).result⟩
    have hnext : ∀ hs : List H.Kind, o.owner ∉ hs → p.Next hs r := fun hs hh =>
      ⟨rfl, hh, state, ht, rfl⟩
    have h₀ : o.run [] arguments p = (r.outcome, p.perform r) :=
      Scope.run_eq_perform (hnext [] List.not_mem_nil)
    by_cases hh : o.owner ∈ held
    · have he : o.run held arguments p =
          (.error (.invocation o.name (.inUse o.ownerName)), p) := by
        simp only [Operation.run, ht, if_pos hh]
      rw [h₀, he]
      exact .before [] r [] rfl (by simp) hh rfl
    · have he : o.run held arguments p = (r.outcome, p.perform r) :=
        Scope.run_eq_perform (hnext held hh)
      rw [h₀, he]
      exact .never [r] rfl (by simpa using hh) rfl

end Evaluation

namespace Scope

theorem interrupted_invoke (s : Scope H) (held : List H.Kind) : ∀ name arguments vs p,
    Evaluation.Interrupted held p ({ s with held := [] }.invoke name arguments vs p)
      ({ s with held := held }.invoke name arguments vs p) :=
  invoke_related_of_eq (s := { s with held := [] }) (t := { s with held := held })
    (Evaluation.compositional_interrupted held) rfl fun o arguments =>
      Evaluation.interrupted_run o held arguments

/-- A tree evaluated while targets are held, beside the tree evaluated while none is. -/
theorem resolve_interrupted (s : Scope H) (held : List H.Kind) (a : Argument) (p : Progress H) :
    Evaluation.Interrupted held p ({ s with held := [] }.resolve a p)
      ({ s with held := held }.resolve a p) :=
  resolve_related (s := { s with held := [] }) (t := { s with held := held })
    (Evaluation.compositional_interrupted held) rfl (s.interrupted_invoke held) a p

end Scope

end HostConsole
