import HostConsole.Proofs.Evaluation.Invocation

/-! Two evaluations of one tree side by side. A relation between evaluations that passes from
the parts of a sequence to the whole holds of a tree as soon as it holds of each run of an
operation, where the two know the same names. -/

namespace HostConsole

variable {H : Host}

/-- A relation that an evaluation without effects has to itself, and that sequences inherit from
their parts. -/
structure Evaluation.Compositional
    (R : ∀ {α : Type}, Evaluation H α → Evaluation H α → Prop) : Prop where
  constant : ∀ {α : Type} (res : Except Fault α), R (fun p => (res, p)) (fun p => (res, p))
  bind : ∀ {α β : Type} {x y : Evaluation H α} {f g : α → Evaluation H β},
    R x y → (∀ v, R (f v) (g v)) → R (x >>= f) (y >>= g)

namespace Scope

variable {R : ∀ {α : Type}, Evaluation H α → Evaluation H α → Prop} {s t : Scope H}

/-- Calls with resolved arguments, where all names known to `s` mean the same to `t`. -/
theorem invoke_related (hR : Evaluation.Compositional R)
    (hknown : ∀ {name : String} {o : Operation H},
      Session.operation? s.operations name = some o → Session.operation? t.operations name = some o)
    (hunknown : ∀ name arguments vs, Session.operation? s.operations name = none →
      R (s.invoke name arguments vs) (t.invoke name arguments vs))
    (hrun : ∀ o ∈ s.operations, ∀ arguments, R (o.run s.held arguments) (o.run t.held arguments))
    (name : String) (arguments : List Argument) (vs : List (Option H.Value)) :
    R (s.invoke name arguments vs) (t.invoke name arguments vs) := by
  cases ho : Session.operation? s.operations name with
  | none => exact hunknown name arguments vs ho
  | some o =>
    rw [invoke, invoke, ho, hknown ho]
    dsimp only
    split
    · exact hR.constant _
    · split
      · exact hR.constant _
      · exact hrun o (List.mem_of_find?_eq_some ho) _

theorem invoke_related_of_eq (hR : Evaluation.Compositional R) (ho : s.operations = t.operations)
    (hrun : ∀ (o : Operation H) arguments, R (o.run s.held arguments) (o.run t.held arguments))
    (name : String) (arguments : List Argument) (vs : List (Option H.Value)) :
    R (s.invoke name arguments vs) (t.invoke name arguments vs) := by
  refine invoke_related hR (fun h => ho ▸ h) (fun name arguments vs h => ?_)
    (fun o _ => hrun o) name arguments vs
  rw [invoke, invoke, ← ho, h]
  exact hR.constant _

mutual

theorem resolve_related (hR : Evaluation.Compositional R) (hb : s.bindings = t.bindings)
    (hi : ∀ name arguments vs, R (s.invoke name arguments vs) (t.invoke name arguments vs)) :
    ∀ a, R (s.resolve a) (t.resolve a)
  | .text content => by
    have hv : s.valueOf content = t.valueOf content := by rw [valueOf, valueOf, hb]
    rw [resolve, resolve, hv]
    exact hR.constant _
  | .call name arguments => by
    rw [resolve, resolve]
    exact hR.bind (resolveAll_related hR hb hi arguments) fun vs => hi name arguments vs

theorem resolveAll_related (hR : Evaluation.Compositional R) (hb : s.bindings = t.bindings)
    (hi : ∀ name arguments vs, R (s.invoke name arguments vs) (t.invoke name arguments vs)) :
    ∀ as, R (s.resolveAll as) (t.resolveAll as)
  | [] => by
    rw [resolveAll, resolveAll]
    exact hR.constant _
  | a :: as => by
    rw [resolveAll, resolveAll]
    exact hR.bind (resolve_related hR hb hi a) fun v =>
      hR.bind (resolveAll_related hR hb hi as) fun vs => hR.constant _

end

end Scope

end HostConsole
