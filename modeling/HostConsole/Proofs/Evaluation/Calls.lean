import HostConsole.Proofs.Evaluation.Invocation

/-! Calls with no more than two arguments, evaluated step by step. Each comes to what the call
comes to on the values of its arguments, or to the fault of the first that has none. -/

namespace HostConsole.Scope

variable {H : Host} {s : Scope H} {name : String} {a b : Argument} {v w : Option H.Value}
  {f : Fault} {p q r : Progress H}

theorem Admits.invoke_eq {n : Resolved H} {o : Operation H} {arguments : Arguments H.Content}
    (h : s.Admits n o arguments) :
    s.invoke n.call.name n.call.arguments n.values = o.run s.held arguments := by
  rw [invoke, h.known]
  dsimp only
  rw [if_neg (by simp [h.count, h.first]), h.fits]

theorem Rejects.invoke_eq {n : Resolved H} (h : s.Rejects n f) :
    s.invoke n.call.name n.call.arguments n.values p = (.error f, p) := by
  rw [invoke]
  cases h with
  | unknown ho =>
    rw [ho]
    rfl
  | arity ho ha =>
    rw [ho]
    dsimp only
    rw [if_pos (by simpa using ha)]
    rfl
  | coercion ho ha he hf =>
    rw [ho]
    dsimp only
    rw [if_neg (by simp [ha, he]), hf]
    rfl

theorem resolve_bare : s.resolve (.call name []) p = s.invoke name [] [] p := by
  have hall : s.resolveAll [] p = (.ok [], p) := by
    rw [resolveAll]
    rfl
  rw [resolve, Evaluation.bind_ok hall]

theorem resolveAll_single (ha : s.resolve a p = (.ok v, q)) :
    s.resolveAll [a] p = (.ok [v], q) := by
  rw [resolveAll, Evaluation.bind_ok ha, resolveAll]
  rfl

theorem resolve_single (ha : s.resolve a p = (.ok v, q)) :
    s.resolve (.call name [a]) p = s.invoke name [a] [v] q := by
  rw [resolve, Evaluation.bind_ok (resolveAll_single ha)]

theorem resolve_pair (ha : s.resolve a p = (.ok v, q)) (hb : s.resolve b q = (.ok w, r)) :
    s.resolve (.call name [a, b]) p = s.invoke name [a, b] [v, w] r := by
  have hall : s.resolveAll [a, b] p = (.ok [v, w], r) := by
    rw [resolveAll, Evaluation.bind_ok ha, Evaluation.bind_ok (resolveAll_single hb)]
    rfl
  rw [resolve, Evaluation.bind_ok hall]

theorem resolve_pair_first (ha : s.resolve a p = (.error f, q)) :
    s.resolve (.call name [a, b]) p = (.error f, q) := by
  rw [resolve, resolveAll]
  exact Evaluation.bind_error (Evaluation.bind_error ha _) _

theorem resolve_pair_second (ha : s.resolve a p = (.ok v, q))
    (hb : s.resolve b q = (.error f, r)) :
    s.resolve (.call name [a, b]) p = (.error f, r) := by
  rw [resolve, resolveAll]
  refine Evaluation.bind_error ?_ _
  rw [Evaluation.bind_ok ha, resolveAll]
  exact Evaluation.bind_error (Evaluation.bind_error hb _) _

end HostConsole.Scope
