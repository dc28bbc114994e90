import HostConsole.Proofs.Evaluation.Order

/-! Where the values of arguments come from. Each is what a text stands for, or what a call
before it has given; evaluation makes up no value of its own. -/

namespace HostConsole

variable {H : Host}

namespace Scope

/-- What the first `i` calls have given, or what a text stands for. -/
inductive Stems (s : Scope H) (vs : List (Option H.Value)) (i : Nat) : H.Value → Prop where
  | text (content : String) : Stems s vs i (s.valueOf content)
  | call {j : Nat} {v : H.Value} (hj : j < i) (hv : vs[j]? = some (some v)) : Stems s vs i v

namespace Stems

variable {s : Scope H} {vs : List (Option H.Value)} {i : Nat} {v : H.Value}

theorem mono (h : s.Stems vs i v) {k : Nat} (hk : i ≤ k) : s.Stems vs k v := by
  cases h with
  | text content => exact .text content
  | call hj hv => exact .call (Nat.lt_of_lt_of_le hj hk) hv

theorem of_drop {d : Nat} (h : s.Stems (vs.drop d) i v) : s.Stems vs (d + i) v := by
  cases h with
  | text content => exact .text content
  | call hj hv =>
    rw [List.getElem?_drop] at hv
    exact .call (Nat.add_lt_add_left hj d) hv

end Stems

theorem stems_of_valueFrom {s : Scope H} {vs : List (Option H.Value)} {a : Argument}
    {v : H.Value} (h : s.valueFrom vs a = some v) : s.Stems vs a.calls.length v := by
  cases a with
  | text content =>
    cases h
    exact .text content
  | call name arguments =>
    refine .call ?_ (Option.join_eq_some_iff.1 h)
    simp [Argument.calls]

theorem stems_of_valuesFrom {s : Scope H} {vs : List (Option H.Value)} {as : List Argument}
    {v : H.Value} (h : some v ∈ s.valuesFrom vs as) :
    s.Stems vs (Argument.callsAll as).length v := by
  induction as generalizing vs with
  | nil => simp [valuesFrom] at h
  | cons a as ih =>
    rw [Argument.callsAll, List.length_append]
    rcases List.mem_cons.1 h with h | h
    · exact (stems_of_valueFrom h.symm).mono (Nat.le_add_right _ _)
    · exact (ih h).of_drop

mutual

/-- What a call is given stems from the calls before it in the order. -/
theorem stems_of_resolved {s : Scope H} {vs : List (Option H.Value)} {i : Nat}
    {n : Resolved H} {v : H.Value} (hv : some v ∈ n.values) :
    ∀ {a : Argument}, (s.resolved vs a)[i]? = some n → s.Stems vs i v
  | .text content, h => by simp [resolved] at h
  | .call name arguments, h => by
    rw [resolved, List.getElem?_append, length_resolvedAll] at h
    split at h
    · exact stems_of_resolvedAll hv h
    · next hi =>
      -- the call itself comes behind all that are among its arguments
      rw [List.getElem?_singleton] at h
      split at h
      · cases h
        exact (stems_of_valuesFrom hv).mono (Nat.le_of_not_lt hi)
      · cases h

theorem stems_of_resolvedAll {s : Scope H} {vs : List (Option H.Value)} {i : Nat}
    {n : Resolved H} {v : H.Value} (hv : some v ∈ n.values) :
    ∀ {as : List Argument}, (s.resolvedAll vs as)[i]? = some n → s.Stems vs i v
  | [], h => by simp [resolvedAll] at h
  | a :: as, h => by
    rw [resolvedAll, List.getElem?_append, length_resolved] at h
    split at h
    · exact stems_of_resolved hv h
    · next hi =>
      have hs := (stems_of_resolvedAll hv h).of_drop
      rwa [Nat.add_sub_cancel' (Nat.le_of_not_lt hi)] at hs

end

/-! ### Literal arguments -/

theorem length_valuesFrom (s : Scope H) (vs : List (Option H.Value)) (as : List Argument) :
    (s.valuesFrom vs as).length = as.length := by
  induction as generalizing vs with
  | nil => rfl
  | cons a as ih => rw [valuesFrom, List.length_cons, ih, List.length_cons]

theorem valuesFrom_text {s : Scope H} {vs : List (Option H.Value)} {as : List Argument}
    {j : Nat} {content : String} (h : as[j]? = some (.text content)) :
    (s.valuesFrom vs as)[j]? = some (some (s.valueOf content)) := by
  induction as generalizing vs j with
  | nil => cases h
  | cons a as ih =>
    cases j with
    | zero =>
      cases h
      rfl
    | succ j => exact ih h

mutual

theorem values_of_mem_resolved {s : Scope H} {vs : List (Option H.Value)} {n : Resolved H} :
    ∀ {a : Argument}, n ∈ s.resolved vs a → ∃ ws, n.values = s.valuesFrom ws n.call.arguments
  | .text content, h => by simp [resolved] at h
  | .call name arguments, h => by
    rw [resolved] at h
    rcases List.mem_append.1 h with h | h
    · exact values_of_mem_resolvedAll h
    · obtain rfl := List.mem_singleton.1 h
      exact ⟨vs, rfl⟩

theorem values_of_mem_resolvedAll {s : Scope H} {vs : List (Option H.Value)}
    {n : Resolved H} :
    ∀ {as : List Argument}, n ∈ s.resolvedAll vs as →
      ∃ ws, n.values = s.valuesFrom ws n.call.arguments
  | [], h => by simp [resolvedAll] at h
  | a :: as, h => by
    rw [resolvedAll] at h
    rcases List.mem_append.1 h with h | h
    · exact values_of_mem_resolved h
    · exact values_of_mem_resolvedAll h

end

end Scope

end HostConsole
