import HostConsole.Proofs.Call.Tree
import HostConsole.Proofs.Evaluation.Invocation
import Mathlib.Data.List.Forall2
import Mathlib.Order.Nat

/-! The order of evaluation. The calls of a tree run in post-order, arguments from left
to right before the call they stand in. Evaluation follows that order up to the first
call that is stuck or whose run fails, and goes no further. -/

namespace HostConsole

variable {H : Host}

namespace Scope

/-- The value of an argument whose calls gave these values, in post-order. -/
def valueFrom (s : Scope H) (vs : List (Option H.Value)) : Argument → Option H.Value
  | .text content => some (s.valueOf content)
  | .call _ arguments => (vs[(Argument.callsAll arguments).length]?).join

def valuesFrom (s : Scope H) (vs : List (Option H.Value)) : List Argument → List (Option H.Value)
  | [] => []
  | a :: as => s.valueFrom vs a :: s.valuesFrom (vs.drop a.calls.length) as

mutual

/-- The calls of an argument in post-order, each with the values of its arguments, where
the calls gave these values. Those of a call depend on earlier ones only. -/
def resolved (s : Scope H) (vs : List (Option H.Value)) : Argument → List (Resolved H)
  | .text _ => []
  | .call name arguments =>
    s.resolvedAll vs arguments ++ [⟨⟨name, arguments⟩, s.valuesFrom vs arguments⟩]

def resolvedAll (s : Scope H) (vs : List (Option H.Value)) : List Argument → List (Resolved H)
  | [] => []
  | a :: as => s.resolved vs a ++ s.resolvedAll (vs.drop a.calls.length) as

end

mutual

theorem map_call_resolved (s : Scope H) (vs : List (Option H.Value)) :
    ∀ a, (s.resolved vs a).map Resolved.call = a.calls
  | .text _ => by simp [resolved, Argument.calls]
  | .call name arguments => by
    simp [resolved, Argument.calls, map_call_resolvedAll s vs arguments]

theorem map_call_resolvedAll (s : Scope H) (vs : List (Option H.Value)) :
    ∀ as, (s.resolvedAll vs as).map Resolved.call = Argument.callsAll as
  | [] => by simp [resolvedAll, Argument.callsAll]
  | a :: as => by
    simp [resolvedAll, Argument.callsAll, map_call_resolved s vs a,
      map_call_resolvedAll s (vs.drop a.calls.length) as]

end

theorem length_resolved (s : Scope H) (vs : List (Option H.Value)) (a : Argument) :
    (s.resolved vs a).length = a.calls.length := by
  rw [← map_call_resolved s vs a, List.length_map]

theorem length_resolvedAll (s : Scope H) (vs : List (Option H.Value)) (as : List Argument) :
    (s.resolvedAll vs as).length = (Argument.callsAll as).length := by
  rw [← map_call_resolvedAll s vs as, List.length_map]

/-! ### Later values do not count -/

theorem valueFrom_append (s : Scope H) {vs : List (Option H.Value)} (ws : List (Option H.Value))
    {a : Argument} (h : a.calls.length ≤ vs.length) :
    s.valueFrom (vs ++ ws) a = s.valueFrom vs a := by
  cases a with
  | text content => rfl
  | call name arguments =>
    rw [Argument.calls, List.length_append, List.length_singleton] at h
    rw [valueFrom, valueFrom, List.getElem?_append_left h]

theorem valuesFrom_append (s : Scope H) {vs : List (Option H.Value)} (ws : List (Option H.Value))
    {as : List Argument} (h : (Argument.callsAll as).length ≤ vs.length) :
    s.valuesFrom (vs ++ ws) as = s.valuesFrom vs as := by
  induction as generalizing vs with
  | nil => rfl
  | cons a as ih =>
    rw [Argument.callsAll, List.length_append] at h
    rw [valuesFrom, valuesFrom, valueFrom_append s ws (by omega),
      List.drop_append_of_le_length (by omega), ih (by rw [List.length_drop]; omega)]

mutual

theorem resolved_append (s : Scope H) {vs : List (Option H.Value)} (ws : List (Option H.Value)) :
    ∀ {a : Argument}, a.calls.length ≤ vs.length → s.resolved (vs ++ ws) a = s.resolved vs a
  | .text _, _ => by simp [resolved]
  | .call name arguments, h => by
    rw [Argument.calls, List.length_append, List.length_singleton] at h
    rw [resolved, resolved, resolvedAll_append s ws (by omega), valuesFrom_append s ws (by omega)]

theorem resolvedAll_append (s : Scope H) {vs : List (Option H.Value)}
    (ws : List (Option H.Value)) :
    ∀ {as : List Argument}, (Argument.callsAll as).length ≤ vs.length →
      s.resolvedAll (vs ++ ws) as = s.resolvedAll vs as
  | [], _ => by simp [resolvedAll]
  | a :: as, h => by
    rw [Argument.callsAll, List.length_append] at h
    rw [resolvedAll, resolvedAll, resolved_append s ws (by omega),
      List.drop_append_of_le_length (by omega),
      resolvedAll_append s ws (by rw [List.length_drop]; omega)]

end

theorem resolvedAll_cons_append (s : Scope H) {vs : List (Option H.Value)} {a : Argument}
    (h : vs.length = a.calls.length) (ws : List (Option H.Value)) (as : List Argument) :
    s.resolvedAll (vs ++ ws) (a :: as) = s.resolved vs a ++ s.resolvedAll ws as := by
  rw [resolvedAll, resolved_append s ws h.ge, ← h, List.drop_left]

theorem valuesFrom_cons_append (s : Scope H) {vs : List (Option H.Value)} {a : Argument}
    (h : vs.length = a.calls.length) (ws : List (Option H.Value)) (as : List Argument) :
    s.valuesFrom (vs ++ ws) (a :: as) = s.valueFrom vs a :: s.valuesFrom ws as := by
  rw [valuesFrom, valueFrom_append s ws h.ge, ← h, List.drop_left]

/-! ### Evaluation follows the order -/

/-- How evaluation ends, with `todo` the calls that it did not get to run: with a value if
there are none, and else at the first of them, unless a run has failed. -/
inductive Ends {α : Type} (s : Scope H) (p : Progress H) (todo : List (Resolved H))
    (rs : List (Run H)) (v : α) : Except Fault α → Prop where
  | complete (ht : todo = []) (hr : ∀ r ∈ rs, r.Returned) : Ends s p todo rs v (.ok v)
  | stuck {n : Resolved H} {f : Fault} (ht : todo.head? = some n) (hr : ∀ r ∈ rs, r.Returned)
      (h : s.Stuck p n f) : Ends s p todo rs v (.error f)
  | failed {r : Run H} {f : Failure} (hl : rs.getLast? = some r)
      (hr : ∀ r ∈ rs.dropLast, r.Returned) (hf : r.result = .error f) :
      Ends s p todo rs v (.error (.invocation r.operation.name (.failed f)))

theorem Ends.of_error {α β : Type} {s : Scope H} {p : Progress H} {todo : List (Resolved H)}
    {rs : List (Run H)} {v : α} {f : Fault} (h : s.Ends p todo rs v (.error f))
    (more : List (Resolved H)) (w : β) : s.Ends p (todo ++ more) rs w (.error f) := by
  cases h with
  | stuck ht hr h => exact .stuck (by rw [List.head?_append, ht]; rfl) hr h
  | failed hl hr hf => exact .failed hl hr hf

theorem Ends.after {α β : Type} {s : Scope H} {p : Progress H} {todo : List (Resolved H)}
    {rs ts : List (Run H)} {v : α} {res : Except Fault α} (h : s.Ends p todo ts v res)
    (hrs : ∀ r ∈ rs, r.Returned) (g : α → β) :
    s.Ends p todo (rs ++ ts) (g v) (res.map g) := by
  have hall : (∀ r ∈ ts, r.Returned) → ∀ r ∈ rs ++ ts, r.Returned := fun hts r hr =>
    (List.mem_append.1 hr).elim (hrs r) (hts r)
  cases h with
  | complete ht hr => exact .complete ht (hall hr)
  | stuck ht hr h => exact .stuck ht (hall hr) h
  | @failed r f hl hr hf =>
    have hne : ts ≠ [] := by
      rintro rfl
      cases hl
    refine .failed (by rw [List.getLast?_append, hl]; rfl) (fun t ht => ?_) hf
    rw [List.dropLast_append_of_ne_nil hne] at ht
    exact (List.mem_append.1 ht).elim (hrs t) (hr t)

/-- Evaluation along an order of calls: `rs` are the runs it makes and `done` the calls
they are made for. -/
structure Follows {α : Type} (s : Scope H) (p : Progress H) (order : List (Resolved H)) (v : α)
    (rs : List (Run H)) (res : Except Fault α × Progress H) : Prop where
  progress : res.2 = p.performAll rs
  next : p.NextAll s.held rs
  ends : ∃ done todo, order = done ++ todo ∧
    List.Forall₂ (fun n r => s.Admits n r.operation r.arguments) done rs ∧
    s.Ends res.2 todo rs v res.1

/-- Where all calls of an order have run, there are as many runs as calls. -/
theorem length_of_complete {s : Scope H} {order done : List (Resolved H)} {rs : List (Run H)}
    (ho : order = done ++ [])
    (hd : List.Forall₂ (fun n r => s.Admits n r.operation r.arguments) done rs) :
    (rs.map Run.value).length = order.length := by
  rw [ho, List.append_nil, List.length_map, hd.length_eq]

theorem ends_of_ran {s : Scope H} (p : Progress H) {rs : List (Run H)} {r : Run H}
    (hrs : ∀ t ∈ rs, t.Returned) : s.Ends p [] (rs ++ [r]) r.value r.outcome := by
  unfold Run.value Run.outcome
  cases hr : r.result with
  | error f => exact .failed (by simp) (by simpa using hrs) hr
  | ok v =>
    refine .complete rfl fun t ht => ?_
    rcases List.mem_append.1 ht with ht | ht
    · exact hrs t ht
    · rw [List.mem_singleton.1 ht]
      exact ⟨v, hr⟩

/-- A call follows its arguments. -/
theorem Follows.call {s : Scope H} {arguments : List Argument} {p : Progress H}
    {rs : List (Run H)}
    (h : s.Follows p (s.resolvedAll (rs.map Run.value) arguments)
      (s.valuesFrom (rs.map Run.value) arguments) rs (s.resolveAll arguments p))
    (name : String) :
    ∃ ts, s.Follows p (s.resolved (ts.map Run.value) (.call name arguments))
      (s.valueFrom (ts.map Run.value) (.call name arguments)) ts
      (s.resolve (.call name arguments) p) := by
  obtain ⟨hp, hn, done, todo, horder, hdone, hends⟩ := h
  rw [resolve]
  rcases he : s.resolveAll arguments p with ⟨f | vs, q⟩
  · rw [he] at hp hends
    rw [Evaluation.bind_error he]
    -- the call is one more that has not run
    let n : Resolved H := ⟨⟨name, arguments⟩, s.valuesFrom (rs.map Run.value) arguments⟩
    refine ⟨rs, hp, hn, done, todo ++ [n], ?_, hdone, hends.of_error [n] _⟩
    rw [resolved, horder, List.append_assoc]
  · rw [he] at hp hends
    rw [Evaluation.bind_ok he]
    dsimp only at hp hends
    subst hp
    cases hends with
    | complete ht hr =>
      subst ht
      have hlen : (rs.map Run.value).length = (Argument.callsAll arguments).length := by
        rw [length_of_complete horder hdone, length_resolvedAll]
      -- the arguments have run in full, so their values are those that the call is given
      let n : Resolved H := ⟨⟨name, arguments⟩, s.valuesFrom (rs.map Run.value) arguments⟩
      have hset := s.invoke_settles n (p.performAll rs)
      generalize s.invoke _ _ _ _ = out at hset
      cases hset with
      | stuck h =>
        refine ⟨rs, rfl, hn, done, [n], ?_, hdone, .stuck rfl hr h⟩
        rw [resolved, horder, List.append_nil]
      | @ran r h hnext =>
        refine ⟨rs ++ [r], (p.performAll_append rs [r]).symm,
          Progress.nextAll_append.2 ⟨hn, hnext, trivial⟩, done ++ [n], [], ?_,
          List.rel_append hdone (.cons h .nil), ?_⟩
        · rw [List.map_append, resolved, resolvedAll_append s _ hlen.ge,
            valuesFrom_append s _ hlen.ge, horder, List.append_nil, List.append_nil]
        · have hv : s.valueFrom ((rs ++ [r]).map Run.value) (.call name arguments) = r.value := by
            rw [valueFrom, List.map_append, ← hlen]
            simp
          rw [hv]
          exact ends_of_ran _ hr

/-- The arguments behind another follow it. -/
theorem Follows.cons {s : Scope H} {a : Argument} {as : List Argument} {p : Progress H}
    {rs : List (Run H)}
    (h : s.Follows p (s.resolved (rs.map Run.value) a) (s.valueFrom (rs.map Run.value) a) rs
      (s.resolve a p))
    (has : ∀ q, ∃ ts, s.Follows q (s.resolvedAll (ts.map Run.value) as)
      (s.valuesFrom (ts.map Run.value) as) ts (s.resolveAll as q)) :
    ∃ ts, s.Follows p (s.resolvedAll (ts.map Run.value) (a :: as))
      (s.valuesFrom (ts.map Run.value) (a :: as)) ts (s.resolveAll (a :: as) p) := by
  obtain ⟨hp, hn, done, todo, horder, hdone, hends⟩ := h
  rw [resolveAll]
  rcases he : s.resolve a p with ⟨f | v, q⟩
  · rw [he] at hp hends
    rw [Evaluation.bind_error he]
    refine ⟨rs, hp, hn, done, todo ++ s.resolvedAll ((rs.map Run.value).drop a.calls.length) as,
      ?_, hdone, hends.of_error _ _⟩
    rw [resolvedAll, horder, List.append_assoc]
  · rw [he] at hp hends
    rw [Evaluation.bind_ok he]
    dsimp only at hp hends
    subst hp
    cases hends with
    | complete ht hr =>
      subst ht
      have hlen : (rs.map Run.value).length = a.calls.length := by
        rw [length_of_complete horder hdone, length_resolved]
      -- the others begin with what the first one's runs have left
      obtain ⟨ts, hp', hn', done', todo', horder', hdone', hends'⟩ := has (p.performAll rs)
      rcases he' : s.resolveAll as (p.performAll rs) with ⟨res, q⟩
      rw [he'] at hp' hends'
      rw [Evaluation.bind_return he']
      refine ⟨rs ++ ts, ?_, Progress.nextAll_append.2 ⟨hn, hn'⟩, done ++ done', todo', ?_,
        List.rel_append hdone hdone', ?_⟩
      · rw [hp', Progress.performAll_append]
      · rw [List.map_append, resolvedAll_cons_append s hlen, horder, horder', List.append_nil,
          List.append_assoc]
      · rw [List.map_append, valuesFrom_cons_append s hlen]
        exact hends'.after hr _

mutual

theorem resolve_follows (s : Scope H) : ∀ (a : Argument) (p : Progress H),
    ∃ rs, s.Follows p (s.resolved (rs.map Run.value) a) (s.valueFrom (rs.map Run.value) a) rs
      (s.resolve a p)
  | .text _, p => by
    rw [resolve]
    exact ⟨[], rfl, trivial, [], [], rfl, .nil, .complete rfl (by simp)⟩
  | .call name arguments, p => by
    obtain ⟨rs, h⟩ := resolveAll_follows s arguments p
    exact h.call name

theorem resolveAll_follows (s : Scope H) : ∀ (as : List Argument) (p : Progress H),
    ∃ rs, s.Follows p (s.resolvedAll (rs.map Run.value) as)
      (s.valuesFrom (rs.map Run.value) as) rs (s.resolveAll as p)
  | [], p => by
    rw [resolveAll]
    exact ⟨[], rfl, trivial, [], [], rfl, .nil, .complete rfl (by simp)⟩
  | a :: as, p => by
    obtain ⟨rs, h⟩ := resolve_follows s a p
    exact h.cons fun q => resolveAll_follows s as q

end

end Scope

end HostConsole
