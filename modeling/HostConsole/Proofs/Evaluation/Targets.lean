import HostConsole.Proofs.Evaluation.Invocation

/-! What runs do to targets. The state of each target is a fold over the runs, in which
those of operations of other kinds count for nothing. -/

namespace HostConsole

variable {H : Host}

namespace Tracked

/-- The kinds that have a target. -/
def kinds (ts : List (Tracked H)) : List H.Kind :=
  ts.map Tracked.kind

theorem find?_eq_none_iff {k : H.Kind} {ts : List (Tracked H)} :
    find? k ts = none ↔ k ∉ kinds ts := by
  induction ts with
  | nil => simp [find?, kinds]
  | cons t ts ih =>
    rw [find?, kinds, List.map_cons, List.mem_cons, not_or]
    split
    · next h => simp [h]
    · next h => rw [ih, and_iff_right (Ne.symm h), kinds]

@[simp]
theorem kinds_replace (k : H.Kind) (state : H.State k) (ts : List (Tracked H)) :
    kinds (replace k state ts) = kinds ts := by
  induction ts with
  | nil => rfl
  | cons t ts ih =>
    unfold kinds at ih
    rw [replace]
    split
    · next h => simp [kinds, h]
    · simp [kinds, ih]

@[simp]
theorem find?_replace_self {k : H.Kind} {ts : List (Tracked H)} (state : H.State k) :
    find? k (replace k state ts) = (find? k ts).map fun _ => state := by
  induction ts with
  | nil => rfl
  | cons t ts ih =>
    rw [replace, find?]
    by_cases h : t.kind = k
    · rw [if_pos h, dif_pos h, find?, dif_pos rfl]
      rfl
    · rw [if_neg h, dif_neg h, find?, dif_neg h, ih]

theorem find?_replace_of_ne {k k' : H.Kind} (h : k' ≠ k) (state : H.State k')
    (ts : List (Tracked H)) : find? k (replace k' state ts) = find? k ts := by
  induction ts with
  | nil => rfl
  | cons t ts ih =>
    rw [replace]
    by_cases ht : t.kind = k'
    · rw [if_pos ht, find?, find?, dif_neg h, dif_neg (ht ▸ h)]
    · rw [if_neg ht, find?, find?, ih]

theorem find?_append (k : H.Kind) (ts us : List (Tracked H)) :
    find? k (ts ++ us) = (find? k ts).or (find? k us) := by
  induction ts with
  | nil => rfl
  | cons t ts ih =>
    rw [List.cons_append, find?, find?]
    split
    · rfl
    · exact ih

theorem replace_append {k : H.Kind} {ts : List (Tracked H)} (h : k ∈ kinds ts)
    (state : H.State k) (us : List (Tracked H)) :
    replace k state (ts ++ us) = replace k state ts ++ us := by
  induction ts with
  | nil => cases h
  | cons t ts ih =>
    rw [List.cons_append, replace, replace]
    split
    · rfl
    · next hne =>
      rw [ih ((List.mem_cons.1 h).resolve_left (Ne.symm hne)), List.cons_append]

end Tracked

/-! ### Runs -/

namespace Run

/-- The state of the target of a kind behind a run. -/
def advance (k : H.Kind) (state : H.State k) (r : Run H) : H.State k :=
  if h : r.operation.owner = k then h ▸ (r.reply (h ▸ state)).state else state

theorem find?_effect (k : H.Kind) (r : Run H) (ts : List (Tracked H)) :
    Tracked.find? k (r.effect ts) = (Tracked.find? k ts).map fun state => r.advance k state := by
  unfold effect
  by_cases h : r.operation.owner = k
  · subst h
    cases hs : Tracked.find? r.operation.owner ts with
    | none => simp [hs]
    | some state => simp [hs, advance]
  · have hid : (fun state => advance k state r) = id := by
      funext state
      simp [advance, h]
    rw [hid, Option.map_id]
    split
    · rfl
    · exact Tracked.find?_replace_of_ne h _ ts

/-- Runs of operations of other kinds leave a target as it is. -/
theorem foldl_advance_of_ne {k : H.Kind} {rs : List (Run H)}
    (h : ∀ r ∈ rs, r.operation.owner ≠ k) (state : H.State k) :
    rs.foldl (advance k) state = state := by
  induction rs with
  | nil => rfl
  | cons r rs ih =>
    have hr : r.advance k state = state := dif_neg (h r List.mem_cons_self)
    rw [List.foldl_cons, hr]
    exact ih fun t ht => h t (List.mem_cons_of_mem r ht)

@[simp]
theorem kinds_effect (r : Run H) (ts : List (Tracked H)) :
    Tracked.kinds (r.effect ts) = Tracked.kinds ts := by
  unfold effect
  split <;> simp

end Run

namespace Progress

@[simp]
theorem kinds_performAll (p : Progress H) (rs : List (Run H)) :
    Tracked.kinds (p.performAll rs).targets = Tracked.kinds p.targets := by
  induction rs generalizing p with
  | nil => rfl
  | cons r rs ih => exact (ih _).trans (r.kinds_effect p.targets)

theorem find?_performAll (k : H.Kind) (p : Progress H) (rs : List (Run H)) :
    Tracked.find? k (p.performAll rs).targets =
      (Tracked.find? k p.targets).map fun state => rs.foldl (Run.advance k) state := by
  induction rs generalizing p with
  | nil => simp
  | cons r rs ih =>
    have h := ih (p.perform r)
    rw [perform, r.find?_effect k, Option.map_map] at h
    exact h

theorem nextRun_performAll (p : Progress H) (rs : List (Run H)) :
    (p.performAll rs).nextRun = p.nextRun + rs.length := by
  induction rs generalizing p with
  | nil => rfl
  | cons r rs ih =>
    have h := ih (p.perform r)
    rw [List.length_cons, Nat.add_comm rs.length, ← Nat.add_assoc]
    exact h

/-- Each of the runs is one that can happen next behind those before it. -/
theorem NextAll.getElem? {held : List H.Kind} {p : Progress H} {rs : List (Run H)}
    (h : p.NextAll held rs) {i : Nat} {r : Run H} (hr : rs[i]? = some r) :
    (p.performAll (rs.take i)).Next held r := by
  induction rs generalizing p i with
  | nil => cases hr
  | cons t rs ih =>
    cases i with
    | zero =>
      cases hr
      exact h.1
    | succ i => exact ih h.2 hr

end Progress

end HostConsole
