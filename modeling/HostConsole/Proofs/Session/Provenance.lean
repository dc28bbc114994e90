import HostConsole.Proofs.Evaluation.Provenance
import HostConsole.Proofs.Session.History

/-! Where values come from over whole runs. What a line gives, binds or hands to an operation
is the value of an earlier run, or else a text or read from one. Objects are never read, so
each is one that a run has given. -/

namespace HostConsole

variable {H : Host}

/-- A value that one of some runs has given. -/
def GivenBy (rs : List (Run H)) (v : H.Value) : Prop :=
  ∃ r ∈ rs, r.value = some v

namespace GivenBy

variable {rs ts : List (Run H)} {v : H.Value}

theorem append_left (h : GivenBy rs v) : GivenBy (rs ++ ts) v := by
  obtain ⟨r, hr, hv⟩ := h
  exact ⟨r, List.mem_append_left ts hr, hv⟩

theorem append_right (h : GivenBy ts v) : GivenBy (rs ++ ts) v := by
  obtain ⟨r, hr, hv⟩ := h
  exact ⟨r, List.mem_append_right rs hr, hv⟩

end GivenBy

/-- A run whose arguments were each coerced to the type of their parameter, from a text or
from what one of the runs before it had given. -/
structure Run.Supplied (before : List (Run H)) (r : Run H) : Prop where
  size : r.arguments.size = r.operation.arity
  source : ∀ (i : Nat) (p : Parameter), r.operation.parameters[i]? = some p →
    ∃ v w, r.arguments.values[i]? = some w ∧ coerce v p.type = .ok w ∧
      ((∃ text, v = .string text) ∨ GivenBy before v)

namespace Run.Supplied

variable {before : List (Run H)} {r : Run H}

theorem object_of_mem (h : r.Supplied before) {o : Object H.Content}
    (ho : .object o ∈ r.arguments.values) : GivenBy before (.object o) := by
  obtain ⟨i, hi⟩ := List.mem_iff_getElem?.1 ho
  have hlt : i < r.operation.parameters.length :=
    (List.getElem?_eq_some_iff.1 hi).1.trans_eq h.size
  obtain ⟨v, w, hw, hc, hv⟩ := h.source i _ (List.getElem?_eq_getElem hlt)
  rw [hi] at hw
  cases hw
  obtain rfl := eq_of_coerce_object hc
  rcases hv with ⟨text, ht⟩ | hv
  · cases ht
  · exact hv

theorem object_at (h : r.Supplied before) {i : Nat} {p : Parameter} {type : String}
    (hp : r.operation.parameters[i]? = some p) (ht : p.type = .object type) :
    ∃ o, r.arguments.values[i]? = some (.object o) ∧ Described.typeName o.content = type ∧
      GivenBy before (.object o) := by
  obtain ⟨v, w, hw, hc, -⟩ := h.source i p hp
  rw [ht] at hc
  obtain ⟨o, rfl, ho⟩ := eq_object_of_hasType (hasType_of_coerce hc)
  exact ⟨o, hw, ho, h.object_of_mem (List.mem_of_getElem? hw)⟩

end Run.Supplied

namespace Session

/-! ### Lines -/

/-- All variables of a session have values that some runs have given. -/
def BoundBy (s : Session H) (past : List (Run H)) : Prop :=
  ∀ n v, s.bindings.find? n = some v → GivenBy past v

variable {s : Session H} {held : List H.Kind} {o : Outcome H} {past : List (Run H)}

theorem BoundBy.of_stems (hs : s.BoundBy past) {rs : List (Run H)} {i : Nat} {v : H.Value}
    (h : (s.scope held).Stems (rs.map Run.value) i v) :
    (∃ text, v = .string text) ∨ GivenBy (past ++ rs.take i) v := by
  cases h with
  | text content =>
    rw [Scope.valueOf, scope]
    cases hb : s.bindings.find? content with
    | none => exact .inl ⟨content, rfl⟩
    | some v => exact .inr (hs content v hb).append_left
  | @call j _ hj hv =>
    rw [List.getElem?_map, Option.map_eq_some_iff] at hv
    obtain ⟨r, hr, hv⟩ := hv
    have hmem : (rs.take i)[j]? = some r := by rw [List.getElem?_take_of_lt hj, hr]
    exact .inr (.append_right ⟨r, List.mem_of_getElem? hmem, hv⟩)

theorem Executes.supplied {c : Call} {done todo : List (Resolved H)}
    (h : s.Executes held c o done todo) (hs : s.BoundBy past) {i : Nat} {r : Run H}
    (hr : o.runs[i]? = some r) : r.Supplied (past ++ o.runs.take i) := by
  obtain ⟨n, hn, ha⟩ := h.admits hr
  obtain ⟨hlen, hfit⟩ := fits_of_coerceFrom ha.count ha.fits
  have horder : ((s.scope held).resolved (o.runs.map Run.value) (.ofCall c))[i]? = some n := by
    rw [← h.values, List.getElem?_append_left (List.getElem?_eq_some_iff.1 hn).1, hn]
  refine ⟨hlen, fun j p hp => ?_⟩
  obtain ⟨_, w, hv, hw, v, rfl, hc⟩ := hfit j p hp
  exact ⟨v, w, hw, hc,
    hs.of_stems (Scope.stems_of_resolved (List.mem_of_getElem? hv) horder)⟩

theorem Attempts.supplied (h : s.Attempts held o) (hs : s.BoundBy past) {i : Nat} {r : Run H}
    (hr : o.runs[i]? = some r) : r.Supplied (past ++ o.runs.take i) := by
  obtain ⟨c, done, todo, hx⟩ := h.executes hr
  exact hx.supplied hs hr

theorem Attempts.given (h : s.Attempts held o) (hs : s.BoundBy past) {v : H.Value}
    (hv : o.result = .ok (some v)) : GivenBy (past ++ o.runs) v := by
  cases h with
  | fault _ ho =>
    rw [ho] at hv
    cases hv
  | @bound n _ hb _ hr =>
    rw [hr] at hv
    cases hv
    exact (hs n v hb).append_left
  | call h =>
    obtain ⟨-, r, hl, hr⟩ := h.ok _ hv
    refine .append_right ⟨r, List.mem_of_getLast? hl, ?_⟩
    rw [Run.value, hr]

/-! ### Whole runs -/

theorem Sound.boundBy_after (hs : s.Sound) (h : s.BoundBy past) (a : Action H) :
    (s.after a).BoundBy (past ++ s.made a) := by
  intro n v hv
  rcases find?_after.1 hv with hb | ⟨hv, -⟩
  · obtain ⟨held, line, hl, hr, -⟩ := binds_iff.1 hb
    rw [made_of_line hl]
    exact (hs.attempts held line).given h hr
  · exact (h n v hv).append_left

theorem Sound.supplied_made (hs : s.Sound) (h : s.BoundBy past) {a : Action H} {i : Nat}
    {r : Run H} (hr : (s.made a)[i]? = some r) : r.Supplied (past ++ (s.made a).take i) := by
  cases hl : a.line? with
  | none =>
    rw [made_of_none hl] at hr
    cases hr
  | some p =>
    rw [made_of_line hl] at hr ⊢
    exact (hs.attempts p.1 p.2).supplied h hr

theorem boundBy_madeAll (settings : Settings) (actions : List (Action H)) :
    ((new settings).afterAll actions).BoundBy ((new settings).madeAll actions) := by
  induction actions using List.reverseRecOn with
  | nil => exact fun n v hv => by cases hv
  | append_singleton actions a ih =>
    rw [afterAll_concat, madeAll_concat]
    exact (sound_afterAll settings actions).boundBy_after ih a

/-- Every run of a session was supplied by the runs before it. -/
theorem supplied_madeAll (settings : Settings) (actions : List (Action H)) {i : Nat}
    {r : Run H} (hr : ((new settings).madeAll actions)[i]? = some r) :
    r.Supplied (((new settings).madeAll actions).take i) := by
  induction actions using List.reverseRecOn with
  | nil => cases hr
  | append_singleton actions a ih =>
    rw [madeAll_concat] at hr ⊢
    -- the run is one of the last action, or of those before it, which had less to draw on
    by_cases hi : i < ((new settings).madeAll actions).length
    · rw [List.getElem?_append_left hi] at hr
      rw [List.take_append_of_le_length hi.le]
      exact ih hr
    · rw [List.getElem?_append_right (Nat.le_of_not_lt hi)] at hr
      rw [List.take_append, List.take_of_length_le (Nat.le_of_not_lt hi)]
      exact (sound_afterAll settings actions).supplied_made
        (boundBy_madeAll settings actions) hr

end Session

end HostConsole
