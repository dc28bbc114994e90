import HostConsole.Proofs.Session.Provenance
import HostConsole.Proofs.Session.Registration

/-! What all values and all targets of a session have in common. Where each operation, on values
and a state that are as they should be, gives a value and leaves a state that are so too, no run
of the session gets anywhere else: variables, arguments and results only ever come from there. -/

namespace HostConsole

/-- What is asked of all values, and of the state of each target. Texts can be typed, so nothing
is asked of them. -/
structure Invariant (H : Host) where
  value : H.Value → Prop
  state : (k : H.Kind) → H.State k → Prop
  text : ∀ t, value (.string t)

namespace Invariant

variable {H : Host} (I : Invariant H)

/-- A reply that leaves everything as it should be. -/
structure Answers (k : H.Kind) (reply : Reply H.Content (H.State k)) : Prop where
  state : I.state k reply.state
  value : ∀ v, reply.result = .ok (some v) → I.value v

/-- Arguments that are coerced from values as they should be. -/
def Fitting (ps : List Parameter) (a : Arguments H.Content) : Prop :=
  a.size = ps.length ∧ ∀ (i : Nat) (p : Parameter), ps[i]? = some p →
    ∃ v w, a.values[i]? = some w ∧ coerce v p.type = .ok w ∧ I.value v

/-- An operation that keeps to the invariant, and takes only arguments that do. -/
def Keeps (o : Operation H) : Prop :=
  ∀ number a state, I.Fitting o.parameters a → I.state o.owner state →
    (∀ w ∈ a.values, I.value w) ∧ I.Answers o.owner (o.declaration.body number a state)

/-- A run on arguments, and with a value, as they should be. -/
structure Good (r : Run H) : Prop where
  arguments : ∀ w ∈ r.arguments.values, I.value w
  value : ∀ v, r.value = some v → I.value v

variable {I} {past : List (Run H)}

theorem value_of_givenBy (hpast : ∀ r ∈ past, I.Good r) {v : H.Value} (h : GivenBy past v) :
    I.value v := by
  obtain ⟨r, hr, hv⟩ := h
  exact (hpast r hr).value v hv

theorem fitting_of_supplied (hpast : ∀ r ∈ past, I.Good r) {r : Run H} (h : r.Supplied past) :
    I.Fitting r.operation.parameters r.arguments := by
  refine ⟨h.size, fun i p hp => ?_⟩
  obtain ⟨v, w, hw, hc, hv⟩ := h.source i p hp
  refine ⟨v, w, hw, hc, ?_⟩
  rcases hv with ⟨text, rfl⟩ | hv
  · exact I.text text
  · exact value_of_givenBy hpast hv

/-- A run on what earlier runs have given. -/
theorem good_of_supplied {r : Run H} (ho : I.Keeps r.operation) (hpast : ∀ r ∈ past, I.Good r)
    (h : r.Supplied past) {state : H.State r.operation.owner}
    (hs : I.state r.operation.owner state) (hr : r.result = (r.reply state).result) :
    I.Good r ∧ I.state r.operation.owner (r.reply state).state := by
  obtain ⟨hargs, hanswer⟩ := ho r.number r.arguments state (fitting_of_supplied hpast h) hs
  refine ⟨⟨hargs, fun v hv => hanswer.value v ?_⟩, hanswer.state⟩
  rw [Run.value] at hv
  change (r.reply state).result = _
  rw [← hr]
  split at hv
  · next hres => rw [hres, hv]
  · cases hv

/-! ### Sessions -/

variable (I) in
/-- A session and the runs that have led to it are as they should be. -/
structure Holds (s : Session H) (past : List (Run H)) : Prop where
  operations : ∀ o ∈ s.operations, I.Keeps o
  targets : ∀ k state, Tracked.find? k s.targets = some state → I.state k state
  runs : ∀ r ∈ past, I.Good r

variable {s : Session H} {held : List H.Kind} {o : Outcome H}

/-- The runs of a line, one after the other. -/
theorem Holds.line (h : I.Holds s past) (hb : s.BoundBy past) (ho : s.Attempts held o) (i : Nat) :
    (∀ r ∈ o.runs.take i, I.Good r) ∧
      ∀ k state, Tracked.find? k s.targets = some state →
        I.state k ((o.runs.take i).foldl (Run.advance k) state) := by
  induction i with
  | zero => exact ⟨by simp, h.targets⟩
  | succ i ih =>
    obtain ⟨hruns, hstates⟩ := ih
    cases hr : o.runs[i]? with
    | none =>
      have hlen : o.runs.length ≤ i := List.getElem?_eq_none_iff.1 hr
      rw [List.take_of_length_le (hlen.trans i.le_succ)]
      rw [List.take_of_length_le hlen] at hruns hstates
      exact ⟨hruns, hstates⟩
    | some r =>
      obtain ⟨c, done, todo, hx⟩ := ho.executes hr
      obtain ⟨-, -, state, hs, hres⟩ := hx.steps i r hr
      obtain ⟨n, -, hn⟩ := hx.admits hr
      have hop : I.Keeps r.operation := h.operations _ (List.mem_of_find?_eq_some hn.known)
      have hpast : ∀ t ∈ past ++ o.runs.take i, I.Good t :=
        List.forall_mem_append.2 ⟨h.runs, hruns⟩
      obtain ⟨hgood, hstate⟩ :=
        good_of_supplied hop hpast (ho.supplied hb hr) (hstates _ _ hs) hres
      have htake : o.runs.take (i + 1) = o.runs.take i ++ [r] := by
        rw [List.take_add_one, hr, Option.toList_some]
      rw [htake]
      refine ⟨List.forall_mem_append.2 ⟨hruns, List.forall_mem_singleton.2 hgood⟩,
        fun k state' hs' => ?_⟩
      rw [List.foldl_append, List.foldl_cons, List.foldl_nil]
      by_cases hk : r.operation.owner = k
      · subst hk
        obtain rfl : state = state' := Option.some.inj (hs.symm.trans hs')
        simpa [Run.advance] using hstate
      · simpa [Run.advance, hk] using hstates k state' hs'

theorem Holds.line_runs (h : I.Holds s past) (hb : s.BoundBy past) (ho : s.Attempts held o) :
    ∀ r ∈ o.runs, I.Good r := by
  have hall := (h.line hb ho o.runs.length).1
  rwa [List.take_length] at hall

/-! ### Actions -/

variable (I) in
/-- What a host can do on its own without breaking the invariant. -/
def Permits : Action H → Prop
  | .register t => I.state t.kind t.state ∧ ∀ d ∈ t.declarations, I.Keeps ⟨t.kind, d⟩
  | .change kind state => I.state kind state
  | .help | .evaluate _ _ | .attempt _ _ => True

theorem Holds.after_line (h : I.Holds s past) (hs : s.Sound) (hb : s.BoundBy past)
    {a : Action H} {line : String} (hl : a.line? = some (held, line)) :
    I.Holds (s.after a) (past ++ s.made a) := by
  have ho : s.Attempts held (s.attempt held line) := hs.attempts held line
  have ht : a.target? = none := by
    cases a with
    | evaluate | attempt => rfl
    | register | help | change => cases hl
  refine ⟨?_, fun k state hstate => ?_, List.forall_mem_append.2 ⟨h.runs, ?_⟩⟩
  · rw [(s.registry_after_of_none ht).1]
    exact h.operations
  · rw [Session.targets_after_line hl, Progress.find?_performAll, Option.map_eq_some_iff] at hstate
    obtain ⟨before, hbefore, rfl⟩ := hstate
    have hrest := (h.line hb ho (s.attempt held line).runs.length).2 k before hbefore
    rwa [List.take_length, ← Session.made_of_line hl] at hrest
  · rw [Session.made_of_line hl]
    exact h.line_runs hb ho

theorem Holds.register (h : I.Holds s past) {t : Target H} (ht : I.Permits (.register t)) :
    I.Holds (s.after (.register t)) past := by
  by_cases hk : t.kind ∈ Tracked.kinds s.targets
  · rw [(Session.register_of_tracked hk).2]
    exact h
  rw [(Session.register_of_untracked hk).2]
  refine ⟨fun o ho => ?_, fun k state hstate => ?_, h.runs⟩
  · rcases List.mem_append.1 ho with ho | ho
    · exact h.operations o ho
    · obtain ⟨d, hd, rfl⟩ := List.mem_map.1 ho
      refine ht.2 d ?_
      split at hd
      · exact List.mem_of_mem_filter hd
      · exact hd
  · rw [Session.adding, Tracked.find?_append, Option.or_eq_some_iff] at hstate
    rcases hstate with hstate | ⟨-, hstate⟩
    · exact h.targets k state hstate
    · rw [Tracked.find?] at hstate
      split at hstate
      next hkind =>
        subst hkind
        cases hstate
        exact ht.1
      · cases hstate

theorem Holds.change (h : I.Holds s past) {kind : H.Kind} {new : H.State kind}
    (hnew : I.state kind new) : I.Holds (s.after (.change kind new)) past := by
  refine ⟨h.operations, fun k state hstate => ?_, h.runs⟩
  change Tracked.find? k (Tracked.replace kind new s.targets) = _ at hstate
  by_cases hk : kind = k
  · subst hk
    rw [Tracked.find?_replace_self, Option.map_eq_some_iff] at hstate
    obtain ⟨-, -, rfl⟩ := hstate
    exact hnew
  · rw [Tracked.find?_replace_of_ne hk] at hstate
    exact h.targets k state hstate

theorem Holds.after (h : I.Holds s past) (hs : s.Sound) (hb : s.BoundBy past) {a : Action H}
    (ha : I.Permits a) : I.Holds (s.after a) (past ++ s.made a) := by
  cases a with
  | evaluate held line => exact h.after_line hs hb rfl
  | attempt held line => exact h.after_line hs hb rfl
  | help => simpa [Session.made, Session.after] using h
  | register t => simpa [Session.made] using h.register ha
  | change kind new => simpa [Session.made] using h.change ha

/-- What the host does not break, no run of a session does. -/
theorem holds_afterAll (settings : Settings) {actions : List (Action H)}
    (h : ∀ a ∈ actions, I.Permits a) :
    I.Holds ((Session.new settings).afterAll actions) ((Session.new settings).madeAll actions) := by
  induction actions using List.reverseRecOn with
  | nil => exact ⟨by simp [Session.afterAll, Session.new], nofun, by simp [Session.madeAll]⟩
  | append_singleton actions a ih =>
    rw [Session.afterAll_concat, Session.madeAll_concat]
    have hfirst := ih fun b hb => h b (List.mem_append_left [a] hb)
    exact hfirst.after (Session.sound_afterAll settings actions)
      (Session.boundBy_madeAll settings actions) (h a (by simp))

/-- All that a line shows, or leaves in a variable, is as it should be. -/
theorem Holds.result (h : I.Holds s past) (hs : s.Sound) (hb : s.BoundBy past) {line : String}
    {v : H.Value} (hv : (s.attempt held line).result = .ok (some v)) : I.value v := by
  have ho : s.Attempts held (s.attempt held line) := hs.attempts held line
  exact value_of_givenBy (List.forall_mem_append.2 ⟨h.runs, h.line_runs hb ho⟩) (ho.given hb hv)

end Invariant

end HostConsole
