import HostConsole.Proofs.Session.History
import Mathlib.Data.List.Nodup

/-! What registration comes to over whole runs. The targets of a session are the first of
each kind that was offered, in that order, and the operations are those that their tables
hold. Nothing else a host does changes the two lists. -/

namespace HostConsole

variable {H : Host}

/-- The operations that a target's table holds for a host: the marked ones alone where
marking is required, and otherwise all of them. -/
def Target.operations (t : Target H) (requireMarking : Bool) : List (Operation H) :=
  (if requireMarking then t.declarations.filter (·.marked) else t.declarations).map
    fun d => ⟨t.kind, d⟩

/-- The target that an action offers for registration. -/
def Action.target? : Action H → Option (Target H)
  | .register t => some t
  | .help | .evaluate _ _ | .attempt _ _ | .change _ _ => none

/-! ### First targets -/

/-- The first target of each kind, in the order of the list. -/
def firsts : List (Target H) → List (Target H)
  | [] => []
  | t :: ts => t :: (firsts ts).filter (·.kind ≠ t.kind)

theorem mem_kinds_firsts {k : H.Kind} {ts : List (Target H)} :
    k ∈ (firsts ts).map Target.kind ↔ k ∈ ts.map Target.kind := by
  induction ts with
  | nil => simp [firsts]
  | cons t ts ih =>
    by_cases hk : k = t.kind
    · simp [firsts, hk]
    · have hfilter : k ∈ ((firsts ts).filter (·.kind ≠ t.kind)).map Target.kind ↔
          k ∈ (firsts ts).map Target.kind := by
        simp only [List.mem_map, List.mem_filter, decide_eq_true_eq]
        constructor
        · rintro ⟨u, ⟨hu, -⟩, rfl⟩
          exact ⟨u, hu, rfl⟩
        · rintro ⟨u, hu, rfl⟩
          exact ⟨u, ⟨hu, hk⟩, rfl⟩
      rw [firsts, List.map_cons, List.map_cons, List.mem_cons, List.mem_cons, hfilter, ih]

theorem nodup_kinds_firsts (ts : List (Target H)) : ((firsts ts).map Target.kind).Nodup := by
  induction ts with
  | nil => exact List.nodup_nil
  | cons t ts ih =>
    rw [firsts, List.map_cons, List.nodup_cons]
    refine ⟨?_, ih.sublist (List.filter_sublist.map _)⟩
    intro h
    obtain ⟨u, hu, hk⟩ := List.mem_map.1 h
    simp [hk] at hu

theorem firsts_concat (ts : List (Target H)) (t : Target H) :
    firsts (ts ++ [t]) =
      if t.kind ∈ ts.map Target.kind then firsts ts else firsts ts ++ [t] := by
  induction ts with
  | nil => simp [firsts]
  | cons u ts ih =>
    have hmem : t.kind ∈ (u :: ts).map Target.kind ↔
        t.kind = u.kind ∨ t.kind ∈ ts.map Target.kind := by simp
    rw [List.cons_append, firsts, ih, firsts]
    by_cases hts : t.kind ∈ ts.map Target.kind
    · rw [if_pos hts, if_pos (hmem.2 (.inr hts))]
    · rw [if_neg hts, List.filter_append]
      by_cases hu : t.kind = u.kind
      · rw [if_pos (hmem.2 (.inl hu))]
        simp [hu]
      · rw [if_neg (by simp [hu, hts])]
        simp [hu]

namespace Session

/-! ### One action -/

theorem settings_after (s : Session H) (a : Action H) : (s.after a).settings = s.settings := by
  cases hl : a.line? with
  | some p =>
    obtain ⟨b, ho⟩ := s.session_attempt p.1 p.2
    rw [after_of_line hl, ho]
  | none =>
    cases a with
    | evaluate | attempt => cases hl
    | help | change => rfl
    | register t =>
      rw [after, register]
      by_cases ht : s.tracks t.kind = true
      · rw [if_pos ht]
      · rw [if_neg ht]

theorem settings_afterAll (s : Session H) (actions : List (Action H)) :
    (s.afterAll actions).settings = s.settings := by
  induction actions generalizing s with
  | nil => rfl
  | cons a as ih => exact (ih _).trans (s.settings_after a)

/-- Only registration changes the operations and the kinds that have a target. -/
theorem registry_after_of_none (s : Session H) {a : Action H} (h : a.target? = none) :
    (s.after a).operations = s.operations ∧
      Tracked.kinds (s.after a).targets = Tracked.kinds s.targets := by
  cases hl : a.line? with
  | some p =>
    obtain ⟨b, ho⟩ := s.session_attempt p.1 p.2
    rw [after_of_line hl, ho]
    exact ⟨rfl, s.start.kinds_performAll _⟩
  | none =>
    cases a with
    | register => cases h
    | evaluate | attempt => cases hl
    | help => exact ⟨rfl, rfl⟩
    | change kind state => exact ⟨rfl, Tracked.kinds_replace kind state s.targets⟩

theorem offered_eq (s : Session H) (t : Target H) :
    s.offered t = t.operations s.settings.requireMarking := by
  rw [offered, Target.operations]
  cases hm : s.settings.requireMarking with
  | true =>
    have h : ∀ d ∈ t.declarations, s.admits d = d.marked := fun d _ => by simp [admits, hm]
    rw [if_pos rfl, List.filter_congr h]
  | false =>
    have h : ∀ d ∈ t.declarations, s.admits d = true := fun d _ => by simp [admits, hm]
    rw [if_neg Bool.false_ne_true, List.filter_eq_self.2 h]

theorem register_of_tracked {s : Session H} {t : Target H}
    (h : t.kind ∈ Tracked.kinds s.targets) :
    s.register t = .error (.duplicateTarget (H.kindName t.kind)) ∧
      s.after (.register t) = s := by
  have hr : s.register t = .error (.duplicateTarget (H.kindName t.kind)) := by
    rw [register, if_pos (tracks_iff.2 h)]
  rw [after, hr]
  exact ⟨rfl, rfl⟩

/-- The session with a target of a kind that had none. -/
def adding (s : Session H) (t : Target H) : Session H :=
  { s with
    operations := s.operations ++ t.operations s.settings.requireMarking
    targets := s.targets ++ [⟨t.kind, t.state⟩] }

theorem register_of_untracked {s : Session H} {t : Target H}
    (h : t.kind ∉ Tracked.kinds s.targets) :
    s.register t = .ok ((t.operations s.settings.requireMarking).length, s.adding t) ∧
      s.after (.register t) = s.adding t := by
  have hr : s.register t = .ok ((t.operations s.settings.requireMarking).length, s.adding t) := by
    rw [register, if_neg (mt tracks_iff.1 h)]
    simp only [offered_eq]
    rfl
  rw [after, hr]
  exact ⟨rfl, rfl⟩

/-! ### Whole runs -/

/-- The targets that a run offered for registration, in their order. -/
def offers (actions : List (Action H)) : List (Target H) :=
  actions.filterMap Action.target?

theorem mem_offers {t : Target H} {actions : List (Action H)} :
    t ∈ offers actions ↔ .register t ∈ actions := by
  rw [offers, List.mem_filterMap]
  constructor
  · rintro ⟨a, ha, h⟩
    cases a with
    | register u =>
      cases h
      exact ha
    | help | evaluate | attempt | change => cases h
  · exact fun h => ⟨_, h, rfl⟩

/-- The two lists of a session, which are kept apart, come from the same targets. -/
theorem registry_afterAll (settings : Settings) (actions : List (Action H)) :
    Tracked.kinds ((new settings).afterAll actions).targets =
        (firsts (offers actions)).map Target.kind ∧
      ((new settings).afterAll actions).operations =
        (firsts (offers actions)).flatMap (·.operations settings.requireMarking) := by
  induction actions using List.reverseRecOn with
  | nil => exact ⟨rfl, rfl⟩
  | append_singleton actions a ih =>
    obtain ⟨hk, ho⟩ := ih
    rw [afterAll_concat, offers, List.filterMap_append]
    cases ha : a.target? with
    | none =>
      obtain ⟨ho', hk'⟩ := registry_after_of_none ((new settings).afterAll actions) ha
      rw [ho', hk', hk, ho]
      simp [ha, offers]
    | some t =>
      obtain rfl : a = .register t := by
        cases a with
        | register u => rw [Option.some.inj ha]
        | help | evaluate | attempt | change => cases ha
      have hoffers : (offers actions ++ [t]) = actions.filterMap Action.target? ++
          [Action.register t].filterMap Action.target? := rfl
      rw [← hoffers, firsts_concat]
      by_cases ht : t.kind ∈ (offers actions).map Target.kind
      · have htracked : t.kind ∈ Tracked.kinds ((new settings).afterAll actions).targets := by
          rwa [hk, mem_kinds_firsts]
        rw [if_pos ht, (register_of_tracked htracked).2]
        exact ⟨hk, ho⟩
      · have htracked : t.kind ∉ Tracked.kinds ((new settings).afterAll actions).targets := by
          rwa [hk, mem_kinds_firsts]
        have hkind : Tracked.kinds (((new settings).afterAll actions).adding t).targets =
            Tracked.kinds ((new settings).afterAll actions).targets ++ [t.kind] := by
          simp [adding, Tracked.kinds]
        have hops : (((new settings).afterAll actions).adding t).operations =
            ((new settings).afterAll actions).operations ++
              t.operations settings.requireMarking := by
          rw [adding, settings_afterAll]
          rfl
        rw [if_neg ht, (register_of_untracked htracked).2, hkind, hops, hk, ho]
        simp

/-- A run registered a target of a kind that it had not been offered before. -/
structure IsFirst (actions earlier : List (Action H)) (t : Target H)
    (later : List (Action H)) : Prop where
  split : actions = earlier ++ .register t :: later
  first : ∀ u, .register u ∈ earlier → u.kind ≠ t.kind

/-- The state that a run has left the first target of a kind in. -/
inductive FirstState (settings : Settings) (actions : List (Action H)) :
    (k : H.Kind) → H.State k → Prop where
  | intro {earlier later : List (Action H)} {t : Target H} (h : IsFirst actions earlier t later) :
      FirstState settings actions t.kind
        (((new settings).afterAll (earlier ++ [.register t])).advanceAll t.kind t.state later)

theorem exists_isFirst {k : H.Kind} {actions : List (Action H)}
    (h : k ∈ (offers actions).map Target.kind) :
    ∃ earlier t later, IsFirst actions earlier t later ∧ t.kind = k := by
  induction actions with
  | nil => simp [offers] at h
  | cons a actions ih =>
    by_cases ha : ∃ t, a = .register t ∧ t.kind = k
    · obtain ⟨t, rfl, hk⟩ := ha
      exact ⟨[], t, actions, ⟨rfl, by simp⟩, hk⟩
    · have hrest : k ∈ (offers actions).map Target.kind := by
        obtain ⟨t, ht, hk⟩ := List.mem_map.1 h
        rcases List.mem_cons.1 (mem_offers.1 ht) with rfl | ht
        · exact absurd ⟨t, rfl, hk⟩ ha
        · exact List.mem_map.2 ⟨t, mem_offers.2 ht, hk⟩
      obtain ⟨earlier, t, later, ⟨rfl, hfirst⟩, rfl⟩ := ih hrest
      refine ⟨a :: earlier, t, later, ⟨rfl, fun u hu hk => ?_⟩, rfl⟩
      rcases List.mem_cons.1 hu with rfl | hu
      · exact ha ⟨u, rfl, hk⟩
      · exact hfirst u hu hk

theorem target_of_isFirst (settings : Settings) {actions earlier later : List (Action H)}
    {t : Target H} (h : IsFirst actions earlier t later) :
    Tracked.find? t.kind ((new settings).afterAll actions).targets =
      some (((new settings).afterAll (earlier ++ [.register t])).advanceAll t.kind t.state
        later) := by
  obtain ⟨rfl, hfirst⟩ := h
  have hnew : t.kind ∉ Tracked.kinds ((new settings).afterAll earlier).targets := by
    rw [(registry_afterAll settings earlier).1, mem_kinds_firsts]
    intro ht
    obtain ⟨u, hu, hk⟩ := List.mem_map.1 ht
    exact hfirst u (mem_offers.1 hu) hk
  have ht : Tracked.find? t.kind
      ((new settings).afterAll (earlier ++ [.register t])).targets = some t.state := by
    rw [afterAll_concat, (register_of_untracked hnew).2, adding, Tracked.find?_append,
      Tracked.find?_eq_none_iff.2 hnew]
    simp [Tracked.find?]
  have hall := target_afterAll ht later
  rwa [← afterAll_append, List.append_assoc] at hall

theorem find?_iff_firstState (settings : Settings) (actions : List (Action H)) (k : H.Kind)
    (state : H.State k) :
    Tracked.find? k ((new settings).afterAll actions).targets = some state ↔
      FirstState settings actions k state := by
  constructor
  · intro h
    have hk : k ∈ Tracked.kinds ((new settings).afterAll actions).targets := by
      by_contra hk
      rw [Tracked.find?_eq_none_iff.2 hk] at h
      cases h
    rw [(registry_afterAll settings actions).1, mem_kinds_firsts] at hk
    obtain ⟨earlier, t, later, hfirst, rfl⟩ := exists_isFirst hk
    rw [target_of_isFirst settings hfirst] at h
    cases h
    exact .intro hfirst
  · rintro ⟨h⟩
    exact target_of_isFirst settings h

/-! ### Dispatch -/

theorem Attempts.not_untracked {s : Session H} {held : List H.Kind} {o : Outcome H}
    (h : s.Attempts held o) (name target : String) :
    o.result ≠ .error (.invocation name (.untracked target)) := by
  intro hr
  cases h with
  | fault hf ho =>
    rw [ho] at hr
    cases hr
    cases hf
  | bound _ _ hv =>
    rw [hv] at hr
    cases hr
  | call h =>
    rcases h.invocation _ _ hr with ⟨_, _, -, -, -, hc⟩ | ⟨-, _, _, _, -, -, -, -, hc⟩
    · cases hc
    · cases hc

/-- A run is one of an operation of the session, on what the runs before it have made of the
state that its target had. -/
theorem Attempts.run {s : Session H} {held : List H.Kind} {o : Outcome H}
    (h : s.Attempts held o) {i : Nat} {r : Run H} (hr : o.runs[i]? = some r) :
    r.operation ∈ s.operations ∧
      ∃ state, Tracked.find? r.operation.owner s.targets = some state ∧
        r.result =
          (r.reply ((o.runs.take i).foldl (Run.advance r.operation.owner) state)).result := by
  obtain ⟨c, done, todo, hx⟩ := h.executes hr
  obtain ⟨-, -, state, hs, hres⟩ := hx.steps i r hr
  obtain ⟨n, -, hn⟩ := hx.admits hr
  exact ⟨List.mem_of_find?_eq_some hn.known, state, hs, hres⟩

theorem Sound.run_of_made {s : Session H} (hs : s.Sound) {a : Action H} {i : Nat} {r : Run H}
    (hr : (s.made a)[i]? = some r) :
    r.operation ∈ s.operations ∧
      ∃ state, Tracked.find? r.operation.owner s.targets = some state ∧
        r.result =
          (r.reply (((s.made a).take i).foldl (Run.advance r.operation.owner) state)).result := by
  cases hl : a.line? with
  | none =>
    rw [made_of_none hl] at hr
    cases hr
  | some p =>
    rw [made_of_line hl] at hr ⊢
    exact (hs.attempts p.1 p.2).run hr

/-- A run of a history is made on what all runs before it, those of earlier lines included, have
made of the state that its target had, if the host leaves that target alone. -/
theorem Sound.result_of_madeAll {s : Session H} (hs : s.Sound) {actions : List (Action H)}
    {i : Nat} {r : Run H} (hr : (s.madeAll actions)[i]? = some r)
    {state : H.State r.operation.owner}
    (ht : Tracked.find? r.operation.owner s.targets = some state)
    (h : ∀ new, .change r.operation.owner new ∉ actions) :
    r.result = (r.reply (((s.madeAll actions).take i).foldl (Run.advance _) state)).result := by
  induction actions generalizing s i state with
  | nil => cases hr
  | cons a as ih =>
    rw [madeAll] at hr ⊢
    by_cases hi : i < (s.made a).length
    · rw [List.getElem?_append_left hi] at hr
      rw [List.take_append_of_le_length (Nat.le_of_lt hi)]
      obtain ⟨-, first, hfirst, hres⟩ := hs.run_of_made hr
      rw [ht] at hfirst
      cases hfirst
      exact hres
    · have hle : (s.made a).length ≤ i := Nat.le_of_not_lt hi
      have ha : ∀ new, a ≠ .change r.operation.owner new := fun new he =>
        h new (he ▸ List.mem_cons_self)
      have has : ∀ new, .change r.operation.owner new ∉ as := fun new hm =>
        h new (List.mem_cons_of_mem _ hm)
      rw [List.getElem?_append_right hle] at hr
      have hres := ih (hs.after a) hr (target_after ht a) has
      rwa [advance_eq_foldl s ha, ← List.foldl_append, ← List.take_length_add_append,
        Nat.add_sub_cancel' hle] at hres

/-- No action takes an operation away. -/
theorem operations_after (s : Session H) (a : Action H) :
    s.operations <+: (s.after a).operations := by
  cases ha : a.target? with
  | none => exact (s.registry_after_of_none ha).1.symm ▸ List.prefix_rfl
  | some t =>
    cases a with
    | register u =>
      by_cases hu : u.kind ∈ Tracked.kinds s.targets
      · exact (register_of_tracked hu).2.symm ▸ List.prefix_rfl
      · rw [(register_of_untracked hu).2]
        exact List.prefix_append _ _
    | help | evaluate | attempt | change => cases ha

theorem operations_afterAll (s : Session H) (actions : List (Action H)) :
    s.operations <+: (s.afterAll actions).operations := by
  induction actions generalizing s with
  | nil => exact List.prefix_rfl
  | cons a as ih => exact (s.operations_after a).trans (ih (s.after a))

theorem Sound.mem_operations_of_madeAll {s : Session H} (hs : s.Sound) {actions : List (Action H)}
    {r : Run H} (hr : r ∈ s.madeAll actions) : r.operation ∈ (s.afterAll actions).operations := by
  induction actions generalizing s with
  | nil => cases hr
  | cons a as ih =>
    rcases List.mem_append.1 hr with hr | hr
    · obtain ⟨i, hi⟩ := List.mem_iff_getElem?.1 hr
      exact (s.operations_afterAll (a :: as)).subset (hs.run_of_made hi).1
    · exact ih (hs.after a) hr

/-- The targets of a session are the first of each kind, in the order in which they came, and
its operations those that their tables hold. A further target of a kind changes nothing, and
any other adds its own operations. So each operation has the one target that it runs on. -/
theorem registry_of_run (settings : Settings) (actions : List (Action H)) :
    let s : Session H := (new settings).afterAll actions
    Tracked.kinds s.targets = (firsts (offers actions)).map Target.kind ∧
    (∀ k state, Tracked.find? k s.targets = some state ↔ FirstState settings actions k state) ∧
    s.operations = (firsts (offers actions)).flatMap (·.operations settings.requireMarking) ∧
    (∀ t, t.kind ∈ Tracked.kinds s.targets →
      s.register t = .error (.duplicateTarget (H.kindName t.kind)) ∧
        s.after (.register t) = s) ∧
    (∀ t, t.kind ∉ Tracked.kinds s.targets →
      let added := t.operations settings.requireMarking
      let s' := { s with
        operations := s.operations ++ added
        targets := s.targets ++ [⟨t.kind, t.state⟩] }
      s.register t = .ok (added.length, s') ∧ s.after (.register t) = s') ∧
    (∀ o ∈ s.operations, (Tracked.kinds s.targets).count o.owner = 1 ∧
      ∃ state, FirstState settings actions o.owner state ∧
        Tracked.find? o.owner s.targets = some state) ∧
    ∀ held line,
      (∀ name target,
        (s.attempt held line).result ≠ .error (.invocation name (.untracked target))) ∧
      ∀ i (r : Run H), (s.attempt held line).runs[i]? = some r → r.operation ∈ s.operations ∧
        ∃ state, FirstState settings actions r.operation.owner state ∧
          r.result = (r.reply (((s.attempt held line).runs.take i).foldl
            (Run.advance r.operation.owner) state)).result := by
  intro s
  have hs : s.Sound := sound_afterAll settings actions
  have hset : s.settings = settings := settings_afterAll _ actions
  obtain ⟨hk, ho⟩ := registry_afterAll settings actions
  refine ⟨hk, find?_iff_firstState settings actions, ho, fun t ht => register_of_tracked ht,
    fun t ht => ?_, fun o hos => ?_, fun held line => ⟨?_, fun i r hr => ?_⟩⟩
  · have hadded : t.operations s.settings.requireMarking = t.operations settings.requireMarking :=
      by rw [hset]
    have h := register_of_untracked ht
    rw [adding, hadded] at h
    exact h
  · have howner := hs.owned o hos
    refine ⟨List.count_eq_one_of_mem (hk ▸ nodup_kinds_firsts _) howner, ?_⟩
    obtain ⟨state, hstate⟩ := Option.ne_none_iff_exists'.1 fun h =>
      Tracked.find?_eq_none_iff.1 h howner
    exact ⟨state, (find?_iff_firstState settings actions _ _).1 hstate, hstate⟩
  · exact (hs.attempts held line).not_untracked
  · obtain ⟨hop, state, hstate, hres⟩ := (hs.attempts held line).run hr
    exact ⟨hop, state, (find?_iff_firstState settings actions _ _).1 hstate, hres⟩

theorem registry_of_run_calculators :
    let first : Target (Demo.host Demo.noHost) := Demo.calculator .initial
    let second : Target (Demo.host Demo.noHost) := Demo.calculator ⟨5⟩
    let ship : Target (Demo.host Demo.noHost) := Demo.ship .initial
    let actions : List (Action (Demo.host Demo.noHost)) :=
      [.register first, .attempt [] "Count", .register second]
    let s : Session (Demo.host Demo.noHost) := (new ⟨true, false⟩).afterAll actions
    second.kind ∈ Tracked.kinds s.targets ∧
      s.register second = .error (.duplicateTarget "Calculator") ∧
      ship.kind ∉ Tracked.kinds s.targets ∧
      s.operations = first.operations true ∧
      (s.after (.register ship)).operations = first.operations true ++ ship.operations true := by
  intro first second ship actions s
  obtain ⟨hk, -, ho, hagain, hnew, -⟩ := registry_of_run ⟨true, false⟩ actions
  have hkinds : Tracked.kinds s.targets = [.calculator] := hk.trans rfl
  have hops : s.operations = first.operations true := ho.trans (List.append_nil _)
  have hsecond : second.kind ∈ Tracked.kinds s.targets := by
    rw [hkinds]
    exact List.mem_singleton_self _
  have hship : ship.kind ∉ Tracked.kinds s.targets := by
    rw [hkinds]
    simp [ship, Demo.ship]
  refine ⟨hsecond, (hagain second hsecond).1, hship, hops, ?_⟩
  rw [(hnew ship hship).2]
  exact congrArg (· ++ ship.operations true) hops

end Session

end HostConsole
