import HostConsole.Proofs.Call.Reading
import HostConsole.Proofs.Session.Reachable

/-! Variables over whole runs of a session. A name has the value of the latest line that
assigned to it and yielded one; no other line, and nothing else a host does, counts. -/

namespace HostConsole

variable {H : Host}

/-- A line that assigns to a name: its first equals sign comes before any parenthesis, and
the name is what stands before that, trimmed. -/
def AssignsTo (line name : String) : Prop :=
  ∃ left right, line.toList = left ++ '=' :: right ∧ '=' ∉ left ∧ '(' ∉ left ∧
    String.ofList (Text.trim left) = name

theorem assignsTo_iff {line name : String} :
    AssignsTo line name ↔ ∃ left right, splitAssignment line.toList = some (left, right) ∧
      String.ofList (Text.trim left) = name := by
  simp only [AssignsTo, splitAssignment_eq_some_iff, and_assoc]

theorem AssignsTo.unique {line m n : String} (hm : AssignsTo line m) (hn : AssignsTo line n) :
    m = n := by
  obtain ⟨left, right, hl, rfl⟩ := assignsTo_iff.1 hm
  obtain ⟨left', right', hl', rfl⟩ := assignsTo_iff.1 hn
  rw [hl] at hl'
  cases hl'
  rfl

/-- The line that an action evaluates, and what the host holds meanwhile. -/
def Action.line? : Action H → Option (List H.Kind × String)
  | .evaluate held line | .attempt held line => some (held, line)
  | .register _ | .help | .change _ _ => none

namespace Session

/-- The value that a line yields in a session, whichever way it is evaluated. -/
inductive Yields (s : Session H) : Action H → String → H.Value → Prop where
  | evaluate {held : List H.Kind} {line : String} {v : H.Value}
    (h : (s.evaluate held line).value? = some v) : Yields s (.evaluate held line) line v
  | attempt {held : List H.Kind} {line : String} {v : H.Value}
    (h : (s.attempt held line).result = .ok (some v)) : Yields s (.attempt held line) line v

/-- An action evaluates an assignment to a name, and it yields a value. -/
def Binds (s : Session H) (a : Action H) (name : String) (v : H.Value) : Prop :=
  ∃ line, s.Yields a line v ∧ AssignsTo line name

theorem value?_evaluate {s : Session H} {held : List H.Kind} {line : String} {v : H.Value} :
    (s.evaluate held line).value? = some v ↔ (s.attempt held line).result = .ok (some v) := by
  have h : (s.evaluate held line).result = (s.attempt held line).result := rfl
  rw [Outcome.value?, h]
  cases (s.attempt held line).result <;> simp

theorem binds_iff {s : Session H} {a : Action H} {name : String} {v : H.Value} :
    s.Binds a name v ↔ ∃ held line, a.line? = some (held, line) ∧
      (s.attempt held line).result = .ok (some v) ∧ AssignsTo line name := by
  constructor
  · rintro ⟨line, hy, ha⟩
    cases hy with
    | evaluate h => exact ⟨_, line, rfl, value?_evaluate.1 h, ha⟩
    | attempt h => exact ⟨_, line, rfl, h, ha⟩
  · rintro ⟨held, line, hl, hv, ha⟩
    cases a with
    | evaluate =>
      cases hl
      exact ⟨line, .evaluate (value?_evaluate.2 hv), ha⟩
    | attempt =>
      cases hl
      exact ⟨line, .attempt hv, ha⟩
    | register | help | change => cases hl

theorem Binds.unique {s : Session H} {a : Action H} {m n : String} {v w : H.Value}
    (hv : s.Binds a m v) (hw : s.Binds a n w) : m = n ∧ v = w := by
  obtain ⟨held, line, hl, hv, hm⟩ := binds_iff.1 hv
  obtain ⟨held', line', hl', hw, hn⟩ := binds_iff.1 hw
  rw [hl] at hl'
  cases hl'
  exact ⟨hm.unique hn, by simpa [hv] using hw⟩

/-! ### One action -/

theorem bindings_bindResult (s : Session H) (name : String) (r : Except Fault (Option H.Value)) :
    (∃ v, r = .ok (some v) ∧ (s.bindResult name r).bindings = s.bindings.insert name v) ∨
      (∀ v, r ≠ .ok (some v)) ∧ (s.bindResult name r).bindings = s.bindings := by
  unfold bindResult
  split
  · next v => exact .inl ⟨v, rfl, rfl⟩
  · next h => exact .inr ⟨h, rfl⟩

theorem bindings_attempt (s : Session H) (held : List H.Kind) (line : String) :
    (∃ name v, (s.attempt held line).result = .ok (some v) ∧ AssignsTo line name ∧
      (s.attempt held line).session.bindings = s.bindings.insert name v) ∨
    (∀ name v, (s.attempt held line).result = .ok (some v) → ¬ AssignsTo line name) ∧
      (s.attempt held line).session.bindings = s.bindings := by
  cases hs : splitAssignment line.toList with
  | none =>
    rw [s.attempt_of_none held hs]
    refine .inr ⟨fun name v _ ha => ?_, rfl⟩
    obtain ⟨left, right, hl, -⟩ := assignsTo_iff.1 ha
    rw [hs] at hl
    cases hl
  | some p =>
    obtain ⟨left, right⟩ := p
    by_cases hl : Text.trim left = []
    · rw [s.attempt_invalid held hs hl]
      exact .inr ⟨by rintro _ _ ⟨⟩, rfl⟩
    · rw [s.attempt_assigning held hs hl]
      have ha : AssignsTo line (String.ofList (Text.trim left)) :=
        assignsTo_iff.2 ⟨left, right, hs, rfl⟩
      rcases (s.evaluateExpression held right).session.bindings_bindResult
        (String.ofList (Text.trim left)) (s.evaluateExpression held right).result with
        ⟨v, hv, hb⟩ | ⟨hv, hb⟩
      · exact .inl ⟨_, v, hv, ha, hb⟩
      · exact .inr ⟨fun name v h => absurd h (hv v), hb⟩

theorem bindings_after_of_line {s : Session H} {a : Action H} {held : List H.Kind}
    {line : String} (h : a.line? = some (held, line)) :
    (s.after a).bindings = (s.attempt held line).session.bindings := by
  cases a with
  | evaluate | attempt =>
    cases h
    rfl
  | register | help | change => cases h

theorem bindings_after_of_none {s : Session H} {a : Action H} (h : a.line? = none) :
    (s.after a).bindings = s.bindings := by
  cases a with
  | evaluate | attempt => cases h
  | register t =>
    rw [after, register]
    by_cases ht : s.tracks t.kind = true
    · rw [if_pos ht]
    · rw [if_neg ht]
  | help | change => rfl

/-- An action binds one name, or leaves all variables as they were. -/
theorem bindings_after (s : Session H) (a : Action H) :
    (∃ name v, s.Binds a name v ∧ (s.after a).bindings = s.bindings.insert name v) ∨
      (∀ name v, ¬ s.Binds a name v) ∧ (s.after a).bindings = s.bindings := by
  simp only [binds_iff]
  cases hl : a.line? with
  | none => exact .inr ⟨by simp, bindings_after_of_none hl⟩
  | some p =>
    obtain ⟨held, line⟩ := p
    rw [bindings_after_of_line hl]
    rcases s.bindings_attempt held line with ⟨name, v, hv, ha, hb⟩ | ⟨hv, hb⟩
    · exact .inl ⟨name, v, ⟨held, line, rfl, hv, ha⟩, hb⟩
    · refine .inr ⟨?_, hb⟩
      rintro name v ⟨_, _, ⟨⟩, h, ha⟩
      exact hv name v h ha

theorem find?_after {s : Session H} {a : Action H} {n : String} {v : H.Value} :
    (s.after a).bindings.find? n = some v ↔
      s.Binds a n v ∨ s.bindings.find? n = some v ∧ ∀ w, ¬ s.Binds a n w := by
  rcases s.bindings_after a with ⟨m, w, hw, hb⟩ | ⟨hn, hb⟩
  · rw [hb, Bindings.find?_insert]
    by_cases h : n = m
    · subst h
      rw [if_pos rfl, Option.some.injEq]
      constructor
      · rintro rfl
        exact .inl hw
      · rintro (hv | ⟨-, hnot⟩)
        · exact (hw.unique hv).2
        · exact absurd hw (hnot w)
    · rw [if_neg h]
      have hnot : ∀ w, ¬ s.Binds a n w := fun w' hw' => h (hw'.unique hw).1
      exact ⟨fun hv => .inr ⟨hv, hnot⟩, fun hv => (hv.resolve_left (hnot v)).1⟩
  · rw [hb]
    exact ⟨fun hv => .inr ⟨hv, hn n⟩, fun hv => (hv.resolve_left (hn n v)).1⟩

/-! ### Whole runs -/

/-- Some action of a run from a session bound a name. -/
def HasBound (s : Session H) (actions : List (Action H)) (name : String) : Prop :=
  ∃ earlier a later v, actions = earlier ++ a :: later ∧ (s.afterAll earlier).Binds a name v

/-- Of the actions of a run that bound a name, the latest bound it to a value. -/
def LastBound (s : Session H) (actions : List (Action H)) (name : String) (v : H.Value) : Prop :=
  ∃ earlier a later, actions = earlier ++ a :: later ∧ (s.afterAll earlier).Binds a name v ∧
    ∀ between b rest w, later = between ++ b :: rest →
      ¬ (s.afterAll (earlier ++ a :: between)).Binds b name w

theorem afterAll_concat (s : Session H) (actions : List (Action H)) (a : Action H) :
    s.afterAll (actions ++ [a]) = (s.afterAll actions).after a :=
  s.afterAll_append actions [a]

theorem concat_eq_append_cons {α : Type} {l earlier later : List α} {a b : α}
    (h : l ++ [a] = earlier ++ b :: later) :
    (later = [] ∧ earlier = l ∧ b = a) ∨
      ∃ rest, later = rest ++ [a] ∧ l = earlier ++ b :: rest := by
  rcases List.eq_nil_or_concat later with rfl | ⟨rest, c, rfl⟩
  · obtain ⟨rfl, hc⟩ := List.append_inj' h rfl
    cases hc
    exact .inl ⟨rfl, rfl, rfl⟩
  · rw [List.concat_eq_append, ← List.cons_append, ← List.append_assoc] at h
    obtain ⟨rfl, hc⟩ := List.append_inj' h rfl
    cases hc
    exact .inr ⟨rest, List.concat_eq_append, rfl⟩

theorem hasBound_concat {s : Session H} {actions : List (Action H)} {a : Action H}
    {name : String} :
    s.HasBound (actions ++ [a]) name ↔
      (∃ v, (s.afterAll actions).Binds a name v) ∨ s.HasBound actions name := by
  constructor
  · rintro ⟨earlier, b, later, v, h, hb⟩
    rcases concat_eq_append_cons h with ⟨-, rfl, rfl⟩ | ⟨rest, -, rfl⟩
    · exact .inl ⟨v, hb⟩
    · exact .inr ⟨earlier, b, rest, v, rfl, hb⟩
  · rintro (⟨v, hb⟩ | ⟨earlier, b, later, v, rfl, hb⟩)
    · exact ⟨actions, a, [], v, rfl, hb⟩
    · exact ⟨earlier, b, later ++ [a], v, by simp, hb⟩

theorem lastBound_concat {s : Session H} {actions : List (Action H)} {a : Action H}
    {name : String} {v : H.Value} :
    s.LastBound (actions ++ [a]) name v ↔
      (s.afterAll actions).Binds a name v ∨
        s.LastBound actions name v ∧ ∀ w, ¬ (s.afterAll actions).Binds a name w := by
  constructor
  · rintro ⟨earlier, b, later, h, hb, hlast⟩
    rcases concat_eq_append_cons h with ⟨-, rfl, rfl⟩ | ⟨rest, rfl, rfl⟩
    · exact .inl hb
    · refine .inr ⟨⟨earlier, b, rest, rfl, hb, ?_⟩, fun w => hlast rest a [] w rfl⟩
      rintro between c rest' w rfl
      exact hlast between c (rest' ++ [a]) w (by simp)
  · rintro (hb | ⟨⟨earlier, b, later, rfl, hb, hlast⟩, hnot⟩)
    · exact ⟨actions, a, [], rfl, hb, by simp⟩
    · refine ⟨earlier, b, later ++ [a], by simp, hb, fun between c rest w h => ?_⟩
      rcases concat_eq_append_cons h with ⟨-, rfl, rfl⟩ | ⟨rest', -, rfl⟩
      · exact hnot w
      · exact hlast between c rest' w rfl

theorem find?_afterAll (settings : Settings) (actions : List (Action H)) (n : String)
    (v : H.Value) :
    ((new settings).afterAll actions).bindings.find? n = some v ↔
      (new settings).LastBound actions n v := by
  induction actions using List.reverseRecOn with
  | nil => simp [LastBound, afterAll, new]
  | append_singleton actions a ih => rw [afterAll_concat, find?_after, lastBound_concat, ih]

theorem isSome_find?_afterAll (settings : Settings) (actions : List (Action H)) (n : String) :
    (((new settings).afterAll actions).bindings.find? n).isSome ↔
      (new settings).HasBound actions n := by
  induction actions using List.reverseRecOn with
  | nil => simp [HasBound, afterAll, new]
  | append_singleton actions a ih =>
    rw [hasBound_concat, ← ih, Option.isSome_iff_exists, Option.isSome_iff_exists]
    simp only [afterAll_concat, find?_after]
    by_cases hb : ∃ v, ((new settings).afterAll actions).Binds a n v
    · obtain ⟨v, hv⟩ := hb
      exact ⟨fun _ => .inl ⟨v, hv⟩, fun _ => ⟨v, .inl hv⟩⟩
    · rw [not_exists] at hb
      simp [hb]

/-! ### Bound names -/

/-- A name that no action assigns to keeps its value. -/
theorem find?_afterAll_of_not_assigned {s : Session H} {n : String} {v : H.Value}
    (h : s.bindings.find? n = some v) {actions : List (Action H)}
    (hn : ∀ a ∈ actions, ∀ held line, a.line? = some (held, line) → ¬AssignsTo line n) :
    (s.afterAll actions).bindings.find? n = some v := by
  induction actions generalizing s with
  | nil => exact h
  | cons a actions ih =>
    have ha : ∀ w, ¬s.Binds a n w := fun w hw => by
      obtain ⟨held, line, hl, -, hassigns⟩ := binds_iff.1 hw
      exact hn a List.mem_cons_self held line hl hassigns
    exact ih (find?_after.2 (.inr ⟨h, ha⟩)) fun b hb => hn b (List.mem_cons_of_mem a hb)

theorem Sound.attempt_bound {s : Session H} (hs : s.Sound) {n : String} {v : H.Value}
    (h : s.bindings.find? n = some v) (held : List H.Kind) :
    s.attempt held n = ⟨.ok (some v), s, [], [⟨.info, n ++ ": " ++ v.text⟩]⟩ := by
  have hn : IsVariable n := hs.named n (by rw [h]; rfl)
  have ht : String.ofList (Text.trim n.toList) = n := by
    rw [hn.trimmed, String.ofList_toList]
  rw [s.attempt_of_none held (splitAssignment_of_not_mem hn.noEquals),
    s.evaluateExpression_of_bound held (ht.symm ▸ h), ht]

theorem Sound.evaluate_bound {s : Session H} (hs : s.Sound) {n : String} {v : H.Value}
    (h : s.bindings.find? n = some v) (held : List H.Kind) :
    s.evaluate held n = ⟨.ok (some v), s, [],
      [⟨.info, n ++ ": " ++ v.text⟩, ⟨s.settings.resultLevel, v.text⟩]⟩ := by
  simp only [evaluate, hs.attempt_bound h held, closing]
  rfl

theorem bindings_of_binds {s : Session H} {a : Action H} {name : String} {v : H.Value}
    (h : s.Binds a name v) : (s.after a).bindings = s.bindings.insert name v := by
  rcases s.bindings_after a with ⟨m, w, hw, hb⟩ | ⟨hn, -⟩
  · obtain ⟨rfl, rfl⟩ := h.unique hw
    exact hb
  · exact absurd h (hn name v)

theorem bindings_of_not_binds {s : Session H} {a : Action H}
    (h : ∀ name v, ¬ s.Binds a name v) : (s.after a).bindings = s.bindings := by
  rcases s.bindings_after a with ⟨m, w, hw, -⟩ | ⟨-, hb⟩
  · exact absurd hw (h m w)
  · exact hb

/-- A name has the value of the latest line that assigned to it and yielded one. Nothing else
changes a variable, and the name alone as a line gives its value back. -/
theorem variables_of_run (settings : Settings) (actions : List (Action H)) :
    let s : Session H := (new settings).afterAll actions
    (∀ n, (s.bindings.find? n).isSome ↔ (new settings).HasBound actions n) ∧
    (∀ n v, s.bindings.find? n = some v ↔ (new settings).LastBound actions n v) ∧
    (∀ a n v, s.Binds a n v → (s.after a).bindings = s.bindings.insert n v) ∧
    (∀ a, (∀ n v, ¬ s.Binds a n v) → (s.after a).bindings = s.bindings) ∧
    (∀ n v, s.bindings.find? n = some v → IsVariable n ∧ ∀ held,
      s.attempt held n = ⟨.ok (some v), s, [], [⟨.info, n ++ ": " ++ v.text⟩]⟩ ∧
      s.evaluate held n = ⟨.ok (some v), s, [],
        [⟨.info, n ++ ": " ++ v.text⟩, ⟨s.settings.resultLevel, v.text⟩]⟩) := by
  intro s
  have hs : s.Sound := ((Reachable.new settings).afterAll actions).sound
  refine ⟨isSome_find?_afterAll settings actions, find?_afterAll settings actions,
    fun a n v h => bindings_of_binds h, fun a h => bindings_of_not_binds h, fun n v hv => ?_⟩
  have hn : IsVariable n := hs.named n (by rw [hv]; rfl)
  exact ⟨hn, fun held => ⟨hs.attempt_bound hv held, hs.evaluate_bound hv held⟩⟩

theorem variables_of_run_count :
    let s : Session (Demo.host Demo.noHost) := Demo.calculating.after (.attempt [] "n = Count")
    Demo.calculating.Binds (.attempt [] "n = Count") "n" (.int 0) ∧
      s.bindings = Demo.calculating.bindings.insert "n" (.int 0) ∧
      (s.after .help).bindings = s.bindings ∧
      (s.attempt [] "n").result = .ok (some (.int 0)) ∧ (s.attempt [] "n").session = s := by
  intro s
  have hsplit : splitAssignment "n = Count".toList =
      some (['n', ' '], [' ', 'C', 'o', 'u', 'n', 't']) := rfl
  have hc : Call.parse (Text.trim [' ', 'C', 'o', 'u', 'n', 't']) = .ok ⟨"Count", []⟩ := by
    rw [Call.parse_trim, Call.parse_of_not_mem (by decide)]
    rfl
  have hv : (Demo.calculating.attempt [] "n = Count").result = .ok (some (.int 0)) := by
    rw [attempt_assigning _ _ hsplit (by decide), evaluateExpression_of_call _ _ rfl hc]
    rfl
  have hb : Demo.calculating.Binds (.attempt [] "n = Count") "n" (.int 0) :=
    binds_iff.2 ⟨_, _, rfl, hv, assignsTo_iff.2 ⟨_, _, hsplit, rfl⟩⟩
  obtain ⟨-, -, hinsert, -, -⟩ :=
    variables_of_run ⟨true, false⟩ [.register (Demo.calculator (H := Demo.noHost) .initial)]
  obtain ⟨-, -, -, hsame, hbound⟩ := variables_of_run ⟨true, false⟩
    [.register (Demo.calculator (H := Demo.noHost) .initial), .attempt [] "n = Count"]
  have hs : s.bindings = Demo.calculating.bindings.insert "n" (.int 0) := hinsert _ _ _ hb
  have hn : s.bindings.find? "n" = some (.int 0) := by
    rw [hs]
    rfl
  have ha : s.attempt [] "n" = ⟨.ok (some (.int 0)), s, [], _⟩ := ((hbound _ _ hn).2 []).1
  refine ⟨hb, hs, hsame .help (by rintro _ _ ⟨_, ⟨⟩, _⟩), ?_⟩
  rw [ha]
  exact ⟨rfl, rfl⟩

end Session

end HostConsole
