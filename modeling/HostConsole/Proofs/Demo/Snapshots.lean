import HostConsole.Proofs.Demo.Installed
import HostConsole.Proofs.Evaluation.Calls
import HostConsole.Proofs.Session.Naming

/-! Snapshots of the ship. One is an object that nothing changes, so a variable that has it gives
the ship back its state whatever has happened in between. -/

namespace HostConsole.Demo

variable {H : Host}

/-! ### The two operations -/

/-- The operation that takes a snapshot of the ship. -/
def status : Operation (host H) :=
  ⟨.ship, Ship.declarations.get ⟨7, by simp [Ship.declarations]⟩⟩

/-- The operation that gives the ship the state of a snapshot. -/
def restoring : Operation (host H) :=
  ⟨.ship, Ship.declarations.get ⟨8, by simp [Ship.declarations]⟩⟩

/-- A scope in which the ship can be used. -/
structure Sails (s : Scope (host H)) : Prop where
  status : Session.operation? s.operations "Status" = some status
  restore : Session.operation? s.operations "Restore" = some restoring
  free : Kind.ship ∉ s.held

/-- The state of the ship. -/
def shipOf (ts : List (Tracked (host H))) : Option Ship :=
  Tracked.find? (H := host H) .ship ts

/-- An object that holds a state of the ship. -/
def snapshot (i : Identity) (ship : Ship) : (host H).Value :=
  .object ⟨i, .snapshot ship⟩

variable {s : Scope (host H)} {p q : Progress (host H)} {state : Ship}

theorem shipOf_perform {r : Run (host H)} (hp : shipOf p.targets = some state) :
    shipOf (p.perform r).targets = some (r.advance (H := host H) .ship state) := by
  have h := Run.find?_effect (H := host H) .ship r p.targets
  exact h.trans (congrArg _ hp)

theorem resolve_status (hs : Sails s) (hp : shipOf p.targets = some state) :
    ∃ r : Run (host H), s.resolve (.call "Status" []) p =
        (.ok (some (snapshot ⟨p.nextRun, 0⟩ state)), p.perform r) ∧
      shipOf (p.perform r).targets = some state := by
  let r : Run (host H) := ⟨p.nextRun, status, ⟨[]⟩, .ok (some (snapshot ⟨p.nextRun, 0⟩ state))⟩
  have hadmits : s.Admits ⟨⟨"Status", []⟩, []⟩ status ⟨[]⟩ := ⟨hs.status, rfl, rfl, rfl⟩
  have hnext : p.Next s.held r := ⟨rfl, hs.free, state, hp, rfl⟩
  refine ⟨r, ?_, shipOf_perform hp⟩
  rw [Scope.resolve_bare]
  exact (congrFun hadmits.invoke_eq p).trans (Scope.run_eq_perform hnext)

theorem resolve_restoring (hs : Sails s) {a : Argument} (hne : a ≠ .text "") {i : Identity}
    {ship : Ship} (ha : s.resolve a p = (.ok (some (snapshot i ship)), q))
    (hq : shipOf q.targets = some state) :
    ∃ r : Run (host H), s.resolve (.call "Restore" [a]) p = (.ok none, q.perform r) ∧
      shipOf (q.perform r).targets = some ship := by
  let r : Run (host H) := ⟨q.nextRun, restoring, ⟨[snapshot i ship]⟩, .ok none⟩
  have hadmits : s.Admits ⟨⟨"Restore", [a]⟩, [some (snapshot i ship)]⟩ restoring
      ⟨[snapshot i ship]⟩ := ⟨hs.restore, rfl, Scope.beginsEmpty_cons hne [], rfl⟩
  have hnext : q.Next s.held r := ⟨rfl, hs.free, state, hq, rfl⟩
  refine ⟨r, ?_, shipOf_perform hq⟩
  rw [Scope.resolve_single ha]
  exact (congrFun hadmits.invoke_eq q).trans (Scope.run_eq_perform hnext)

/-! ### Lines -/

/-- A snapshot as it is typed. -/
def statusCall : Call :=
  ⟨"Status", []⟩

theorem spells_statusCall : statusCall.Spells "Status()".toList :=
  @Argument.Spells.call _ _ [] [] [] [] [] rfl rfl rfl rfl (by simp) (.inl ⟨rfl, rfl⟩)

theorem wellFormed_statusCall : (Argument.ofCall statusCall).WellFormed :=
  Call.wellFormed_bare "Status" (by decide) rfl (by decide)

section

variable {t : Session (host H)} {held : List (Kind H.Kind)} {n : String} {ship : Ship}

theorem attempt_status (ht : t.Sound) (hs : Sails (t.scope held)) (hn : IsVariable n)
    (hship : shipOf t.targets = some ship) :
    let o := t.attempt held (n ++ " = Status()")
    o.result = .ok (some (snapshot ⟨t.nextRun, 0⟩ ship)) ∧
      o.session.bindings.find? n = some (snapshot ⟨t.nextRun, 0⟩ ship) := by
  intro o
  obtain ⟨r, hr, -⟩ := resolve_status (p := t.start) hs hship
  have hline : n ++ " = " ++ String.ofList "Status()".toList = n ++ " = Status()" := by
    rw [String.append_assoc]
    rfl
  have ho := ht.attempt_assigned held hn (Call.wellFormed_of_argument wellFormed_statusCall)
    spells_statusCall
  have hcall : (t.scope held).resolve (.ofCall statusCall) t.start = _ := hr
  rw [hline, hcall] at ho
  simp only [o, ho]
  refine ⟨rfl, ?_⟩
  simp [Session.bindResult, Session.ended, Session.start]

/-- A line that restores the ship from what an argument gives. -/
theorem attempt_restoring (ht : t.Sound) (hs : Sails (t.scope held)) {a : Argument}
    (ha : a.WellFormed) (hne : a ≠ .text "") {text : List Char} (htext : a.Spells text)
    {i : Identity} {q : Progress (host H)}
    (hr : (t.scope held).resolve a t.start = (.ok (some (snapshot i ship)), q))
    (hq : shipOf q.targets = some state) {line : String}
    (hline : line.toList = "Restore".toList ++ '(' :: text ++ [')']) :
    (t.attempt held line).result = .ok none ∧
      shipOf (t.attempt held line).session.targets = some ship := by
  let c : Call := ⟨"Restore", [a]⟩
  obtain ⟨r, hres, hrest⟩ := resolve_restoring hs hne hr hq
  have hname : "Restore" ≠ "" ∧ Text.Trimmed "Restore".toList ∧ '(' ∉ "Restore".toList := by
    decide
  have hw : c.WellFormed :=
    ⟨hname.1, hname.2.1, hname.2.2, by simpa [c] using hne, by simpa [c] using ha⟩
  have hc : c.Spells line.toList := hline ▸ htext.single "Restore"
  have hsplit : splitAssignment line.toList = none := splitAssignment_of_spells hc (by simp [c])
  rw [ht.attempt_spelled held hsplit hw hc]
  have hcall : (t.scope held).resolve (.ofCall c) t.start = _ := hres
  rw [hcall]
  exact ⟨rfl, hrest⟩

theorem attempt_restore (ht : t.Sound) (hs : Sails (t.scope held)) (hm : Call.Unmarked n.toList)
    {i : Identity} (hb : t.bindings.find? n = some (snapshot i ship))
    (hship : shipOf t.targets = some state) :
    let o := t.attempt held ("Restore(" ++ n ++ ")")
    o.result = .ok none ∧ shipOf o.session.targets = some ship := by
  have hn : IsVariable n := ht.named n (by rw [hb]; rfl)
  have hv : (t.scope held).valueOf n = snapshot i ship := by
    rw [Scope.valueOf, Session.scope, hb, Option.getD_some]
  have hr : (t.scope held).resolve (.text n) t.start =
      (.ok (some (snapshot i ship)), t.start) := by
    rw [Scope.resolve_text, hv]
  have hne : Argument.text n ≠ .text "" := fun h => hn.nonempty (Argument.text.inj h)
  refine attempt_restoring ht hs (.text hn.trimmed hm) hne (Argument.spells_self n) hr hship ?_
  simp

theorem attempt_restore_status (ht : t.Sound) (hs : Sails (t.scope held))
    (hship : shipOf t.targets = some ship) :
    let o := t.attempt held "Restore(Status())"
    o.result = .ok none ∧ shipOf o.session.targets = some ship := by
  obtain ⟨r, hr, hq⟩ := resolve_status (p := t.start) hs hship
  exact attempt_restoring ht hs wellFormed_statusCall (by simp [statusCall, Argument.ofCall])
    spells_statusCall hr hq rfl

end

/-! ### Whole runs -/

theorem sails_installed (settings : Settings) (actions : List (Action (host H)))
    {held : List (Kind H.Kind)} (hfree : .ship ∉ held) :
    Sails ((installed settings actions).scope held) :=
  ⟨operation?_installed (i := 7) (by decide) rfl, operation?_installed (i := 8) (by decide) rfl,
    hfree⟩

/-- A variable that has a snapshot of the ship gives the ship back the state it had, whatever has
happened since, and meanwhile it reads as the name, the speed, the heading and the shields of that
state. A snapshot that is restored at once changes nothing. -/
theorem snapshots_restore (settings : Settings) (actions : List (Action (host H))) :
    let s : Session (host H) := installed settings actions
    ∃ ship, shipOf s.targets = some ship ∧ ∀ held, .ship ∉ held →
      (∀ n, IsVariable n → Call.Unmarked n.toList →
        let value := snapshot ⟨s.nextRun, 0⟩ ship
        let text := ship.name ++ ": " ++ (.float ship.speed : (host H).Value).text ++
          " knots heading " ++ ship.heading ++ ", shields " ++ if ship.shields then "up" else "down"
        let o := s.attempt held (n ++ " = Status()")
        o.result = .ok (some value) ∧
        ∀ more : List (Action (host H)),
          (∀ a ∈ more, ∀ held line, a.line? = some (held, line) → ¬AssignsTo line n) →
          let t := o.session.afterAll more
          (∀ held,
            t.attempt held n = ⟨.ok (some value), t, [], [⟨.info, n ++ ": " ++ text⟩]⟩ ∧
            t.evaluate held n = ⟨.ok (some value), t, [],
              [⟨.info, n ++ ": " ++ text⟩, ⟨t.settings.resultLevel, text⟩]⟩) ∧
          ∀ held, .ship ∉ held →
            let r := t.attempt held ("Restore(" ++ n ++ ")")
            r.result = .ok none ∧ shipOf r.session.targets = some ship) ∧
      let r := s.attempt held "Restore(Status())"
      r.result = .ok none ∧ shipOf r.session.targets = some ship := by
  intro s
  obtain ⟨ship, hship⟩ := @exists_ship H settings actions
  refine ⟨ship, hship, fun held hfree => ⟨fun n hn hm => ?_, ?_⟩⟩
  · intro value text o
    have htext : value.text = text := ship.text_eq
    have hsails : Sails (s.scope held) := sails_installed settings actions hfree
    obtain ⟨hresult, hbound⟩ := attempt_status sound_installed hsails hn hship
    refine ⟨hresult, fun more hmore => ?_⟩
    intro t
    -- what follows the snapshot is the end of a longer run from the same beginning
    have ht : t = installed settings (actions ++ .attempt held (n ++ " = Status()") :: more) := by
      rw [installed_append]
      rfl
    have hb : t.bindings.find? n = some value := Session.find?_afterAll_of_not_assigned hbound hmore
    clear_value t
    subst ht
    obtain ⟨state, hstate⟩ := @exists_ship H settings
      (actions ++ .attempt held (n ++ " = Status()") :: more)
    refine ⟨fun held => ⟨?_, ?_⟩, fun held hfree => ?_⟩
    · rw [sound_installed.attempt_bound hb held, htext]
    · rw [sound_installed.evaluate_bound hb held, htext]
    · exact attempt_restore sound_installed (sails_installed _ _ hfree) hm hb hstate
  · exact attempt_restore_status sound_installed (sails_installed settings actions hfree) hship

/-- The ship turns and another snapshot is taken, and the first one reads as before. -/
theorem snapshots_restore_turn :
    let s : Session (host noHost) := installed ⟨true, false⟩ []
    let more : List (Action (host noHost)) := [.attempt [] "Turn East", .attempt [] "m = Status"]
    let t := (s.attempt [] "n = Status()").session.afterAll more
    let text := "Nautilus: " ++ Floating.writeSingle 0 ++ " knots heading North, shields down"
    shipOf s.targets = some .initial ∧
      t.attempt [] "n" =
        ⟨.ok (some (snapshot ⟨0, 0⟩ .initial)), t, [], [⟨.info, "n: " ++ text⟩]⟩ ∧
      (t.evaluate [] "n").log = [⟨.info, "n: " ++ text⟩, ⟨.info, text⟩] ∧
      (t.attempt [] "Restore(n)").result = .ok none ∧
      shipOf (t.attempt [] "Restore(n)").session.targets = some .initial := by
  intro s more t text
  have hn : IsVariable "n" := ⟨by decide, rfl, by decide, by decide⟩
  have hturn : ¬AssignsTo "Turn East" "n" := fun h => by
    obtain ⟨left, right, hsplit, -⟩ := assignsTo_iff.1 h
    cases hsplit
  have hother : ¬AssignsTo "m = Status" "n" := fun h => by
    have hm : AssignsTo "m = Status" "m" := assignsTo_iff.2 ⟨_, _, rfl, rfl⟩
    exact absurd (h.unique hm) (by decide)
  have hmore : ∀ a ∈ more, ∀ held line, a.line? = some (held, line) → ¬AssignsTo line "n" := by
    simpa [more, Action.line?] using ⟨hturn, hother⟩
  obtain ⟨ship, hship, h⟩ := snapshots_restore ⟨true, false⟩ ([] : List (Action (host noHost)))
  obtain rfl : Ship.initial = ship := Option.some.inj hship
  obtain ⟨hread, hrestore⟩ := ((h [] List.not_mem_nil).1 "n" hn (by decide)).2 more hmore
  have htext : "Nautilus" ++ ": " ++ Floating.writeSingle 0 ++ " knots heading " ++ "North" ++
      ", shields " ++ "down" = text := by
    simp only [text, String.append_assoc]
    rfl
  have hattempt : t.attempt [] "n" =
      ⟨.ok (some (snapshot ⟨0, 0⟩ .initial)), t, [], [⟨.info, "n: " ++ text⟩]⟩ := by
    rw [← htext]
    exact (hread []).1
  have hevaluate : (t.evaluate [] "n").log = [⟨.info, "n: " ++ text⟩, ⟨.info, text⟩] := by
    have ht : t = installed ⟨true, false⟩ (.attempt [] "n = Status()" :: more) := rfl
    have hlevel : t.settings.resultLevel = .info := by
      rw [ht, installed, Session.settings_afterAll]
      rfl
    have hlog : (t.evaluate [] "n").log = [⟨.info, _⟩, ⟨t.settings.resultLevel, _⟩] :=
      congrArg Outcome.log (hread []).2
    rw [hlog, hlevel, ← htext]
    rfl
  exact ⟨hship, hattempt, hevaluate, hrestore [] List.not_mem_nil⟩

end HostConsole.Demo
