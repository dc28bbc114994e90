import HostConsole.Completion
import HostConsole.Proofs.Session.Registration

/-! Operations without a mark. A session that requires marking answers every request as one that
does not, but whose targets have the marked operations alone in their tables. So an operation
without a mark never runs, is never shown, and stands in the way of no other. -/

namespace HostConsole

variable {H : Host}

/-- The target with nothing but the marked declarations in its table. -/
def Target.markedOnly (t : Target H) : Target H :=
  { t with declarations := t.declarations.filter (·.marked) }

theorem Target.operations_markedOnly (t : Target H) :
    t.markedOnly.operations false = t.operations true := by
  rw [operations, operations, if_neg Bool.false_ne_true, if_pos rfl, markedOnly]

theorem Target.filter_operations (t : Target H) :
    (t.operations false).filter Operation.marked = t.operations true := by
  rw [operations, operations, if_neg Bool.false_ne_true, if_pos rfl, List.filter_map]
  rfl

/-- The action with a target of marked declarations only, where it registers one. -/
def Action.markedOnly : Action H → Action H
  | .register t => .register t.markedOnly
  | .help => .help
  | .evaluate held line => .evaluate held line
  | .attempt held line => .attempt held line
  | .change kind state => .change kind state

/-! ### Requests and answers -/

/-- What a host asks of a session: to act, or to show what is within reach. -/
inductive Request (H : Host) where
  | act (action : Action H)
  | list (start : String)
  | find (name : String)
  | complete (line : String) (position : Nat)

def Request.markedOnly : Request H → Request H
  | .act a => .act a.markedOnly
  | .list start => .list start
  | .find name => .find name
  | .complete line position => .complete line position

/-- What a request is answered with, its runs and its report included. -/
inductive Answer (H : Host) where
  | registered (added : Except Fault Nat)
  | helped (log : List Entry)
  | evaluated (value : Option H.Value) (runs : List (Run H)) (log : List Entry)
  | attempted (result : Except Fault (Option H.Value)) (runs : List (Run H)) (log : List Entry)
  | changed
  | listed (names listings : List String)
  | found (operation : Option (Operation H))
  | completed (completion : Completion)

/-- An answer, with the variables and targets behind it. -/
structure Observation (H : Host) where
  answer : Answer H
  bindings : Bindings H.Content
  targets : List (Tracked H)

namespace Session

def answer (s : Session H) : Request H → Answer H
  | .act (.register t) => .registered ((s.register t).map Prod.fst)
  | .act .help => .helped s.help
  | .act (.evaluate held line) =>
    let o := s.evaluate held line
    .evaluated o.value? o.runs o.log
  | .act (.attempt held line) =>
    let o := s.attempt held line
    .attempted o.result o.runs o.log
  | .act (.change _ _) => .changed
  | .list start => .listed (s.names start) (s.listings start)
  | .find name => .found (operation? s.operations name)
  | .complete line position => .completed (.ofLine s line position)

/-- The session behind a request. Only an action changes it. -/
def behind (s : Session H) : Request H → Session H
  | .act a => s.after a
  | .list _ | .find _ | .complete _ _ => s

def transcript (s : Session H) : List (Request H) → List (Observation H)
  | [] => []
  | r :: rs =>
    ⟨s.answer r, (s.behind r).bindings, (s.behind r).targets⟩ :: (s.behind r).transcript rs

/-! ### A session that requires no marking -/

/-- The session as it is, but that it lets in from now on what is not marked. -/
def lenient (s : Session H) : Session H :=
  { s with settings := { s.settings with requireMarking := false } }

theorem attempt_lenient (s : Session H) (held : List H.Kind) (line : String) :
    s.lenient.attempt held line =
      { s.attempt held line with session := (s.attempt held line).session.lenient } :=
  attempt_map (f := lenient) (fun _ => rfl) (fun _ _ => rfl) fun _ _ => rfl

theorem evaluate_lenient (s : Session H) (held : List H.Kind) (line : String) :
    s.lenient.evaluate held line =
      { s.evaluate held line with session := (s.evaluate held line).session.lenient } := by
  rw [evaluate, attempt_lenient]
  rfl

/-! ### One request -/

section Requests

variable {s : Session H}

theorem adding_lenient (hm : s.settings.requireMarking = true) (t : Target H) :
    (s.adding t).lenient = s.lenient.adding t.markedOnly := by
  simp only [adding, lenient, hm, t.operations_markedOnly]
  rfl

theorem register_lenient (hm : s.settings.requireMarking = true) (t : Target H) :
    (s.after (.register t)).lenient = s.lenient.after (.register t.markedOnly) ∧
      (s.lenient.register t.markedOnly).map Prod.fst = (s.register t).map Prod.fst := by
  by_cases ht : t.kind ∈ Tracked.kinds s.targets
  · obtain ⟨hr, ha⟩ := register_of_tracked ht
    obtain ⟨hr', ha'⟩ : s.lenient.register t.markedOnly = _ ∧ _ = s.lenient :=
      register_of_tracked ht
    rw [hr, ha, hr', ha']
    exact ⟨rfl, rfl⟩
  · obtain ⟨hr, ha⟩ := register_of_untracked ht
    obtain ⟨hr', ha'⟩ : s.lenient.register t.markedOnly = _ ∧ _ = s.lenient.adding t.markedOnly :=
      register_of_untracked ht
    rw [hr, ha, hr', ha', hm]
    refine ⟨adding_lenient hm t, ?_⟩
    exact congrArg (fun ops => Except.ok (List.length ops)) t.operations_markedOnly

theorem after_lenient (hm : s.settings.requireMarking = true) (a : Action H) :
    (s.after a).lenient = s.lenient.after a.markedOnly := by
  cases a with
  | register t => exact (register_lenient hm t).1
  | help => rfl
  | evaluate held line => exact congrArg Outcome.session (s.evaluate_lenient held line).symm
  | attempt held line => exact congrArg Outcome.session (s.attempt_lenient held line).symm
  | change kind state => rfl

theorem behind_lenient (hm : s.settings.requireMarking = true) (r : Request H) :
    (s.behind r).lenient = s.lenient.behind r.markedOnly := by
  cases r with
  | act a => exact after_lenient hm a
  | list | find | complete => rfl

theorem answer_lenient (hm : s.settings.requireMarking = true) (r : Request H) :
    s.lenient.answer r.markedOnly = s.answer r := by
  cases r with
  | list | find | complete => rfl
  | act a =>
    cases a with
    | register t => exact congrArg Answer.registered (register_lenient hm t).2
    | help | change => rfl
    | evaluate held line =>
      change Answer.evaluated (s.lenient.evaluate held line).value? _ _ = _
      rw [evaluate_lenient]
      rfl
    | attempt held line =>
      change Answer.attempted (s.lenient.attempt held line).result _ _ = _
      rw [attempt_lenient]
      rfl

theorem settings_behind (s : Session H) (r : Request H) : (s.behind r).settings = s.settings := by
  cases r with
  | act a => exact s.settings_after a
  | list | find | complete => rfl

/-- The two sessions keep step. -/
theorem transcript_lenient (hm : s.settings.requireMarking = true) (requests : List (Request H)) :
    s.lenient.transcript (requests.map Request.markedOnly) = s.transcript requests := by
  induction requests generalizing s with
  | nil => rfl
  | cons r rs ih =>
    have hm' : (s.behind r).settings.requireMarking = true := by rw [settings_behind, hm]
    rw [List.map_cons, transcript, transcript, answer_lenient hm, ← behind_lenient hm, ih hm']
    rfl

end Requests

/-! ### Whole runs -/

/-- The operations of the tables of all targets that a run registers, marked or not. -/
def declared (actions : List (Action H)) : List (Operation H) :=
  (firsts (offers actions)).flatMap (·.operations false)

section Runs

variable (apart : Bool)

theorem operations_of_marking (actions : List (Action H)) :
    ((new ⟨true, apart⟩ : Session H).afterAll actions).operations =
      (declared actions).filter Operation.marked := by
  rw [(registry_afterAll ⟨true, apart⟩ actions).2, declared, List.filter_flatMap]
  simp only [Target.filter_operations]

theorem marked_of_made (actions : List (Action H)) :
    ∀ r ∈ (new ⟨true, apart⟩ : Session H).madeAll actions, r.operation.marked = true := by
  intro r hr
  have ho := (sound_new ⟨true, apart⟩).mem_operations_of_madeAll hr
  rw [operations_of_marking] at ho
  exact (List.mem_filter.1 ho).2

theorem beginning_of_marking (actions : List (Action H)) (start : String) :
    ((new ⟨true, apart⟩ : Session H).afterAll actions).beginning start =
      (declared actions).filter fun o => o.marked && Text.beginsAlike o.name start := by
  rw [beginning, operations_of_marking, List.filter_filter]
  exact List.filter_congr fun o _ => Bool.and_comm _ _

theorem operation?_of_marking (actions : List (Action H)) (name : String) :
    operation? ((new ⟨true, apart⟩ : Session H).afterAll actions).operations name =
      (declared actions).find? fun o => o.marked && Text.alike o.name name := by
  rw [operation?, operations_of_marking, List.find?_filter]
  simp only [Bool.decide_and, Bool.decide_eq_true]

/-- Marking is the same as deletion. A session that requires marking answers any requests as one
does that requires none and is offered the same targets with their marked operations alone; runs,
reports, variables and targets are the same at each step. So what runs is marked, what is listed or
completed is marked, and a name means the first marked operation of that name, whatever else is
called so. -/
theorem transcript_markedOnly :
    (∀ requests : List (Request H), (new ⟨true, apart⟩).transcript requests =
      (new ⟨false, apart⟩).transcript (requests.map Request.markedOnly)) ∧
    ∀ actions : List (Action H),
      let s : Session H := (new ⟨true, apart⟩).afterAll actions
      (∀ r ∈ (new ⟨true, apart⟩ : Session H).madeAll actions, r.operation.marked = true) ∧
      (∀ start, let marked := (declared actions).filter fun o =>
          o.marked && Text.beginsAlike o.name start
        s.names start = marked.map Operation.name ∧
          s.listings start = marked.map Operation.listing) ∧
      (∀ line position, ∀ c ∈ (Completion.ofLine s line position).candidates,
        ∃ o ∈ declared actions, o.marked = true ∧ c = ⟨o.name, o.listing⟩) ∧
      ∀ name, operation? s.operations name =
        (declared actions).find? fun o => o.marked && Text.alike o.name name := by
  refine ⟨fun requests => ?_, fun actions => ?_⟩
  · have hm : (new ⟨true, apart⟩ : Session H).settings.requireMarking = true := rfl
    exact (transcript_lenient hm requests).symm
  · refine ⟨marked_of_made apart actions, fun start => ?_, fun line position c hc => ?_,
      operation?_of_marking apart actions⟩
    · rw [names, listings, beginning_of_marking]
      exact ⟨rfl, rfl⟩
    · rw [Completion.ofLine, beginning_of_marking] at hc
      obtain ⟨o, ho, rfl⟩ := List.mem_map.1 hc
      obtain ⟨ho, hmark⟩ := List.mem_filter.1 ho
      exact ⟨o, ho, (Bool.and_eq_true_iff.1 hmark).1, rfl⟩

/-- An operation without a mark that would shadow the one behind it. -/
theorem transcript_markedOnly_count :
    let vault : Target (Demo.host Demo.noHost) :=
      { kind := .calculator, state := .initial
        declarations :=
          [{ name := "COUNT", parameters := [], marked := false
             body := fun _ _ c => ⟨c.counted, .ok none⟩ },
           { name := "Count", parameters := [], marked := true
             body := fun _ _ c => ⟨c, .ok (some (.int c.evaluations))⟩ }] }
    let requests (t : Target (Demo.host Demo.noHost)) : List (Request (Demo.host Demo.noHost)) :=
      [.act (.register t), .act (.attempt [] "count"), .list "", .find "count",
        .complete "x = co" 6]
    let s : Session (Demo.host Demo.noHost) := (new ⟨true, false⟩).afterAll [.register vault]
    (new ⟨true, false⟩).transcript (requests vault) =
        (new ⟨false, false⟩).transcript (requests vault.markedOnly) ∧
      (declared [.register vault]).map Operation.name = ["COUNT", "Count"] ∧
      s.names "" = ["Count"] ∧
      (operation? s.operations "count").map Operation.name = some "Count" := by
  intro vault requests s
  obtain ⟨hsame, hrun⟩ := transcript_markedOnly (H := Demo.host Demo.noHost) false
  obtain ⟨-, hlist, -, hfind⟩ := hrun [.register vault]
  refine ⟨hsame (requests vault), rfl, (hlist "").1, ?_⟩
  rw [hfind]
  decide

end Runs

end Session

end HostConsole
