import HostConsole.Proofs.Evaluation.Alike
import HostConsole.Proofs.Session.Naming
import HostConsole.Proofs.Session.Report

/-! Lines whose trees differ in the case of their names only. Such lines run the same operations on
the same arguments, leave the same session and report the same. Their results are the same too,
unless the line fails at a call whose name is repeated in the fault: each line then repeats the name
that it has at this call. -/

namespace HostConsole

variable {H : Host}

/-- The name of a call that a fault repeats as it was typed. -/
def Fault.typed? : Fault → Option String
  | .unknownCommand name => some name
  | .arityMismatch _ name _ => some name
  | _ => none

theorem Fault.OfArgument.typed?_eq {f : Fault} (h : f.OfArgument) : f.typed? = none := by
  cases h <;> rfl

namespace Session

variable {s : Session H} {held : List H.Kind} {l m : String} {c d : Call} {o : Outcome H}
  {done todo : List (Resolved H)} {f : Fault}

/-- A line that is evaluated as a call: it assigns nothing, and it has a parenthesis or is at least
no variable's name. -/
structure Reads (s : Session H) (line : String) (c : Call) : Prop where
  assigns : splitAssignment line.toList = none
  free : '(' ∈ line.toList ∨ s.bindings.find? (String.ofList (Text.trim line.toList)) = none
  parse : Call.parse line.toList = .ok c

/-- The results of two lines with the trees `c` and `d`, of which `k` calls have run. A fault that
repeats a name repeats that of the next call. -/
inductive Repeats (c d : Call) (k : Nat) :
    Except Fault (Option H.Value) → Except Fault (Option H.Value) → Prop where
  | value (v : Option H.Value) : Repeats c d k (.ok v) (.ok v)
  | fault (f : Fault) (hf : f.typed? = none) : Repeats c d k (.error f) (.error f)
  | unknown {m n : Call} (hm : c.postorder[k]? = some m) (hn : d.postorder[k]? = some n) :
      Repeats c d k (.error (.unknownCommand m.name)) (.error (.unknownCommand n.name))
  | arity {m n : Call} (hm : c.postorder[k]? = some m) (hn : d.postorder[k]? = some n)
      (signature arguments : String) :
      Repeats c d k (.error (.arityMismatch signature m.name arguments))
        (.error (.arityMismatch signature n.name arguments))

/-- The information of a report, without errors and results that are reported apart. -/
def infos (log : List Entry) : List Entry :=
  log.filter (·.level = .info)

/-- What the outcomes of two lines have in common whose trees are `c` and `d`. -/
structure Agree (c d : Call) (o o' : Outcome H) : Prop where
  runs : o'.runs = o.runs
  infos : infos o'.log = infos o.log
  session : o'.session = o.session
  result : Repeats c d o.runs.length o.result o'.result

/-! ### The call at which a line fails -/

theorem Executes.postorder_next (h : s.Executes held c o done todo) {n : Resolved H}
    (hn : todo.head? = some n) : c.postorder[o.runs.length]? = some n.call := by
  have hlen : done.length = o.runs.length := h.runs.length_eq
  have hget : (done ++ todo)[done.length]? = some n := by
    rw [List.getElem?_append_right (Nat.le_refl _), Nat.sub_self, ← List.head?_eq_getElem?, hn]
  rw [← h.order, List.getElem?_map, ← hlen, hget, Option.map_some]

/-- The name that a fault repeats is that of the first call that has not run. -/
theorem Executes.typed (h : s.Executes held c o done todo) (ho : o.result = .error f)
    {name : String} (hf : f.typed? = some name) :
    ∃ n, c.postorder[o.runs.length]? = some n ∧ n.name = name := by
  have hcause : ∀ name cause, f ≠ .invocation name cause := by
    rintro name cause rfl
    cases hf
  obtain ⟨-, n, hn, hr⟩ := h.rejected f ho hcause
  refine ⟨n.call, h.postorder_next hn, ?_⟩
  cases hr with
  | unknown => exact Option.some.inj hf
  | arity => exact Option.some.inj hf
  | coercion _ _ _ he =>
    rw [(coerceFrom_fault he).typed?_eq] at hf
    cases hf

/-! ### Two lines -/

theorem Reads.unbound (hl : s.Reads l c) (hs : s.Sound) :
    s.bindings.find? (String.ofList (Text.trim l.toList)) = none :=
  hl.free.elim hs.find?_of_parenthesis id

theorem Reads.parse_trim (hl : s.Reads l c) : Call.parse (Text.trim l.toList) = .ok c :=
  (Call.parse_trim _).trans hl.parse

theorem Reads.attempt_eq (hl : s.Reads l c) (hs : s.Sound) (held : List H.Kind) :
    s.attempt held l = s.ended ((s.scope held).resolve (.ofCall c) s.start) := by
  rw [s.attempt_of_none held hl.assigns,
    s.evaluateExpression_of_call held (hl.unbound hs) hl.parse_trim]

/-- Evaluations that agree up to a name have one at the call that is next. -/
theorem agree_of_executes {e e' : Except Fault (Option H.Value) × Progress H}
    (h : Evaluation.Agree e e') {done' todo' : List (Resolved H)}
    (hc : s.Executes held c (s.ended e) done todo)
    (hd : s.Executes held d (s.ended e') done' todo') :
    Agree c d (s.ended e) (s.ended e') ∧ (s.ended e').log = (s.ended e).log := by
  cases h with
  | same =>
    refine ⟨⟨rfl, rfl, rfl, ?_⟩, rfl⟩
    cases he : (s.ended e).result with
    | ok v => exact .value v
    | error f =>
      cases f with
      | unknownCommand name =>
        obtain ⟨m, hm, rfl⟩ := hc.typed he rfl
        obtain ⟨n, hn, hname⟩ := hd.typed he rfl
        have h := Repeats.unknown (H := H) hm hn
        rwa [hname] at h
      | arityMismatch signature name arguments =>
        obtain ⟨m, hm, rfl⟩ := hc.typed he rfl
        obtain ⟨n, hn, hname⟩ := hd.typed he rfl
        have h := Repeats.arity (H := H) hm hn signature arguments
        rwa [hname] at h
      | _ => exact .fault _ rfl
  | unknown name name' p =>
    obtain ⟨m, hm, rfl⟩ := hc.typed rfl rfl
    obtain ⟨n, hn, rfl⟩ := hd.typed rfl rfl
    exact ⟨⟨rfl, rfl, rfl, .unknown hm hn⟩, rfl⟩
  | arity signature name name' arguments p =>
    obtain ⟨m, hm, rfl⟩ := hc.typed rfl rfl
    obtain ⟨n, hn, rfl⟩ := hd.typed rfl rfl
    exact ⟨⟨rfl, rfl, rfl, .arity hm hn signature arguments⟩, rfl⟩

theorem Sound.attempt_agree (hs : s.Sound) (held : List H.Kind) (hl : s.Reads l c)
    (hm : s.Reads m d) (h : (Argument.ofCall c).Alike (.ofCall d)) :
    Agree c d (s.attempt held l) (s.attempt held m) ∧
      (s.attempt held m).log = (s.attempt held l).log := by
  obtain ⟨done, todo, hc⟩ := hs.executes held c
  obtain ⟨done', todo', hd⟩ := hs.executes held d
  rw [hl.attempt_eq hs held, hm.attempt_eq hs held]
  exact agree_of_executes ((s.scope held).resolve_alike h s.start) hc hd

/-- The entries that close two reports differ in an error at most. -/
theorem Repeats.infos_closing {k : Nat} {r r' : Except Fault (Option H.Value)}
    (h : Repeats c d k r r') (settings : Settings) :
    infos (closing settings r') = infos (closing settings r) := by
  cases h <;> rfl

theorem Agree.evaluate (h : Agree c d (s.attempt held l) (s.attempt held m)) :
    Agree c d (s.evaluate held l) (s.evaluate held m) where
  runs := h.runs
  infos := by
    have hlog := h.infos
    have hclosing := h.result.infos_closing s.settings
    simp only [Session.infos] at hlog hclosing ⊢
    rw [Session.evaluate, Session.evaluate, List.filter_append, List.filter_append, hlog,
      hclosing]
  session := h.session
  result := h.result

theorem Repeats.value?_eq {o o' : Outcome H} {k : Nat} (h : Repeats c d k o.result o'.result) :
    o'.value? = o.value? := by
  unfold Outcome.value?
  generalize o.result = r at h
  generalize o'.result = r' at h
  cases h <;> rfl

/-- Names count up to case at every depth of a line. Two lines that assign nothing and whose trees
differ in the case of names only run the same operations on the same arguments, leave the same
session and report the same information. They come to the same value or to the same fault, up to
the name in the two faults that repeat the one that was typed. -/
theorem lines_up_to_case (hs : s.Reachable) (held : List H.Kind) (hl : s.Reads l c)
    (hm : s.Reads m d) (h : (Argument.ofCall c).Alike (.ofCall d)) :
    Agree c d (s.attempt held l) (s.attempt held m) ∧
      (s.attempt held m).log = (s.attempt held l).log ∧
      Agree c d (s.evaluate held l) (s.evaluate held m) ∧
      (s.evaluate held m).value? = (s.evaluate held l).value? := by
  obtain ⟨ha, hlog⟩ := hs.sound.attempt_agree held hl hm h
  have he : Agree c d (s.evaluate held l) (s.evaluate held m) := ha.evaluate
  exact ⟨ha, hlog, he, he.result.value?_eq⟩

theorem reads_nested (s : Session H) {outer inner : String}
    (ho : (Argument.call outer []).WellFormed) (hi : (Argument.call inner []).WellFormed)
    (he : '=' ∉ outer.toList)
    (hl : l.toList = outer.toList ++ '(' :: (inner.toList ++ ['(', ')']) ++ [')']) :
    s.Reads l ⟨outer, [.call inner []]⟩ := by
  refine ⟨?_, .inl (by simp [hl]), ?_⟩
  · rw [hl, List.append_assoc, List.cons_append]
    exact splitAssignment_of_parenthesis he _
  · rw [hl]
    exact Call.parse_call_of_call ho hi

/-- An inner call that has run counts, and the outer name is repeated as it was typed. -/
theorem lines_up_to_case_unknown :
    let s : Session (Demo.host Demo.noHost) := Demo.calculating
    s.Reachable ∧ s.Reads "Ünit(Count())" ⟨"Ünit", [.call "Count" []]⟩ ∧
      s.Reads "ünIt(COUNT())" ⟨"ünIt", [.call "COUNT" []]⟩ ∧
      (s.attempt [] "Ünit(Count())").result = .error (.unknownCommand "Ünit") ∧
      (s.attempt [] "ünIt(COUNT())").result = .error (.unknownCommand "ünIt") ∧
      (s.attempt [] "ünIt(COUNT())").log = [⟨.info, "Method invoked: Count()"⟩] := by
  intro s
  have hl : s.Reads "Ünit(Count())" ⟨"Ünit", [.call "Count" []]⟩ :=
    s.reads_nested (Call.wellFormed_bare "Ünit" (by decide) rfl (by decide))
      (Call.wellFormed_bare "Count" (by decide) rfl (by decide)) (by decide) rfl
  have hm : s.Reads "ünIt(COUNT())" ⟨"ünIt", [.call "COUNT" []]⟩ :=
    s.reads_nested (Call.wellFormed_bare "ünIt" (by decide) rfl (by decide))
      (Call.wellFormed_bare "COUNT" (by decide) rfl (by decide)) (by decide) rfl
  have h : (Argument.call "Ünit" [.call "Count" []]).Alike (.call "ünIt" [.call "COUNT" []]) :=
    .call (by decide) (.cons (.call (by decide) .nil) .nil)
  obtain ⟨hagree, hlog, -⟩ := lines_up_to_case Demo.reachable_calculating [] hl hm h
  have ho := hl.attempt_eq Demo.reachable_calculating.sound []
  have hresult : (s.attempt [] "Ünit(Count())").result = .error (.unknownCommand "Ünit") := by
    rw [ho]
    rfl
  have hruns : (s.attempt [] "Ünit(Count())").runs.length = 1 := by
    rw [ho]
    rfl
  refine ⟨Demo.reachable_calculating, hl, hm, hresult, ?_, ?_⟩
  · have hr := hagree.result
    rw [hruns] at hr
    generalize (s.attempt [] "Ünit(Count())").result = r at hr hresult
    generalize (s.attempt [] "ünIt(COUNT())").result = r' at hr
    cases hr with
    | value | arity => cases hresult
    | fault f hf =>
      cases hresult
      cases hf
    | unknown _ hn =>
      cases hn
      rfl
  · rw [hlog, ho]
    rfl

end Session

end HostConsole
