import HostConsole.Proofs.Call.Written
import HostConsole.Proofs.Evaluation.Provenance
import HostConsole.Proofs.Session.History

/-! The number of arguments over whole lines. What runs has as many arguments as are written
and as many as are declared, each coerced to the type of the parameter at its place. A call
with another number is turned down, and so is one that begins with an empty text. -/

namespace HostConsole

variable {H : Host}

theorem beginsEmpty_iff {as : List Argument} :
    beginsEmpty as = true ↔ as.head? = some (.text "") := by
  cases as with
  | nil => simp [beginsEmpty]
  | cons a as =>
    cases a with
    | text content => simp [beginsEmpty]
    | call name arguments => simp [beginsEmpty]

/-- How a call stands in the text of a line, and what it is given for its arguments. -/
structure Resolved.Written (s : Scope H) (c : Call) (text : List Char) (i : Nat)
    (n : Resolved H) : Prop where
  stands : c.Stands text i n.call
  notEmptyText : n.call.arguments ≠ [.text ""]
  count : n.values.length = n.call.arguments.length
  texts : ∀ (j : Nat) content, n.call.arguments[j]? = some (.text content) →
    n.values[j]? = some (some (s.valueOf content))

/-- A run that is handed one argument for each that is written, and for each that is declared
the one at its place. -/
structure Run.Exact (r : Run H) (n : Resolved H) : Prop where
  written : n.call.arguments.length = r.operation.arity
  first : n.call.arguments.head? ≠ some (.text "")
  received : r.arguments.size = r.operation.arity
  each : ∀ (j : Nat) (p : Parameter), r.operation.parameters[j]? = some p →
    ∃ v w, n.values[j]? = some v ∧ r.arguments.values[j]? = some w ∧ Fits p v w

namespace Session

/-- How a line ends at a call of a known operation whose arguments have been evaluated. The
number of them, and the text that they begin with, decide alone whether the fault is for their
number; otherwise it is left to coercion. -/
structure EndsAt (held : List H.Kind) (o : Outcome H) (n : Resolved H)
    (operation : Operation H) : Prop where
  mismatch : (∃ signature name arguments,
      o.result = .error (.arityMismatch signature name arguments)) ↔
    n.call.arguments.length ≠ operation.arity ∨ n.call.arguments.head? = some (.text "")
  carries : n.call.arguments.length ≠ operation.arity ∨
      n.call.arguments.head? = some (.text "") →
    o.result = .error (.arityMismatch operation.signature n.call.name (resolvedText n.values))
  passes : n.call.arguments.length = operation.arity →
    n.call.arguments.head? ≠ some (.text "") →
      (∃ f, coerceAll n.values operation.parameters = .error f ∧ o.result = .error f) ∨
      ∃ ws, coerceAll n.values operation.parameters = .ok ws ∧ operation.owner ∈ held ∧
        o.result = .error (.invocation operation.name (.inUse operation.ownerName))

variable {s : Session H} {held : List H.Kind} {c : Call} {o : Outcome H}
  {done todo : List (Resolved H)} {n : Resolved H}

theorem Executes.written (h : s.Executes held c o done todo) {text : List Char}
    (hc : Call.parse text = .ok c) {i : Nat}
    (hn : (done ++ todo)[i]? = some n) : n.Written (s.scope held) c text i := by
  have hcall : c.postorder[i]? = some n.call := by
    rw [← h.order, List.getElem?_map, hn]
    rfl
  have hmem : n ∈ (s.scope held).resolved (o.runs.map Run.value) (.ofCall c) :=
    h.values ▸ List.mem_of_getElem? hn
  obtain ⟨hstands, hne⟩ := Call.stands_of_parse hc hcall
  obtain ⟨ws, hws⟩ := Scope.values_of_mem_resolved hmem
  refine ⟨hstands, hne, ?_, fun j content hj => ?_⟩
  · rw [hws, Scope.length_valuesFrom]
  · rw [hws, Scope.valuesFrom_text hj]

theorem Executes.exact (h : s.Executes held c o done todo) {text : List Char}
    (hc : Call.parse text = .ok c) {i : Nat} {r : Run H}
    (hn : done[i]? = some n) (hr : o.runs[i]? = some r) : r.Exact n := by
  have ha := h.admits_at hn hr
  have hw := h.written hc (List.getElem?_append_left (List.getElem?_eq_some_iff.1 hn).1 ▸ hn)
  obtain ⟨hlen, hfit⟩ := fits_of_coerceFrom ha.count ha.fits
  refine ⟨hw.count ▸ ha.count, fun hfirst => ?_, hlen, hfit⟩
  have hfalse := ha.first
  rw [beginsEmpty_iff.2 hfirst] at hfalse
  cases hfalse

theorem EndsAt.of_passes {operation : Operation H}
    (hn : n.call.arguments.length = operation.arity)
    (he : n.call.arguments.head? ≠ some (.text ""))
    (hp : (∃ f, coerceAll n.values operation.parameters = .error f ∧ o.result = .error f) ∨
      ∃ ws, coerceAll n.values operation.parameters = .ok ws ∧ operation.owner ∈ held ∧
        o.result = .error (.invocation operation.name (.inUse operation.ownerName))) :
    EndsAt held o n operation := by
  have hcond : ¬(n.call.arguments.length ≠ operation.arity ∨
      n.call.arguments.head? = some (.text "")) := by
    rw [not_or, not_ne_iff]
    exact ⟨hn, he⟩
  refine ⟨iff_of_false ?_ hcond, fun h => absurd h hcond, fun _ _ => hp⟩
  rintro ⟨signature, name, arguments, ho⟩
  rcases hp with ⟨f, hf, ho'⟩ | ⟨ws, -, -, ho'⟩
  · -- coercion has faults of its own
    rw [ho] at ho'
    cases ho'
    cases coerceFrom_fault hf
  · rw [ho] at ho'
    cases ho'

theorem StopsAt.endsAt (h : s.StopsAt held o n)
    (hcount : n.values.length = n.call.arguments.length) {operation : Operation H}
    (hop : operation? s.operations n.call.name = some operation) :
    EndsAt held o n operation := by
  have hknown : ∀ {other : Operation H},
      operation? (s.scope held).operations n.call.name = some other → operation = other :=
    fun h => Option.some.inj (hop.symm.trans h)
  have hfirst : beginsEmpty n.call.arguments = false →
      n.call.arguments.head? ≠ some (.text "") := fun he h => by
    rw [beginsEmpty_iff.2 h] at he
    cases he
  cases h with
  | rejected hf ho =>
    cases hf with
    | unknown hop' =>
      rw [scope, hop] at hop'
      cases hop'
    | arity hop' ha =>
      obtain rfl := hknown hop'
      rw [hcount, beginsEmpty_iff] at ha
      refine ⟨iff_of_true ⟨_, _, _, ho⟩ ha, fun _ => ho, fun hn he => ?_⟩
      exact absurd ha (not_or.2 ⟨not_ne_iff.2 hn, he⟩)
    | coercion hop' ha he hf =>
      obtain rfl := hknown hop'
      exact .of_passes (hcount ▸ ha) (hfirst he) (.inl ⟨_, hf, ho⟩)
  | inUse ha hh ho =>
    obtain rfl := hknown ha.known
    exact .of_passes (hcount ▸ ha.count) (hfirst ha.first) (.inr ⟨_, ha.fits, hh, ho⟩)

theorem two_le_of_head?_empty {as : List Argument} (hne : as ≠ [.text ""])
    (h : as.head? = some (.text "")) : 2 ≤ as.length := by
  obtain _ | ⟨a, _ | ⟨b, as⟩⟩ := as
  · cases h
  · cases h
    exact absurd rfl hne
  · simp

/-- Whatever runs has as many arguments as are written and as many as are declared, and is
handed each coerced to the type of its parameter. Where a line ends at a call, the number of
arguments and an empty text in front of others decide alone about a fault for their number. -/
theorem arguments_of_attempt (hs : s.Reachable) (held : List H.Kind) {line : String}
    {text : List Char} (hl : expression? line = some text)
    (hb : s.bindings.find? (String.ofList (Text.trim text)) = none)
    (hc : Call.parse text = .ok c) :
    let o := s.attempt held line
    ∃ done todo, s.Executes held c o done todo ∧
      (∀ (i : Nat) (n : Resolved H), (done ++ todo)[i]? = some n →
        n.Written (s.scope held) c text i ∧
        (n.call.arguments.head? = some (.text "") → 2 ≤ n.call.arguments.length)) ∧
      (∀ (i : Nat) (n : Resolved H) (r : Run H), done[i]? = some n → o.runs[i]? = some r →
        r.Exact n) ∧
      (∀ n operation, todo.head? = some n → (∀ r ∈ o.runs, r.Returned) →
        operation? s.operations n.call.name = some operation → EndsAt held o n operation) ∧
      s.bindings.find? "" = none := by
  intro o
  have hempty : s.bindings.find? "" = none := by
    rw [Option.eq_none_iff_forall_ne_some]
    intro v hv
    exact (hs.sound.named "" (by rw [hv]; rfl)).nonempty rfl
  obtain ⟨done, todo, hx⟩ := hs.sound.executes_of_parse held hl hb hc
  refine ⟨done, todo, hx, fun i n hn => ?_, fun i n r hn hr => hx.exact hc hn hr,
    fun n operation hn hr hop => ?_, hempty⟩
  · have hw := hx.written hc hn
    exact ⟨hw, two_le_of_head?_empty hw.notEmptyText⟩
  · obtain ⟨i, hi⟩ := List.mem_iff_getElem?.1
      (List.mem_append_right done (List.mem_of_mem_head? hn))
    exact (hx.stopsAt hn hr).endsAt (hx.written hc hi).count hop

theorem arguments_of_attempt_concat :
    let s : Session (Demo.host Demo.noHost) := Demo.calculating
    expression? "Concat(,a)" = some "Concat(,a)".toList ∧
      s.bindings.find? "Concat(,a)" = none ∧
      Call.parse "Concat(,a)".toList = .ok ⟨"Concat", [.text "", .text "a"]⟩ ∧
      (s.attempt [] "Concat(,a)").result =
        .error (.arityMismatch "Concat(a : string, b : string)" "Concat" ", a") := by
  intro s
  have hl : expression? "Concat(,a)" = some "Concat(,a)".toList := rfl
  have hb : s.bindings.find? "Concat(,a)" = none := rfl
  have hc : Call.parse "Concat(,a)".toList = .ok ⟨"Concat", [.text "", .text "a"]⟩ := by
    have hempty : (Argument.text "").WellFormed := .text rfl (by decide)
    have ha : (Argument.text "a").WellFormed := .text rfl (by decide)
    have hw : Call.WellFormed ⟨"Concat", [.text "", .text "a"]⟩ :=
      ⟨by decide, rfl, by decide, by simp, by simp [hempty, ha]⟩
    have hs : ∀ p ∈ [Argument.text "", .text "a"].zip [[], ['a']], p.1.Spells p.2 := by
      simp only [List.zip_cons_cons, List.zip_nil_right, List.forall_mem_cons]
      exact ⟨Argument.spells_self "", Argument.spells_self "a", by simp⟩
    have hcall : (Argument.call "Concat" [.text "", .text "a"]).Spells
        ([] ++ "Concat".toList ++ [] ++ '(' :: [','].intercalate [[], ['a']] ++ ')' :: []) :=
      .call rfl rfl rfl rfl hs (.inr ⟨by simp, rfl⟩)
    exact Call.parse_of_spells hw hcall
  refine ⟨hl, hb, hc, ?_⟩
  obtain ⟨done, todo, hx, -, hexact, hends, -⟩ :=
    arguments_of_attempt Demo.reachable_calculating [] hl hb hc
  let n : Resolved (Demo.host Demo.noHost) :=
    ⟨⟨"Concat", [.text "", .text "a"]⟩, [some (.string ""), some (.string "a")]⟩
  have hall : done ++ todo = [n] := hx.values.trans rfl
  have hnot : n ∉ done := fun hn => by
    obtain ⟨i, r, hi, hr⟩ := hx.exists_run hn
    exact (hexact i n r hi hr).first rfl
  obtain ⟨hhead, hruns⟩ := hx.runs_eq_nil hall hnot
  have hop : operation? s.operations "Concat" =
      some ⟨.calculator, Demo.Calculator.declarations[2]⟩ := rfl
  have hreturned : ∀ r ∈ (s.attempt [] "Concat(,a)").runs, r.Returned := by
    rw [hruns]
    simp
  exact (hends n _ hhead hreturned hop).carries (.inr rfl)

end Session

end HostConsole
