import HostConsole.Proofs.Evaluation.Alike
import HostConsole.Proofs.Evaluation.Calls
import HostConsole.Proofs.Session.Reachable

/-! Looking up a name and listing the names that begin with a text. Both go by lower-case forms, so
the operation that a name means is always among those that are listed for it, and a longer start
lists no more than a shorter one. -/

namespace HostConsole

variable {H : Host}

namespace Session

/-! ### Lookup -/

/-- The operation that a name means is the first with that name up to case. -/
theorem operation?_eq_some_iff {operations : List (Operation H)} {name : String}
    {o : Operation H} :
    operation? operations name = some o ↔
      ∃ earlier later, operations = earlier ++ o :: later ∧
        Text.fold o.name.toList = Text.fold name.toList ∧
        ∀ e ∈ earlier, Text.fold e.name.toList ≠ Text.fold name.toList :=
  Text.find?_alike_eq_some_iff

theorem operation?_eq_none_iff {operations : List (Operation H)} {name : String} :
    operation? operations name = none ↔
      ∀ o ∈ operations, Text.fold o.name.toList ≠ Text.fold name.toList :=
  Text.find?_alike_eq_none_iff

/-! ### Listing -/

theorem mem_beginning {s : Session H} {start : String} {o : Operation H} :
    o ∈ s.beginning start ↔
      o ∈ s.operations ∧ Text.fold start.toList <+: Text.fold o.name.toList := by
  rw [beginning, List.mem_filter, Text.beginsAlike_iff]

theorem beginning_sublist (s : Session H) {p q : String} (h : Text.beginsAlike p q = true) :
    (s.beginning p).Sublist (s.beginning q) :=
  List.monotone_filter_right _ fun _ ho => Text.beginsAlike_trans ho h

theorem mem_beginning_of_operation? {s : Session H} {name : String} {o : Operation H}
    (h : operation? s.operations name = some o) : o ∈ s.beginning name := by
  refine mem_beginning.2 ⟨List.mem_of_find?_eq_some h, ?_⟩
  obtain ⟨_, _, -, ho, -⟩ := operation?_eq_some_iff.1 h
  rw [ho]

/-- Texts are compared by their lower-case forms, be it for equality or for how they begin. So a
name means the first operation with it in any spelling, whatever number of arguments it is given;
that operation is among those listed for the name, and a start that begins with another lists a
part of what the other lists. -/
theorem lookup_agrees_with_listing (s : Session H) :
    (∀ a b : String,
      (Text.alike a b = true ↔ Text.fold a.toList = Text.fold b.toList) ∧
      (Text.beginsAlike a b = true ↔ Text.fold b.toList <+: Text.fold a.toList) ∧
      (Text.alike a b = true ↔ Text.beginsAlike a b = true ∧ Text.beginsAlike b a = true)) ∧
    (Equivalence fun a b : String => Text.alike a b = true) ∧
    (∀ n o, operation? s.operations n = some o ↔
      ∃ earlier later, s.operations = earlier ++ o :: later ∧ Text.alike o.name n = true ∧
        ∀ e ∈ earlier, Text.alike e.name n = false) ∧
    (∀ n, operation? s.operations n = none ↔
      ∀ o ∈ s.operations, Text.alike o.name n = false) ∧
    (∀ m n, Text.alike m n = true → operation? s.operations m = operation? s.operations n) ∧
    (∀ held n arguments vs p,
      (operation? s.operations n = none →
        (s.scope held).invoke n arguments vs p = (.error (.unknownCommand n), p)) ∧
      ∀ o, operation? s.operations n = some o → vs.length ≠ o.arity →
        (s.scope held).invoke n arguments vs p =
          (.error (.arityMismatch o.signature n (resolvedText vs)), p)) ∧
    (∀ n, s.beginning n = s.operations.filter
      fun o => Text.fold n.toList <+: Text.fold o.name.toList) ∧
    (∀ n o, operation? s.operations n = some o →
      o ∈ s.beginning n ∧ o.name ∈ s.names n ∧ o.listing ∈ s.listings n) ∧
    ∀ p q, Text.beginsAlike p q = true →
      (s.beginning p).Sublist (s.beginning q) ∧ (s.names p).Sublist (s.names q) ∧
        (s.listings p).Sublist (s.listings q) := by
  have halike : ∀ a b, Text.alike a b = false ↔ Text.fold a.toList ≠ Text.fold b.toList :=
    fun a b => by rw [← Bool.not_eq_true, Text.alike_iff]
  refine ⟨fun a b => ⟨Text.alike_iff, Text.beginsAlike_iff, Text.alike_iff_beginsAlike⟩,
    Text.equivalence_alike, ?first, ?unknown, fun m n h => ?spelling, ?arity, ?listing, ?listed,
    ?longer⟩
  case first =>
    simp only [Text.alike_iff, halike]
    exact fun n o => operation?_eq_some_iff
  case unknown =>
    simp only [halike]
    exact fun n => operation?_eq_none_iff
  case spelling => exact operation?_congr s.operations (Text.alike_iff.1 h)
  case arity =>
    intro held n arguments vs p
    let call : Resolved H := ⟨⟨n, arguments⟩, vs⟩
    refine ⟨fun h => ?_, fun o h hv => ?_⟩
    · exact Scope.Rejects.invoke_eq (n := call) (.unknown h)
    · exact Scope.Rejects.invoke_eq (n := call) (.arity h (.inl hv))
  case listing =>
    intro n
    simp only [beginning, ← Text.beginsAlike_iff, Bool.decide_eq_true]
  case listed =>
    intro n o h
    have ho : o ∈ s.beginning n := mem_beginning_of_operation? h
    exact ⟨ho, List.mem_map_of_mem ho, List.mem_map_of_mem ho⟩
  case longer =>
    intro p q h
    have hsub := s.beginning_sublist h
    exact ⟨hsub, hsub.map _, hsub.map _⟩

theorem lookup_agrees_with_listing_count :
    let s : Session (Demo.host Demo.noHost) := Demo.calculating
    Text.alike "cOUNT" "Count" = true ∧ Text.beginsAlike "cO" "C" = true ∧
      ∃ o, operation? s.operations "cOUNT" = some o ∧ operation? s.operations "Count" = some o ∧
        (s.scope []).invoke "cOUNT" [.text "x"] [some (.string "x")] s.start =
          (.error (.arityMismatch "Count()" "cOUNT" "x"), s.start) ∧
        o ∈ s.beginning "cOUNT" ∧ (s.names "cO").Sublist (s.names "C") := by
  intro s
  have halike : Text.alike "cOUNT" "Count" = true := by decide
  have hbegins : Text.beginsAlike "cO" "C" = true := by decide
  obtain ⟨-, -, -, -, hspelling, harity, -, hlisted, hlonger⟩ := lookup_agrees_with_listing s
  let o : Operation (Demo.host Demo.noHost) :=
    ⟨.calculator, Demo.Calculator.declarations.get ⟨5, by simp [Demo.Calculator.declarations]⟩⟩
  have ho : operation? s.operations "cOUNT" = some o := rfl
  have hx : [some (Value.string "x" : (Demo.host Demo.noHost).Value)].length ≠ o.arity := by decide
  exact ⟨halike, hbegins, o, ho, (hspelling _ _ halike).symm.trans ho,
    (harity [] "cOUNT" _ _ _).2 o ho hx, (hlisted _ o ho).1, (hlonger _ _ hbegins).2.1⟩

end Session

end HostConsole
