import HostConsole.Proofs.Evaluation.Order
import HostConsole.Session.Line

/-! What a line comes to, by its kind. A line that assigns to no name is invalid, and any
other has an expression: the name of a variable, a text that is no call, or a call. -/

namespace HostConsole

theorem splitAssignment_eq_some_iff {text left right : List Char} :
    splitAssignment text = some (left, right) ↔
      text = left ++ '=' :: right ∧ '=' ∉ left ∧ '(' ∉ left := by
  induction text generalizing left right with
  | nil => simp [splitAssignment]
  | cons c text ih =>
    rw [splitAssignment]
    by_cases hp : c = '('
    · cases left with
      | nil => simp [hp]
      | cons d left =>
        rw [if_pos hp]
        simp only [reduceCtorEq, List.cons_append, List.cons.injEq, false_iff, not_and]
        rintro ⟨rfl, -⟩ - hm
        exact hm (by simp [hp])
    · rw [if_neg hp]
      by_cases he : c = '='
      · cases left with
        | nil => simp [he]
        | cons d left =>
          rw [if_pos he]
          simp only [Option.some.injEq, Prod.mk.injEq, List.nil_eq, reduceCtorEq, false_and,
            List.cons_append, List.cons.injEq, false_iff, not_and]
          rintro ⟨rfl, -⟩ hm
          exact absurd (by simp [he]) hm
      · rw [if_neg he, Option.map_eq_some_iff]
        cases left with
        | nil => simp [he]
        | cons d left =>
          simp only [Prod.exists, Prod.mk.injEq, List.cons.injEq, List.cons_append, ih]
          constructor
          · rintro ⟨a, b, ⟨rfl, hea, hpa⟩, ⟨rfl, rfl⟩, rfl⟩
            exact ⟨⟨rfl, rfl⟩, by simp [hea, Ne.symm he], by simp [hpa, Ne.symm hp]⟩
          · rintro ⟨⟨rfl, ht⟩, hea, hpa⟩
            exact ⟨left, right, ⟨ht, fun h => hea (.tail _ h), fun h => hpa (.tail _ h)⟩,
              ⟨rfl, rfl⟩, rfl⟩

/-- A text is no assignment where a parenthesis comes before any equals sign. -/
theorem splitAssignment_of_parenthesis {left : List Char} (h : '=' ∉ left) (right : List Char) :
    splitAssignment (left ++ '(' :: right) = none := by
  rw [Option.eq_none_iff_forall_ne_some]
  rintro ⟨a, b⟩ hs
  obtain ⟨hab, hea, hpa⟩ := splitAssignment_eq_some_iff.1 hs
  -- neither of the two parts to the left can be the longer one
  rcases List.append_eq_append_iff.1 hab with ⟨m, rfl, hm⟩ | ⟨m, rfl, hm⟩
  · cases m with
    | nil => cases hm
    | cons d m =>
      cases hm
      simp at hpa
  · cases m with
    | nil => cases hm
    | cons d m =>
      cases hm
      simp at h

theorem splitAssignment_of_not_mem {text : List Char} (h : '=' ∉ text) :
    splitAssignment text = none := by
  rw [Option.eq_none_iff_forall_ne_some]
  rintro ⟨a, b⟩ hs
  obtain ⟨rfl, -, -⟩ := splitAssignment_eq_some_iff.1 hs
  simp at h

/-- What a line asks for: all of it, or what it assigns to a name. -/
def expression? (line : String) : Option (List Char) :=
  match splitAssignment line.toList with
  | none => some line.toList
  | some (left, right) => if (Text.trim left).isEmpty then none else some right

theorem expression?_eq_none_iff {line : String} :
    expression? line = none ↔
      ∃ left right, splitAssignment line.toList = some (left, right) ∧ Text.trim left = [] := by
  rw [expression?]
  cases splitAssignment line.toList with
  | none => simp
  | some p =>
    obtain ⟨left, right⟩ := p
    simp

theorem expression?_eq_some_iff {line : String} {text : List Char} :
    expression? line = some text ↔
      (splitAssignment line.toList = none ∧ line.toList = text) ∨
        ∃ left, splitAssignment line.toList = some (left, text) ∧ Text.trim left ≠ [] := by
  rw [expression?]
  cases splitAssignment line.toList with
  | none => simp
  | some p =>
    obtain ⟨left, right⟩ := p
    simp [and_comm]

namespace Session

variable {H : Host} (s : Session H) (held : List H.Kind)

/-- The progress before anything has happened. -/
def start : Progress H :=
  ⟨s.targets, s.nextRun, [], []⟩

/-- The outcome of an evaluation that began in a session and ended like this. -/
def ended (e : Except Fault (Option H.Value) × Progress H) : Outcome H :=
  ⟨e.1, { s with targets := e.2.targets, nextRun := e.2.nextRun }, e.2.runs, e.2.log⟩

theorem evaluateExpression_eq (text : List Char) :
    s.evaluateExpression held text = s.ended ((s.scope held).evaluate text s.start) :=
  rfl

/-! ### Expressions -/

theorem evaluateExpression_of_bound {text : List Char} {v : H.Value}
    (h : s.bindings.find? (String.ofList (Text.trim text)) = some v) :
    s.evaluateExpression held text = ⟨.ok (some v), s, [],
      [⟨.info, String.ofList (Text.trim text) ++ ": " ++ v.text⟩]⟩ := by
  have hb : (s.scope held).bindings.find? (String.ofList (Text.trim text)) = some v := h
  rw [evaluateExpression_eq, Scope.evaluate]
  simp only [hb]
  rfl

theorem evaluateExpression_of_malformed {text : List Char} {cause : CallFault}
    (h : s.bindings.find? (String.ofList (Text.trim text)) = none)
    (hc : Call.parse (Text.trim text) = .error cause) :
    s.evaluateExpression held text =
      ⟨.error (.malformed (String.ofList (Text.trim text)) cause), s, [], []⟩ := by
  have hb : (s.scope held).bindings.find? (String.ofList (Text.trim text)) = none := h
  rw [evaluateExpression_eq, Scope.evaluate]
  simp only [hb, hc]
  rfl

theorem evaluateExpression_of_call {text : List Char} {c : Call}
    (h : s.bindings.find? (String.ofList (Text.trim text)) = none)
    (hc : Call.parse (Text.trim text) = .ok c) :
    s.evaluateExpression held text =
      s.ended ((s.scope held).resolve (.ofCall c) s.start) := by
  have hb : (s.scope held).bindings.find? (String.ofList (Text.trim text)) = none := h
  rw [evaluateExpression_eq, Scope.evaluate]
  simp only [hb, hc]

/-! ### Lines -/

theorem attempt_of_none {line : String} (h : splitAssignment line.toList = none) :
    s.attempt held line = s.evaluateExpression held line.toList := by
  simp only [attempt, h]

theorem attempt_invalid {line : String} {left right : List Char}
    (h : splitAssignment line.toList = some (left, right)) (hl : Text.trim left = []) :
    s.attempt held line = ⟨.error .invalidAssignment, s, [], []⟩ := by
  simp [attempt, h, hl]

theorem attempt_assigning {line : String} {left right : List Char}
    (h : splitAssignment line.toList = some (left, right)) (hl : Text.trim left ≠ []) :
    s.attempt held line =
      { s.evaluateExpression held right with
        session := (s.evaluateExpression held right).session.bindResult
          (String.ofList (Text.trim left)) (s.evaluateExpression held right).result } := by
  simp [attempt, h, hl]

theorem attempt_of_expression_none {line : String} (h : expression? line = none) :
    s.attempt held line = ⟨.error .invalidAssignment, s, [], []⟩ := by
  obtain ⟨left, right, hs, hl⟩ := expression?_eq_none_iff.1 h
  exact s.attempt_invalid held hs hl

/-- Of the outcome of an expression, an assignment to a name changes the variables only. -/
theorem attempt_of_expression {line : String} {text : List Char}
    (h : expression? line = some text) :
    ∃ b, s.attempt held line =
      { s.evaluateExpression held text with
        session := { (s.evaluateExpression held text).session with bindings := b } } := by
  rcases expression?_eq_some_iff.1 h with ⟨hs, rfl⟩ | ⟨left, hs, hl⟩
  · exact ⟨s.bindings, s.attempt_of_none held hs⟩
  · rw [s.attempt_assigning held hs hl]
    generalize s.evaluateExpression held text = o
    unfold bindResult
    split
    · exact ⟨_, rfl⟩
    · exact ⟨_, rfl⟩

/-- An assignment of a variable reports the variable all the same. -/
theorem attempt_of_bound {line : String} {text : List Char} {v : H.Value}
    (hl : expression? line = some text)
    (hb : s.bindings.find? (String.ofList (Text.trim text)) = some v) :
    (s.attempt held line).result = .ok (some v) ∧ (s.attempt held line).runs = [] ∧
      (s.attempt held line).log =
        [⟨.info, String.ofList (Text.trim text) ++ ": " ++ v.text⟩] := by
  obtain ⟨b, ho⟩ := s.attempt_of_expression held hl
  rw [ho, s.evaluateExpression_of_bound held hb]
  exact ⟨rfl, rfl, rfl⟩

/-- An assignment that fails changes no variable either. -/
theorem attempt_of_error {line : String} {text : List Char} {f : Fault}
    (h : expression? line = some text)
    (hf : (s.evaluateExpression held text).result = .error f) :
    s.attempt held line = s.evaluateExpression held text := by
  rcases expression?_eq_some_iff.1 h with ⟨hs, rfl⟩ | ⟨left, hs, hl⟩
  · exact s.attempt_of_none held hs
  · rw [s.attempt_assigning held hs hl, hf]
    rfl

/-! ### Maps on sessions -/

section Map

variable {s : Session H} {held : List H.Kind} {f : Session H → Session H}

/-- A map that keeps variables and does not look at them passes through an assignment. -/
theorem bindResult_map (hb : ∀ t, (f t).bindings = t.bindings)
    (hf : ∀ t b, f { t with bindings := b } = { f t with bindings := b }) (name : String)
    (r : Except Fault (Option H.Value)) : (f s).bindResult name r = f (s.bindResult name r) := by
  unfold bindResult
  split
  · rw [hb]
    exact (hf s _).symm
  · rfl

/-- What such a map does to the outcome of an expression, it does to that of the line. -/
theorem attempt_map (hb : ∀ t, (f t).bindings = t.bindings)
    (hf : ∀ t b, f { t with bindings := b } = { f t with bindings := b }) {line : String}
    (he : ∀ text, expression? line = some text → (f s).evaluateExpression held text =
      { s.evaluateExpression held text with
        session := f (s.evaluateExpression held text).session }) :
    (f s).attempt held line =
      { s.attempt held line with session := f (s.attempt held line).session } := by
  cases hl : expression? line with
  | none => rw [s.attempt_of_expression_none held hl, (f s).attempt_of_expression_none held hl]
  | some text =>
    rcases expression?_eq_some_iff.1 hl with ⟨hs, rfl⟩ | ⟨left, hs, hne⟩
    · rw [s.attempt_of_none held hs, (f s).attempt_of_none held hs, he _ hl]
    · rw [s.attempt_assigning held hs hne, (f s).attempt_assigning held hs hne, he _ hl,
        bindResult_map hb hf]

end Map

end Session

end HostConsole
