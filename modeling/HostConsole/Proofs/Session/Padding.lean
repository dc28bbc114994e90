import HostConsole.Proofs.Call.Reading
import HostConsole.Proofs.Session.Reachable

/-! White space around a line. The name of a variable, the call and the text in a fault are all read
from trimmed texts, and trimming a line trims what stands on the two sides of its equals sign, so a
line and its trimmed form come to the same. -/

namespace HostConsole

variable {H : Host}

/-- The sides of the equals sign of a trimmed line are those of the line, trimmed at one end. -/
theorem splitAssignment_trim (line : List Char) :
    splitAssignment (Text.trim line) =
      (splitAssignment line).map fun p => (Text.trimLeft p.1, Text.trimRight p.2) := by
  cases h : splitAssignment line with
  | some p =>
    obtain ⟨left, right⟩ := p
    obtain ⟨rfl, hequals, hopens⟩ := splitAssignment_eq_some_iff.1 h
    rw [Text.trim_append_cons rfl, Option.map_some, splitAssignment_eq_some_iff]
    have hsub : Text.trimLeft left ⊆ left := (List.dropWhile_sublist _).subset
    exact ⟨rfl, fun h => hequals (hsub h), fun h => hopens (hsub h)⟩
  | none =>
    rw [Option.map_none, Option.eq_none_iff_forall_ne_some]
    rintro ⟨left, right⟩ ht
    obtain ⟨hline, hequals, hopens⟩ := splitAssignment_eq_some_iff.1 ht
    -- the line has the equals sign of its trimmed form, and only white space more before it
    obtain ⟨w₁, w₂, h₁, h₂, hs⟩ := Text.exists_pad_trim line
    have hsplit : splitAssignment line = some (w₁ ++ left, right ++ w₂) := by
      rw [splitAssignment_eq_some_iff, List.mem_append, List.mem_append]
      refine ⟨?_, not_or.2 ⟨Text.not_mem_of_blank h₁ rfl, hequals⟩,
        not_or.2 ⟨Text.not_mem_of_blank h₁ rfl, hopens⟩⟩
      rw [hline] at hs
      simpa using hs
    rw [h] at hsplit
    cases hsplit

theorem splitAssignment_equals {name : String} (he : '=' ∉ name.toList) (hp : '(' ∉ name.toList)
    (right : String) :
    splitAssignment (name ++ "=" ++ right).toList = some (name.toList, right.toList) :=
  splitAssignment_eq_some_iff.2 ⟨by simp, he, hp⟩

namespace Session

variable (s : Session H) (held : List H.Kind)

theorem evaluateExpression_congr {a b : List Char} (h : Text.trim a = Text.trim b) :
    s.evaluateExpression held a = s.evaluateExpression held b := by
  rw [evaluateExpression_eq, evaluateExpression_eq, Scope.evaluate, Scope.evaluate, h]

/-- Two assignments come to the same if their names do when trimmed, and their expressions do. -/
theorem attempt_congr {l m : String} {left right left' right' : List Char}
    (hl : splitAssignment l.toList = some (left, right))
    (hm : splitAssignment m.toList = some (left', right')) (hname : Text.trim left = Text.trim left')
    (h : s.evaluateExpression held right = s.evaluateExpression held right') :
    s.attempt held l = s.attempt held m := by
  by_cases hempty : Text.trim left = []
  · rw [s.attempt_invalid held hl hempty, s.attempt_invalid held hm (hname ▸ hempty)]
  · rw [s.attempt_assigning held hl hempty, s.attempt_assigning held hm (hname ▸ hempty), hname, h]

theorem evaluate_congr {l m : String} (h : s.attempt held l = s.attempt held m) :
    s.evaluate held l = s.evaluate held m := by
  rw [evaluate, evaluate, h]

theorem attempt_trim (line : String) :
    s.attempt held (Text.trimmed line) = s.attempt held line := by
  have htrim : (Text.trimmed line).toList = Text.trim line.toList := String.toList_ofList
  have hsplit := splitAssignment_trim line.toList
  rw [← htrim] at hsplit
  cases h : splitAssignment line.toList with
  | none =>
    rw [h, Option.map_none] at hsplit
    rw [s.attempt_of_none held h, s.attempt_of_none held hsplit, htrim]
    exact s.evaluateExpression_congr held (Text.trimmed_trim _)
  | some p =>
    obtain ⟨left, right⟩ := p
    rw [h, Option.map_some] at hsplit
    exact s.attempt_congr held hsplit h (Text.trim_trimLeft left)
      (s.evaluateExpression_congr held (Text.trim_trimRight right))

theorem evaluate_trim (line : String) :
    s.evaluate held (Text.trimmed line) = s.evaluate held line :=
  s.evaluate_congr held (s.attempt_trim held line)

/-! ### Padded lines -/

variable {w₁ w₂ : String}

theorem attempt_pad (h₁ : Text.isAllBlank w₁.toList) (h₂ : Text.isAllBlank w₂.toList)
    (line : String) : s.attempt held (w₁ ++ line ++ w₂) = s.attempt held line := by
  have htrim : Text.trimmed (w₁ ++ line ++ w₂) = Text.trimmed line := by
    rw [Text.trimmed, String.toList_append, String.toList_append, Text.trim_pad h₁ h₂, Text.trimmed]
  rw [← s.attempt_trim held (w₁ ++ line ++ w₂), htrim, s.attempt_trim]

theorem attempt_pad_equals {name : String} (he : '=' ∉ name.toList) (hp : '(' ∉ name.toList)
    (h₁ : Text.isAllBlank w₁.toList) (h₂ : Text.isAllBlank w₂.toList) (right : String) :
    s.attempt held (name ++ w₁ ++ "=" ++ w₂ ++ right) = s.attempt held (name ++ "=" ++ right) := by
  have hpadded : splitAssignment (name ++ w₁ ++ "=" ++ w₂ ++ right).toList =
      some (name.toList ++ w₁.toList, w₂.toList ++ right.toList) := by
    rw [splitAssignment_eq_some_iff, List.mem_append, List.mem_append]
    exact ⟨by simp, not_or.2 ⟨he, Text.not_mem_of_blank h₁ rfl⟩,
      not_or.2 ⟨hp, Text.not_mem_of_blank h₁ rfl⟩⟩
  have hname : Text.trim (name.toList ++ w₁.toList) = Text.trim name.toList :=
    Text.trim_pad Text.isAllBlank_nil h₁ name.toList
  have hright : Text.trim (w₂.toList ++ right.toList) = Text.trim right.toList := by
    have h := Text.trim_pad h₂ Text.isAllBlank_nil right.toList
    rwa [List.append_nil] at h
  exact s.attempt_congr held hpadded (splitAssignment_equals he hp right) hname
    (s.evaluateExpression_congr held hright)

/-- White space around a line makes no difference to anything the line comes to, the text in a
fault included, nor does white space around the first equals sign, whatever stands to its right.
Where nothing but white space stands to its left, nothing is evaluated. -/
theorem lines_up_to_padding (s : Session H) (held : List H.Kind) {w₁ w₂ : String}
    (h₁ : Text.isAllBlank w₁.toList) (h₂ : Text.isAllBlank w₂.toList) :
    (∀ line, s.attempt held (w₁ ++ line ++ w₂) = s.attempt held line ∧
      s.evaluate held (w₁ ++ line ++ w₂) = s.evaluate held line) ∧
    ∀ name right : String, '=' ∉ name.toList → '(' ∉ name.toList →
      s.attempt held (name ++ w₁ ++ "=" ++ w₂ ++ right) = s.attempt held (name ++ "=" ++ right) ∧
      s.evaluate held (name ++ w₁ ++ "=" ++ w₂ ++ right) =
        s.evaluate held (name ++ "=" ++ right) ∧
      (Text.isAllBlank name.toList →
        s.attempt held (name ++ "=" ++ right) = ⟨.error .invalidAssignment, s, [], []⟩) := by
  refine ⟨fun line => ?_, fun name right he hp => ?_⟩
  · have h := s.attempt_pad held h₁ h₂ line
    exact ⟨h, s.evaluate_congr held h⟩
  · have h := s.attempt_pad_equals held he hp h₁ h₂ right
    exact ⟨h, s.evaluate_congr held h, fun hblank =>
      s.attempt_invalid held (splitAssignment_equals he hp right) (Text.trim_eq_nil_iff.2 hblank)⟩

/-- The second equals sign, and the parenthesis before it, belong to the expression. -/
theorem lines_up_to_padding_malformed :
    let s : Session (Demo.host Demo.noHost) := Demo.calculating
    Text.isAllBlank "\u3000".toList ∧ Text.isAllBlank "\t ".toList ∧
      (s.attempt [] "n=Count(=").result = .error (.malformed "Count(=" .unclosed) ∧
      s.attempt [] ("\u3000" ++ "n=Count(=" ++ "\t ") = s.attempt [] "n=Count(=" ∧
      '=' ∉ "n".toList ∧ '(' ∉ "n".toList ∧
      s.attempt [] ("n" ++ "\u3000" ++ "=" ++ "\t " ++ "Count(=") =
        s.attempt [] ("n" ++ "=" ++ "Count(=") ∧
      '=' ∉ " ".toList ∧ '(' ∉ " ".toList ∧ Text.isAllBlank " ".toList ∧
      s.attempt [] (" " ++ "=" ++ "Count()") = ⟨.error .invalidAssignment, s, [], []⟩ := by
  intro s
  have h₁ : Text.isAllBlank "\u3000".toList := by decide
  have h₂ : Text.isAllBlank "\t ".toList := by decide
  have hsplit : splitAssignment "n=Count(=".toList = some ("n".toList, "Count(=".toList) := rfl
  have hparse : Call.parse (Text.trim "Count(=".toList) = .error .unclosed := by
    rw [Call.parse_eq]
    rfl
  have hmalformed : (s.attempt [] "n=Count(=").result = .error (.malformed "Count(=" .unclosed) := by
    rw [s.attempt_assigning [] hsplit (by decide), s.evaluateExpression_of_malformed [] rfl hparse]
    rfl
  have hname : '=' ∉ "n".toList ∧ '(' ∉ "n".toList := by decide
  have hnone : '=' ∉ " ".toList ∧ '(' ∉ " ".toList := by decide
  have hblank : Text.isAllBlank " ".toList := by decide
  obtain ⟨hline, hassign⟩ := lines_up_to_padding s [] h₁ h₂
  obtain ⟨hequals, -, -⟩ := hassign "n" "Count(=" hname.1 hname.2
  obtain ⟨-, -, hinvalid⟩ := hassign " " "Count()" hnone.1 hnone.2
  exact ⟨h₁, h₂, hmalformed, (hline _).1, hname.1, hname.2, hequals, hnone.1, hnone.2, hblank,
    hinvalid hblank⟩

end Session

end HostConsole
