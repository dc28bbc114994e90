import HostConsole.Call.Basic
import HostConsole.Call.Segments

/-! Lines read as calls. A line is `Name`, `Name argument` or
`Name(argument, …)`, where an argument with a parenthesis is again a call. -/

namespace HostConsole.Call

/-- A line without parentheses: a name, or a name and one argument. -/
def ofBare (line : List Char) : Except CallFault Call :=
  if line.isEmpty then .error .missingName
  else
    let name := line.takeWhile (!Text.isBlank ·)
    match line.dropWhile (!Text.isBlank ·) with
    | [] => .ok ⟨String.ofList name, []⟩
    | _ :: rest => .ok ⟨String.ofList name, [.text (String.ofList (Text.trim rest))]⟩

/-- A line by its first pair of parentheses. -/
inductive Outline where
  | bare (line : List Char)
  | call (name body : List Char)
  deriving DecidableEq

/-- The outline of a line. The faults of the line itself are found here, so they
come before those of its arguments. -/
def outline (text : List Char) : Except CallFault Outline :=
  let line := Text.trim text
  match line.dropWhile (· != '(') with
  | [] => .ok (.bare line)
  | _ :: opened =>
    let name := Text.trim (line.takeWhile (· != '('))
    if name.isEmpty then .error .missingName
    else
      match splitClosing 0 opened with
      | none => .error .unclosed
      | some (body, rest) =>
        let trailing := Text.trim rest
        if trailing.isEmpty then .ok (.call name body)
        else .error (.trailing (String.ofList trailing))

theorem length_of_outline {text name body : List Char}
    (h : outline text = .ok (.call name body)) : body.length < text.length := by
  have h₁ := length_dropWhile_le (· != '(') (Text.trim text)
  have h₂ := length_trim_le text
  simp only [outline] at h
  split at h
  · simp at h
  · next c opened ho =>
    rw [ho, List.length_cons] at h₁
    split at h
    · simp at h
    · split at h
      · simp at h
      · next a b hs =>
        have h₃ := length_splitClosing hs
        split at h
        · simp only [Except.ok.injEq, Outline.call.injEq] at h
          rw [← h.2]
          omega
        · simp at h

/-- The call that a text spells. -/
def parse (text : List Char) : Except CallFault Call :=
  match _ho : outline text with
  | .error e => .error e
  | .ok (.bare line) => ofBare line
  | .ok (.call name body) => do
    let arguments ← (segments body).attach.mapM fun ⟨s, _⟩ =>
      if s.contains '(' then do
        let c ← parse s
        return Argument.ofCall c
      else return Argument.text (String.ofList s)
    return ⟨String.ofList name, arguments⟩
  termination_by text.length
  decreasing_by exact Nat.lt_of_le_of_lt (length_of_mem_segments ‹_›) (length_of_outline _ho)

def ofLine (line : String) : Except CallFault Call :=
  parse line.toList

end HostConsole.Call
