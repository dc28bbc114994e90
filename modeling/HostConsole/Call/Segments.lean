import HostConsole.Text.Blank

/-! The text between parentheses and its segments. A parenthesis that opens
raises the depth and one that closes lowers it; commas divide at depth zero. -/

namespace HostConsole.Call

/-- The depth behind a character. -/
def depthAfter (depth : Nat) (c : Char) : Nat :=
  if c = '(' then depth + 1 else if c = ')' then depth - 1 else depth

/-- The text up to the parenthesis that closes the one before it, and the text
after that. The depth counts the parentheses opened since. -/
def splitClosing (depth : Nat) : List Char → Option (List Char × List Char)
  | [] => none
  | c :: r =>
    if c = ')' && depth = 0 then some ([], r)
    else (splitClosing (depthAfter depth c) r).map fun p => (c :: p.1, p.2)

/-- The pieces between the commas at depth zero. There is always one. -/
def pieces (depth : Nat) : List Char → List (List Char)
  | [] => [[]]
  | c :: r =>
    if c = ',' && depth = 0 then [] :: pieces 0 r
    else
      match pieces (depthAfter depth c) r with
      | [] => [[c]]
      | p :: ps => (c :: p) :: ps

/-- The arguments' texts. A blank text has none, not one that is empty. -/
def segments (body : List Char) : List (List Char) :=
  if Text.isAllBlank body then [] else (pieces 0 body).map Text.trim

/-! ### Lengths -/

theorem length_splitClosing {depth : Nat} {s a b : List Char}
    (h : splitClosing depth s = some (a, b)) : a.length + b.length < s.length := by
  induction s generalizing depth a b with
  | nil => simp [splitClosing] at h
  | cons c r ih =>
    rw [splitClosing] at h
    split at h
    · simp only [Option.some.injEq, Prod.mk.injEq] at h
      simp [← h.1, ← h.2]
    · obtain ⟨⟨a', b'⟩, h', he⟩ := Option.map_eq_some_iff.1 h
      simp only [Prod.mk.injEq] at he
      have := ih h'
      simp only [← he.1, ← he.2, List.length_cons]
      omega

theorem length_of_mem_pieces {depth : Nat} {s p : List Char} (h : p ∈ pieces depth s) :
    p.length ≤ s.length := by
  induction s generalizing depth p with
  | nil => simp [pieces] at h; simp [h]
  | cons c r ih =>
    rw [pieces] at h
    split at h
    · rcases List.mem_cons.1 h with rfl | h
      · simp
      · exact Nat.le_succ_of_le (ih h)
    · split at h
      · simp at h; simp [h]
      · next q qs hq =>
        rcases List.mem_cons.1 h with rfl | h
        · exact Nat.succ_le_succ (ih (hq ▸ List.mem_cons_self))
        · exact Nat.le_succ_of_le (ih (hq ▸ List.mem_cons_of_mem _ h))

theorem length_dropWhile_le (p : Char → Bool) (s : List Char) :
    (s.dropWhile p).length ≤ s.length :=
  (List.dropWhile_sublist p).length_le

theorem length_trim_le (s : List Char) : (Text.trim s).length ≤ s.length := by
  simp only [Text.trim, Text.trimRight, Text.trimLeft, List.length_reverse]
  have h := length_dropWhile_le Text.isBlank (s.dropWhile Text.isBlank).reverse
  rw [List.length_reverse] at h
  exact Nat.le_trans h (length_dropWhile_le _ _)

theorem length_of_mem_segments {body p : List Char} (h : p ∈ segments body) :
    p.length ≤ body.length := by
  rw [segments] at h
  split at h
  · simp at h
  · obtain ⟨q, hq, rfl⟩ := List.mem_map.1 h
    exact Nat.le_trans (length_trim_le q) (length_of_mem_pieces hq)

end HostConsole.Call
