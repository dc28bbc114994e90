import HostConsole.Proofs.Call.Spelling

/-! The depth of parentheses as a counter. A text is well nested if the counter is never lowered at
zero and ends there. The search for the parenthesis that closes the first one of a text never lowers
it at zero, whatever the text is, and cutting a text at its commas does not if the text is well
nested. -/

namespace HostConsole.Call

/-- A text that closes every parenthesis that it opens, and no other. -/
structure WellNested (s : List Char) : Prop where
  nonneg : ∀ p, p <+: s → 0 ≤ depth p
  zero : depth s = 0

/-! ### Well-nested texts -/

theorem depth_append (s t : List Char) : depth (s ++ t) = depth s + depth t := by
  simp only [depth, List.count_append]
  omega

theorem depth_of_unmarked {s : List Char} (h : Unmarked s) : depth s = 0 := by
  rw [depth, List.count_eq_zero.2 h.1, List.count_eq_zero.2 h.2.1]
  rfl

/-- A counter goes through a text where no start of it takes the depth below zero. -/
theorem isSome_depthBehind_iff {d : Nat} {s : List Char} :
    (depthBehind d s).isSome ↔ ∀ p, p <+: s → 0 ≤ d + depth p := by
  induction s generalizing d with
  | nil => simp [depth_nil]
  | cons c s ih =>
    have hnil : (0 : Int) ≤ d + depth [] := by
      rw [depth_nil]
      omega
    rw [forall_prefix_cons]
    by_cases hc : c = ')' ∧ d = 0
    · obtain ⟨rfl, rfl⟩ := hc
      have hclose : ¬(0 : Int) ≤ (0 : Nat) + depth [')'] := by decide
      exact iff_of_false (by simp [depthBehind_closing_zero]) fun h =>
        hclose (h.2 [] List.nil_prefix)
    · rw [depthBehind_cons hc, ih, and_iff_right hnil]
      refine forall₂_congr fun p _ => ?_
      have hadd := add_depth_cons hc p
      omega

theorem balanced_iff {s : List Char} : Balanced s ↔ WellNested s := by
  have hsome : (depthBehind 0 s).isSome ↔ ∀ p, p <+: s → 0 ≤ depth p := by
    simpa using isSome_depthBehind_iff (d := 0) (s := s)
  constructor
  · intro h
    have hzero := depthBehind_eq_add_depth h
    exact ⟨hsome.1 (by rw [h]; rfl), by simpa using hzero.symm⟩
  · rintro ⟨hnonneg, hzero⟩
    obtain ⟨e, he⟩ := Option.isSome_iff_exists.1 (hsome.2 hnonneg)
    have hdepth := depthBehind_eq_add_depth he
    rw [hzero] at hdepth
    rw [Balanced, he]
    simpa using hdepth

namespace WellNested

variable {s a b : List Char}

/-- A text is well nested on both sides of each place at depth zero. -/
theorem of_append (h : WellNested (a ++ b)) (ha : depth a = 0) : WellNested a ∧ WellNested b := by
  refine ⟨⟨fun p hp => h.nonneg p (hp.trans (List.prefix_append a b)), ha⟩, fun p hp => ?_, ?_⟩
  · have hle := h.nonneg (a ++ p) ((List.prefix_append_right_inj a).2 hp)
    rwa [depth_append, ha, Int.zero_add] at hle
  · have hzero := h.zero
    rwa [depth_append, ha, Int.zero_add] at hzero

theorem of_comma (h : WellNested (a ++ ',' :: b)) (ha : depth a = 0) :
    WellNested a ∧ WellNested b := by
  obtain ⟨hleft, hright⟩ := h.of_append ha
  exact ⟨hleft, (of_append (a := [',']) hright rfl).2⟩

theorem trim (h : WellNested s) : WellNested (Text.trim s) := by
  obtain ⟨w₁, w₂, h₁, h₂, hs⟩ := Text.exists_pad_trim s
  have hw₁ : depth w₁ = 0 := depth_of_unmarked (unmarked_of_blank h₁)
  have hw₂ : depth w₂ = 0 := depth_of_unmarked (unmarked_of_blank h₂)
  have hzero := h.zero
  rw [hs, List.append_assoc] at h
  rw [hs, depth_append, depth_append, hw₁, hw₂, Int.zero_add, Int.add_zero] at hzero
  exact ((h.of_append hw₁).2.of_append hzero).1

theorem not_mem (h : WellNested s) (hs : '(' ∉ s) : ')' ∉ s := by
  have hzero := h.zero
  rw [depth, List.count_eq_zero.2 hs] at hzero
  exact List.count_eq_zero.1 (by omega)

end WellNested

/-! ### Counters -/

/-- The fault of a counter that is to be lowered at zero. -/
inductive CounterFault where
  | belowZero
  deriving DecidableEq

/-- The counter behind a character. -/
def counted (depth : Nat) (c : Char) : Except CounterFault Nat :=
  if c = '(' then .ok (depth + 1)
  else if c = ')' then
    match depth with
    | 0 => .error .belowZero
    | d + 1 => .ok d
  else .ok depth

/-- The search for the parenthesis that closes the first one of a text, by a counter that is zero
before the first one and again behind the one that closes it. -/
def countedClosing (depth : Nat) :
    List Char → Except CounterFault (Option (List Char × List Char))
  | [] => .ok none
  | c :: r => do
    let d ← counted depth c
    if c = ')' && d = 0 then return some ([], r)
    else
      let found ← countedClosing d r
      return found.map fun p => (c :: p.1, p.2)

/-- The pieces of a text between its commas where a counter is zero. -/
def countedPieces (depth : Nat) : List Char → Except CounterFault (List (List Char))
  | [] => .ok [[]]
  | c :: r =>
    if c = ',' && depth = 0 then do
      let ps ← countedPieces 0 r
      return [] :: ps
    else do
      let d ← counted depth c
      match ← countedPieces d r with
      | [] => return [[c]]
      | p :: ps => return (c :: p) :: ps

theorem counted_of_not {d : Nat} {c : Char} (h : ¬(c = ')' ∧ d = 0)) :
    counted d c = .ok (depthAfter d c) := by
  unfold counted depthAfter
  split_ifs with hopen hclose
  · rfl
  · cases d with
    | zero => exact absurd ⟨hclose, rfl⟩ h
    | succ d => rfl
  · rfl

/-- The counter is one ahead of the depth behind the first parenthesis, so it is never zero before
the parenthesis that ends the search. -/
theorem countedClosing_succ (d : Nat) (s : List Char) :
    countedClosing (d + 1) s = .ok (splitClosing d s) := by
  induction s generalizing d with
  | nil => rfl
  | cons c s ih =>
    rw [countedClosing, counted_of_not (by simp)]
    by_cases hc : c = ')' ∧ d = 0
    · obtain ⟨rfl, rfl⟩ := hc
      rfl
    · have hd : depthAfter (d + 1) c = depthAfter d c + 1 := depthAfter_add hc 1
      rw [splitClosing, if_neg (by simpa using hc), hd]
      change (if _ then _ else countedClosing (depthAfter d c + 1) s >>= _) = _
      rw [if_neg (by simp), ih]
      rfl

theorem countedClosing_parenthesis (s : List Char) :
    countedClosing 0 ('(' :: s) = .ok ((splitClosing 0 s).map fun p => ('(' :: p.1, p.2)) := by
  have h : countedClosing 0 ('(' :: s) =
      countedClosing 1 s >>= fun found => .ok (found.map fun p => ('(' :: p.1, p.2)) := rfl
  rw [h, countedClosing_succ]
  rfl

/-- A text is cut without fault exactly if a counter goes through it. -/
theorem countedPieces_eq (d : Nat) (s : List Char) :
    countedPieces d s =
      if (depthBehind d s).isSome then .ok (pieces d s) else .error .belowZero := by
  induction s generalizing d with
  | nil => rfl
  | cons c s ih =>
    rw [countedPieces]
    by_cases hc : c = ')' ∧ d = 0
    · obtain ⟨rfl, rfl⟩ := hc
      rfl
    · rw [depthBehind_cons hc]
      by_cases hcomma : c = ',' ∧ d = 0
      · obtain ⟨rfl, rfl⟩ := hcomma
        rw [if_pos (by simp), ih, pieces_comma]
        change _ = if (depthBehind 0 s).isSome then _ else _
        split_ifs <;> rfl
      · obtain ⟨p, ps, hp⟩ := List.exists_cons_of_ne_nil (pieces_ne_nil (depthAfter d c) s)
        rw [if_neg (by simpa using hcomma), counted_of_not hc, pieces_cons hcomma hp]
        change countedPieces (depthAfter d c) s >>= _ = _
        rw [ih, hp]
        split_ifs <;> rfl

example : countedPieces 0 ['1', ')', ',', '('] = .error .belowZero := rfl

theorem WellNested.countedPieces_eq {s : List Char} (h : WellNested s) :
    countedPieces 0 s = .ok (pieces 0 s) := by
  rw [Call.countedPieces_eq, balanced_iff.2 h]
  rfl

end HostConsole.Call
