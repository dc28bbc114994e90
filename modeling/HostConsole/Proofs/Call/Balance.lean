import HostConsole.Call.Segments
import Mathlib.Data.List.Basic

/-! Parentheses that match, and cuts at the commas outside them. A text is balanced
if it closes what it opens and nothing else; a piece is a balanced text with no comma
at depth zero. Both are closed under putting texts in parentheses. -/

namespace HostConsole.Call

/-- The depth behind a text. There is none if the text closes a parenthesis that was
not open. -/
def depthBehind (depth : Nat) : List Char → Option Nat
  | [] => some depth
  | c :: r => if c = ')' && depth = 0 then none else depthBehind (depthAfter depth c) r

def Balanced (s : List Char) : Prop :=
  depthBehind 0 s = some 0

/-- A balanced text that is not cut. -/
def IsPiece (s : List Char) : Prop :=
  Balanced s ∧ pieces 0 s = [s]

@[simp]
theorem depthBehind_nil (d : Nat) : depthBehind d [] = some d :=
  rfl

theorem depthBehind_cons {d : Nat} {c : Char} (h : ¬(c = ')' ∧ d = 0)) (r : List Char) :
    depthBehind d (c :: r) = depthBehind (depthAfter d c) r := by
  rw [depthBehind, if_neg]
  simpa using h

theorem depthBehind_closing_zero (r : List Char) : depthBehind 0 (')' :: r) = none :=
  rfl

theorem depthAfter_of_plain {c : Char} (h₁ : c ≠ '(') (h₂ : c ≠ ')') (d : Nat) :
    depthAfter d c = d := by
  rw [depthAfter, if_neg h₁, if_neg h₂]

theorem depthAfter_add {d : Nat} {c : Char} (h : ¬(c = ')' ∧ d = 0)) (k : Nat) :
    depthAfter (d + k) c = depthAfter d c + k := by
  unfold depthAfter
  split_ifs <;> grind

theorem depthBehind_append (d : Nat) (s t : List Char) :
    depthBehind d (s ++ t) = (depthBehind d s).bind (depthBehind · t) := by
  induction s generalizing d with
  | nil => rfl
  | cons c s ih =>
    rw [List.cons_append, depthBehind, depthBehind]
    split
    · rfl
    · exact ih _

/-- What a text closes and opens does not depend on what is open around it. -/
theorem depthBehind_add {d e : Nat} {s : List Char} (h : depthBehind d s = some e) (k : Nat) :
    depthBehind (d + k) s = some (e + k) := by
  induction s generalizing d with
  | nil => simpa using h
  | cons c s ih =>
    by_cases hc : c = ')' ∧ d = 0
    · obtain ⟨rfl, rfl⟩ := hc
      rw [depthBehind_closing_zero] at h
      cases h
    · rw [depthBehind_cons hc] at h
      rw [depthBehind_cons (by grind), depthAfter_add hc]
      exact ih h

theorem Balanced.append {s t : List Char} (hs : Balanced s) (ht : Balanced t) :
    Balanced (s ++ t) := by
  rw [Balanced, depthBehind_append, hs]
  exact ht

/-! ### The closing parenthesis -/

theorem splitClosing_append {d : Nat} {body : List Char} (h : depthBehind d body = some 0)
    (rest : List Char) : splitClosing d (body ++ ')' :: rest) = some (body, rest) := by
  induction body generalizing d with
  | nil =>
    simp only [depthBehind_nil, Option.some.injEq] at h
    simp [splitClosing, h]
  | cons c body ih =>
    by_cases hc : c = ')' ∧ d = 0
    · obtain ⟨rfl, rfl⟩ := hc
      rw [depthBehind_closing_zero] at h
      cases h
    · rw [depthBehind_cons hc] at h
      rw [List.cons_append, splitClosing, if_neg (by simpa using hc), ih h]
      rfl

theorem eq_of_splitClosing {d : Nat} {s body rest : List Char}
    (h : splitClosing d s = some (body, rest)) :
    depthBehind d body = some 0 ∧ s = body ++ ')' :: rest := by
  induction s generalizing d body with
  | nil => cases h
  | cons c s ih =>
    rw [splitClosing] at h
    split at h
    · next hc =>
      simp only [Bool.and_eq_true, decide_eq_true_eq] at hc
      obtain ⟨rfl, rfl⟩ := hc
      cases h
      exact ⟨rfl, rfl⟩
    · next hc =>
      obtain ⟨⟨body', rest'⟩, h', he⟩ := Option.map_eq_some_iff.1 h
      cases he
      obtain ⟨hb, rfl⟩ := ih h'
      exact ⟨by rw [depthBehind_cons (by simpa using hc), hb], rfl⟩

theorem splitClosing_eq_some_iff {d : Nat} {s body rest : List Char} :
    splitClosing d s = some (body, rest) ↔
      depthBehind d body = some 0 ∧ s = body ++ ')' :: rest := by
  constructor
  · exact eq_of_splitClosing
  · rintro ⟨h, rfl⟩
    exact splitClosing_append h rest

/-- Text behind the closing parenthesis is left alone. -/
theorem splitClosing_append_of_not_mem {w : List Char} (hw : ')' ∉ w) (d : Nat)
    (s : List Char) :
    splitClosing d (s ++ w) = (splitClosing d s).map fun p => (p.1, p.2 ++ w) := by
  induction s generalizing d with
  | nil =>
    rw [List.nil_append, splitClosing, Option.map_none]
    by_contra h
    obtain ⟨p, hp⟩ := Option.ne_none_iff_exists'.1 h
    obtain ⟨-, rfl⟩ := eq_of_splitClosing hp
    simp at hw
  | cons c s ih =>
    rw [List.cons_append, splitClosing, splitClosing]
    split
    · rfl
    · rw [ih, Option.map_map, Option.map_map]
      rfl

/-! ### Cuts -/

theorem pieces_ne_nil (d : Nat) (s : List Char) : pieces d s ≠ [] := by
  cases s with
  | nil => simp [pieces]
  | cons c r =>
    rw [pieces]
    split
    · simp
    · split <;> simp

theorem pieces_comma (r : List Char) : pieces 0 (',' :: r) = [] :: pieces 0 r :=
  rfl

theorem pieces_cons {d : Nat} {c : Char} (h : ¬(c = ',' ∧ d = 0)) {r p : List Char}
    {ps : List (List Char)} (hp : pieces (depthAfter d c) r = p :: ps) :
    pieces d (c :: r) = (c :: p) :: ps := by
  rw [pieces, if_neg (by simpa using h), hp]

theorem intercalate_comma_cons {ss : List (List Char)} (hss : ss ≠ []) (s : List Char) :
    [','].intercalate (s :: ss) = s ++ ',' :: [','].intercalate ss := by
  rw [List.intercalate_cons_of_ne_nil hss, List.append_assoc, List.singleton_append]

/-- The pieces with their commas are the whole text. -/
theorem intercalate_pieces (d : Nat) (s : List Char) :
    [','].intercalate (pieces d s) = s := by
  induction s generalizing d with
  | nil => rfl
  | cons c r ih =>
    by_cases hc : c = ',' ∧ d = 0
    · obtain ⟨rfl, rfl⟩ := hc
      rw [pieces_comma, intercalate_comma_cons (pieces_ne_nil 0 r), ih, List.nil_append]
    · obtain ⟨p, ps, hp⟩ := List.exists_cons_of_ne_nil (pieces_ne_nil (depthAfter d c) r)
      rw [pieces_cons hc hp]
      have := ih (depthAfter d c)
      rw [hp] at this
      cases ps <;> simp_all

/-! ### Pieces -/

theorem isPiece_nil : IsPiece [] :=
  ⟨rfl, rfl⟩

theorem isPiece_cons {c : Char} (hc : c ≠ '(') {s : List Char} :
    IsPiece (c :: s) ↔ c ≠ ')' ∧ c ≠ ',' ∧ IsPiece s := by
  by_cases h₁ : c = ')'
  · subst h₁
    simp [IsPiece, Balanced, depthBehind_closing_zero]
  by_cases h₂ : c = ','
  · subst h₂
    simp [IsPiece, pieces_comma]
  have hd : depthAfter 0 c = 0 := depthAfter_of_plain hc h₁ 0
  have hb : Balanced (c :: s) ↔ Balanced s := by
    rw [Balanced, depthBehind_cons (by simp [h₁]), hd, Balanced]
  obtain ⟨p, ps, hp⟩ := List.exists_cons_of_ne_nil (pieces_ne_nil 0 s)
  have hps : pieces 0 (c :: s) = (c :: p) :: ps :=
    pieces_cons (by simp [h₂]) (by rw [hd, hp])
  simp [IsPiece, hb, hps, hp, h₁, h₂]

/-- In front of its first parenthesis a piece has neither a closing one nor a comma. -/
theorem isPiece_append {a : List Char} (ha : '(' ∉ a) {s : List Char} :
    IsPiece (a ++ s) ↔ (')' ∉ a ∧ ',' ∉ a) ∧ IsPiece s := by
  induction a with
  | nil => simp
  | cons c a ih =>
    simp only [List.mem_cons, not_or] at ha ⊢
    rw [List.cons_append, isPiece_cons (Ne.symm ha.1), ih ha.2]
    grind

theorem isPiece_of_not_mem {s : List Char} (h₁ : '(' ∉ s) (h₂ : ')' ∉ s) (h₃ : ',' ∉ s) :
    IsPiece s := by
  rw [← List.append_nil s, isPiece_append h₁]
  exact ⟨⟨h₂, h₃⟩, isPiece_nil⟩

/-- Between parentheses nothing is cut. -/
theorem pieces_closing {d : Nat} {body t : List Char} (hb : depthBehind d body = some 0)
    (ht : pieces 0 t = [t]) :
    pieces (d + 1) (body ++ ')' :: t) = [body ++ ')' :: t] := by
  induction body generalizing d with
  | nil =>
    cases hb
    exact pieces_cons (by simp) ht
  | cons c body ih =>
    by_cases hc : c = ')' ∧ d = 0
    · obtain ⟨rfl, rfl⟩ := hc
      rw [depthBehind_closing_zero] at hb
      cases hb
    · rw [depthBehind_cons hc] at hb
      refine pieces_cons (by simp) ?_
      rw [depthAfter_add hc]
      exact ih hb

theorem isPiece_parentheses {body t : List Char} (hb : Balanced body) (ht : IsPiece t) :
    IsPiece ('(' :: body ++ ')' :: t) := by
  constructor
  · have hb₁ : depthBehind 1 body = some 1 := depthBehind_add hb 1
    rw [Balanced, List.cons_append, depthBehind_cons (by simp), depthBehind_append]
    change (depthBehind 1 body).bind _ = _
    rw [hb₁]
    exact ht.1
  · exact pieces_cons (by simp) (pieces_closing hb ht.2)

/-- The first piece takes up at the depth where the text does, the others at zero. -/
theorem exists_pieces_eq_cons {d : Nat} {s : List Char} (h : depthBehind d s = some 0) :
    ∃ p ps, pieces d s = p :: ps ∧ depthBehind d p = some 0 ∧ pieces d p = [p] ∧
      ∀ q ∈ ps, IsPiece q := by
  induction s generalizing d with
  | nil => exact ⟨[], [], rfl, h, rfl, by simp⟩
  | cons c r ih =>
    by_cases hc : c = ',' ∧ d = 0
    · obtain ⟨rfl, rfl⟩ := hc
      have h₀ : depthBehind 0 r = some 0 := h
      obtain ⟨p, ps, hp, hb, h₁, hps⟩ := ih h₀
      refine ⟨[], pieces 0 r, rfl, rfl, rfl, ?_⟩
      rw [hp]
      intro q hq
      rcases List.mem_cons.1 hq with rfl | hq
      · exact ⟨hb, h₁⟩
      · exact hps q hq
    · have hc' : ¬(c = ')' ∧ d = 0) := by
        rintro ⟨rfl, rfl⟩
        cases h
      rw [depthBehind_cons hc'] at h
      obtain ⟨p, ps, hp, hb, h₁, hps⟩ := ih h
      exact ⟨c :: p, ps, pieces_cons hc hp, by rw [depthBehind_cons hc', hb],
        pieces_cons hc h₁, hps⟩

theorem isPiece_of_mem_pieces {s p : List Char} (hs : Balanced s) (hp : p ∈ pieces 0 s) :
    IsPiece p := by
  obtain ⟨q, qs, hq, hb, h₁, hqs⟩ := exists_pieces_eq_cons hs
  rw [hq] at hp
  rcases List.mem_cons.1 hp with rfl | hp
  · exact ⟨hb, h₁⟩
  · exact hqs p hp

/-- A comma behind a piece cuts it off. -/
theorem pieces_append_comma {d : Nat} {p : List Char} (hb : depthBehind d p = some 0)
    (hp : pieces d p = [p]) (r : List Char) : pieces d (p ++ ',' :: r) = p :: pieces 0 r := by
  induction p generalizing d with
  | nil =>
    cases hb
    rfl
  | cons c p ih =>
    have hc : ¬(c = ',' ∧ d = 0) := by
      rintro ⟨rfl, rfl⟩
      simp [pieces_comma] at hp
    have hc' : ¬(c = ')' ∧ d = 0) := by
      rintro ⟨rfl, rfl⟩
      cases hb
    rw [depthBehind_cons hc'] at hb
    obtain ⟨q, qs, hq⟩ := List.exists_cons_of_ne_nil (pieces_ne_nil (depthAfter d c) p)
    rw [pieces_cons hc hq] at hp
    cases hp
    exact pieces_cons hc (ih hb hq)

/-- Pieces put together with commas are cut apart again. -/
theorem pieces_intercalate {ss : List (List Char)} (hne : ss ≠ []) (hss : ∀ s ∈ ss, IsPiece s) :
    pieces 0 ([','].intercalate ss) = ss := by
  induction ss with
  | nil => exact absurd rfl hne
  | cons s ss ih =>
    have hs : IsPiece s := hss s List.mem_cons_self
    cases ss with
    | nil => simpa using hs.2
    | cons t ts =>
      have ht := ih (by simp) fun u hu => hss u (List.mem_cons_of_mem s hu)
      rw [intercalate_comma_cons (by simp), pieces_append_comma hs.1 hs.2, ht]

theorem balanced_intercalate {ss : List (List Char)} (hss : ∀ s ∈ ss, Balanced s) :
    Balanced ([','].intercalate ss) := by
  induction ss with
  | nil => rfl
  | cons s ss ih =>
    have hs : Balanced s := hss s List.mem_cons_self
    cases ss with
    | nil => simpa using hs
    | cons t ts =>
      have ht := ih fun u hu => hss u (List.mem_cons_of_mem s hu)
      rw [List.intercalate_cons_cons]
      exact (hs.append (t := [',']) rfl).append ht

/-! ### Depth as a number -/

/-- How many more parentheses a text opens than it closes. -/
def depth (s : List Char) : Int :=
  s.count '(' - s.count ')'

theorem depth_nil : depth [] = 0 :=
  rfl

theorem add_depth_cons {d : Nat} {c : Char} (h : ¬(c = ')' ∧ d = 0)) (s : List Char) :
    d + depth (c :: s) = depthAfter d c + depth s := by
  unfold depth depthAfter
  by_cases h₁ : c = '('
  · subst h₁
    simp
    omega
  by_cases h₂ : c = ')'
  · subst h₂
    have hd : d ≠ 0 := fun hd => h ⟨rfl, hd⟩
    simp
    omega
  · rw [List.count_cons_of_ne h₁, List.count_cons_of_ne h₂, if_neg h₁, if_neg h₂]

theorem depthBehind_eq_add_depth {d e : Nat} {s : List Char} (h : depthBehind d s = some e) :
    (e : Int) = d + depth s := by
  induction s generalizing d with
  | nil =>
    cases h
    simp [depth]
  | cons c s ih =>
    by_cases hc : c = ')' ∧ d = 0
    · obtain ⟨rfl, rfl⟩ := hc
      rw [depthBehind_closing_zero] at h
      cases h
    · rw [depthBehind_cons hc] at h
      rw [ih h, add_depth_cons hc]

theorem forall_prefix_cons {P : List Char → Prop} {c : Char} {s : List Char} :
    (∀ p, p <+: c :: s → P p) ↔ P [] ∧ ∀ p, p <+: s → P (c :: p) := by
  constructor
  · intro h
    exact ⟨h [] List.nil_prefix, fun p hp => h (c :: p) (List.cons_prefix_cons.2 ⟨rfl, hp⟩)⟩
  · rintro ⟨hnil, hcons⟩ p hp
    cases p with
    | nil => exact hnil
    | cons b p =>
      obtain ⟨rfl, hps⟩ := List.cons_prefix_cons.1 hp
      exact hcons p hps

/-- A parenthesis that is open is never closed if the depth that it begins does not return to
zero. -/
theorem splitClosing_eq_none_iff {d : Nat} {s : List Char} :
    splitClosing d s = none ↔ ∀ p, p <+: s → d + 1 + depth p ≠ 0 := by
  induction s generalizing d with
  | nil =>
    have hnil : (d : Int) + 1 + depth [] ≠ 0 := by
      rw [depth_nil]
      omega
    simpa [splitClosing] using hnil
  | cons c s ih =>
    have hnil : (d : Int) + 1 + depth [] ≠ 0 := by
      rw [depth_nil]
      omega
    rw [splitClosing, forall_prefix_cons]
    by_cases hc : c = ')' ∧ d = 0
    · obtain ⟨rfl, rfl⟩ := hc
      have hclose : ((0 : Nat) : Int) + 1 + depth [')'] = 0 := rfl
      exact iff_of_false (by simp) fun h => h.2 [] List.nil_prefix hclose
    · rw [if_neg (by simpa using hc), Option.map_eq_none_iff, ih, and_iff_right hnil]
      refine forall₂_congr fun p _ => ?_
      have hadd := add_depth_cons hc p
      omega

end HostConsole.Call
