import HostConsole.Proofs.Call.Context
import HostConsole.Proofs.Call.Reading

/-! How many arguments a call is written with. The number is read off its text: none between
parentheses with white space only, and else one more than there are commas outside all others.
At every place of a tree there are as many arguments as are written there. -/

namespace HostConsole.Call

/-! ### Commas -/

/-- The commas of a text that stand outside all parentheses, where `d` of them are open
before it. -/
def commas (d : Nat) (s : List Char) : Nat :=
  (List.range s.length).countP fun i => s[i]? = some ',' ∧ depthBehind d (s.take i) = some 0

theorem commas_cons {d : Nat} {c : Char} (h : ¬(c = ')' ∧ d = 0)) (r : List Char) :
    commas d (c :: r) = commas (depthAfter d c) r + if c = ',' ∧ d = 0 then 1 else 0 := by
  unfold commas
  rw [List.length_cons, List.range_succ_eq_map, List.countP_cons, List.countP_map]
  -- a place further on has the character more in front of it
  simp [Function.comp_def, depthBehind_cons h]

theorem length_pieces {d e : Nat} {s : List Char} (h : depthBehind d s = some e) :
    (pieces d s).length = commas d s + 1 := by
  induction s generalizing d with
  | nil => rfl
  | cons c r ih =>
    by_cases hc : c = ')' ∧ d = 0
    · obtain ⟨rfl, rfl⟩ := hc
      rw [depthBehind_closing_zero] at h
      cases h
    · rw [depthBehind_cons hc] at h
      rw [commas_cons hc]
      by_cases hcomma : c = ',' ∧ d = 0
      · obtain ⟨rfl, rfl⟩ := hcomma
        have hr : (pieces 0 r).length = commas 0 r + 1 := ih h
        rw [pieces_comma, List.length_cons, hr, if_pos ⟨rfl, rfl⟩]
        rfl
      · obtain ⟨p, ps, hp⟩ := List.exists_cons_of_ne_nil (pieces_ne_nil (depthAfter d c) r)
        have hr := ih h
        rw [hp] at hr
        rw [pieces_cons hcomma hp, if_neg hcomma, Nat.add_zero, ← hr]
        rfl

/-- How many arguments are written between two parentheses. -/
def written (body : List Char) : Nat :=
  if Text.isAllBlank body then 0 else commas 0 body + 1

theorem length_segments {body : List Char} (hb : Balanced body) :
    (segments body).length = written body := by
  rw [segments, written]
  split
  · rfl
  · rw [List.length_map, length_pieces hb]

/-! ### Calls -/

/-- The texts that write a call by a name, with so many arguments. -/
inductive Writes (name : String) : Nat → List Char → Prop where
  | parentheses {w₁ w₂ w₃ body : List Char} (hn : '(' ∉ name.toList) (hb : Balanced body)
      (h₁ : Text.isAllBlank w₁) (h₂ : Text.isAllBlank w₂) (h₃ : Text.isAllBlank w₃) :
      Writes name (written body) (w₁ ++ name.toList ++ w₂ ++ '(' :: body ++ ')' :: w₃)
  | bare {w₁ w₂ : List Char} (hn : '(' ∉ name.toList)
      (hblank : ∀ c ∈ name.toList, Text.isBlank c = false)
      (h₁ : Text.isAllBlank w₁) (h₂ : Text.isAllBlank w₂) :
      Writes name 0 (w₁ ++ name.toList ++ w₂)
  | shorthand {w₁ r : List Char} {c : Char} (hn : '(' ∉ name.toList)
      (hblank : ∀ c ∈ name.toList, Text.isBlank c = false) (h₁ : Text.isAllBlank w₁)
      (hc : Text.isBlank c) (hr : ¬Text.isAllBlank r) (hopen : '(' ∉ r) :
      Writes name 1 (w₁ ++ name.toList ++ c :: r)

theorem body_unique {a a' body body' w w' : List Char} (ha : '(' ∉ a) (ha' : '(' ∉ a')
    (hb : Balanced body) (hb' : Balanced body')
    (h : a ++ '(' :: body ++ ')' :: w = a' ++ '(' :: body' ++ ')' :: w') : body = body' := by
  have hopen : ∀ {s : List Char}, '(' ∉ s → ∀ c ∈ s, (c != '(') = true := fun hs c hc => by
    simpa using ne_of_mem_of_not_mem hc hs
  have hrest := congrArg (List.dropWhile (· != '(')) h
  simp only [List.append_assoc, List.cons_append, List.dropWhile_append_of_pos (hopen ha),
    List.dropWhile_append_of_pos (hopen ha')] at hrest
  have hsplit : splitClosing 0 (body ++ ')' :: w) = splitClosing 0 (body' ++ ')' :: w') := by
    have htail := congrArg List.tail hrest
    simpa using congrArg (splitClosing 0) htail
  rw [splitClosing_append hb, splitClosing_append hb'] at hsplit
  cases hsplit
  rfl

theorem isAllBlank_of_pad_eq {name w w' r r' : List Char} (hw : Text.isAllBlank w)
    (hw' : Text.isAllBlank w') (h : w ++ name ++ r = w' ++ name ++ r') :
    Text.isAllBlank r = Text.isAllBlank r' := by
  have hnil : ∀ s : List Char, s.filter (!Text.isBlank ·) = [] ↔ Text.isAllBlank s := by
    simp [Text.isAllBlank_iff]
  have hf := congrArg (List.filter (!Text.isBlank ·)) h
  simp only [List.filter_append, (hnil w).2 hw, (hnil w').2 hw', List.nil_append,
    List.append_cancel_left_eq] at hf
  rw [Bool.eq_iff_iff, ← hnil r, ← hnil r', hf]

namespace Writes

variable {name : String} {m n : Nat} {t : List Char}

theorem parentheses_or_not_mem (h : Writes name n t) :
    (∃ a body w, '(' ∉ a ∧ Balanced body ∧ t = a ++ '(' :: body ++ ')' :: w ∧
      n = written body) ∨
    ('(' ∉ t ∧ ∃ w r, Text.isAllBlank w ∧ t = w ++ name.toList ++ r ∧
      n = if Text.isAllBlank r then 0 else 1) := by
  cases h with
  | @parentheses w₁ w₂ w₃ body hn hb h₁ h₂ h₃ =>
    exact .inl ⟨_, body, w₃, by rwa [Text.mem_pad h₁ h₂ rfl], hb, rfl, rfl⟩
  | @bare w₁ w₂ hn hblank h₁ h₂ =>
    exact .inr ⟨by rwa [Text.mem_pad h₁ h₂ rfl], w₁, w₂, h₁, rfl, by rw [if_pos h₂]⟩
  | @shorthand w₁ r c hn hblank h₁ hc hr hopen =>
    have hcr : ¬Text.isAllBlank (c :: r) := by rwa [Text.isAllBlank_cons hc]
    have hne : '(' ≠ c := by
      rintro rfl
      cases hc
    refine .inr ⟨?_, w₁, c :: r, h₁, rfl, by rw [if_neg hcr]⟩
    simp [hn, hopen, hne, (unmarked_of_blank h₁).1]

/-- The number of arguments is a matter of the text alone. -/
theorem unique (hm : Writes name m t) (hn : Writes name n t) : m = n := by
  rcases hm.parentheses_or_not_mem with
    ⟨a, body, w, ha, hb, rfl, rfl⟩ | ⟨hopen, w, r, hw, ht, rfl⟩
  · rcases hn.parentheses_or_not_mem with ⟨a', body', w', ha', hb', ht, rfl⟩ | ⟨hopen, -⟩
    · rw [body_unique ha ha' hb hb' ht]
    · simp at hopen
  · rcases hn.parentheses_or_not_mem with ⟨a, body, w', -, -, rfl, -⟩ | ⟨-, w', r', hw', ht', rfl⟩
    · simp at hopen
    · rw [isAllBlank_of_pad_eq hw hw' (ht.symm.trans ht')]

theorem iff_eq (h : Writes name n t) : Writes name m t ↔ m = n := by
  constructor
  · exact fun hm => hm.unique h
  · rintro rfl
    exact h

end Writes

theorem WellFormed.not_blank_of_single {c : Call} (hw : c.WellFormed) {a : Argument}
    (ha : c.arguments = [a]) {s : List Char} (hs : a.Spells s) : ¬Text.isAllBlank s := by
  intro hblank
  cases hs with
  | @text content w₁ w₂ h₁ h₂ =>
    have hwa : (Argument.text content).WellFormed := hw.arguments _ (by simp [ha])
    cases hwa with
    | text ht hu =>
      have hcontent : content.toList = [] := by
        rw [← ht, ← Text.trim_pad h₁ h₂, Text.trim_eq_nil_iff]
        exact hblank
      exact hw.notEmptyText (by rw [ha, String.toList_eq_nil_iff.1 hcontent])
  | call => exact absurd (by simp) (unmarked_of_blank hblank).1

theorem WellFormed.writes {c : Call} (hw : c.WellFormed) {t : List Char} (ht : c.Spells t) :
    Writes c.name c.arguments.length t := by
  obtain ⟨name, arguments⟩ := c
  cases ht with
  | @call _ _ ss w₁ w₂ w₃ body h₁ h₂ h₃ hn hs hb =>
    have hpieces : ∀ s ∈ ss, IsPiece s := fun s hs' => by
      obtain ⟨p, hz, rfl⟩ := exists_mem_zip_of_mem_right hn hs'
      exact (hw.arguments p.1 (List.of_mem_zip hz).1).isPiece (hs p hz)
    have hblank : ∀ s, ss = [s] → ¬Text.isAllBlank s := by
      rintro s rfl
      obtain ⟨a, rfl⟩ := List.length_eq_one_iff.1 hn
      exact hw.not_blank_of_single rfl (hs (a, s) (by simp))
    have hbal : Balanced body := hb.balanced hpieces
    have hlen : written body = arguments.length := by
      rw [← length_segments hbal, segments_of_isBody hb hpieces hblank, List.length_map, hn]
    rw [← hlen]
    exact .parentheses hw.opens hbal h₁ h₂ h₃

/-- What follows white space within a trimmed text is not blank. -/
theorem not_blank_of_trimmed {name r : List Char} {b : Char}
    (ht : Text.Trimmed (name ++ b :: r)) (hb : Text.isBlank b) : ¬Text.isAllBlank r := by
  intro hr
  have hall : Text.isAllBlank (b :: r) := by rwa [Text.isAllBlank_cons hb]
  have hpad : Text.trim (name ++ b :: r) = Text.trim name := by
    simpa using Text.trim_pad Text.isAllBlank_nil hall name
  have hle := length_trim_le name
  rw [← hpad, ht, List.length_append, List.length_cons] at hle
  omega

/-- A line without parentheses is a call without calls in it, written with the arguments that
are read from it. -/
theorem writes_of_not_mem {text : List Char} (hm : '(' ∉ text) {c : Call}
    (h : parse text = .ok c) :
    Writes c.name c.arguments.length text ∧ Argument.callsAll c.arguments = [] ∧
      c.arguments ≠ [.text ""] := by
  rw [parse_of_not_mem hm] at h
  have hne : Text.trim text ≠ [] := by
    intro hnil
    rw [hnil] at h
    cases h
  obtain ⟨w₁, w₂, h₁, h₂, hpad⟩ := Text.exists_pad_trim text
  have ht := Text.trimmed_trim text
  have hopen : '(' ∉ Text.trim text := by rwa [Text.mem_trim rfl]
  obtain ⟨name, -, hblank, ⟨hline, hr⟩ | ⟨b, r, hb, hline, hr⟩⟩ := exists_ofBare ht hne
  · rw [hr] at h
    cases h
    rw [hline] at hopen hpad
    rw [hpad]
    refine ⟨?_, by simp [Argument.callsAll], by simp⟩
    have hw : Writes (String.ofList name) 0 (w₁ ++ (String.ofList name).toList ++ w₂) :=
      .bare (by simpa using hopen) (by simpa using hblank) h₁ h₂
    simpa using hw
  · rw [hr] at h
    cases h
    rw [hline] at hopen hpad ht
    have hrblank : ¬Text.isAllBlank r := not_blank_of_trimmed ht hb
    simp only [List.mem_append, List.mem_cons, not_or] at hopen
    have hw : Writes (String.ofList name) 1
        (w₁ ++ (String.ofList name).toList ++ b :: (r ++ w₂)) := by
      refine .shorthand (by simpa using hopen.1) (by simpa using hblank) h₁ hb ?_ ?_
      · rw [Text.isAllBlank_append, not_and]
        exact fun hr' => absurd hr' hrblank
      · rw [List.mem_append, not_or]
        exact ⟨hopen.2.2, (unmarked_of_blank h₂).1⟩
    refine ⟨by simpa [hpad] using hw, by simp [Argument.callsAll, Argument.calls], fun he => ?_⟩
    have hnil : String.ofList (Text.trim r) = "" := by simpa using he
    refine hrblank (Text.trim_eq_nil_iff.1 ?_)
    simpa using congrArg String.toList hnil

/-! ### Places in a line -/

theorem eq_of_ofCall {c g : Call} (h : Argument.ofCall c = Argument.ofCall g) : c = g := by
  obtain ⟨name, arguments⟩ := c
  obtain ⟨rfl, rfl⟩ := Argument.call.inj h
  rfl

/-- How a call stands in a text that is read as a tree: at place `i` of the post-order, where
the text has its hole, and with as many arguments as are written there, a number that the text determines. -/
inductive Stands (c : Call) (text : List Char) (i : Nat) (g : Call) : Prop where
  | intro {K : Context} {A t B : List Char} (hc : Argument.ofCall c = K.fill (.ofCall g))
      (hi : K.earlier.length + (Argument.callsAll g.arguments).length = i)
      (ht : text = A ++ t ++ B) (hK : K.Frames A B)
      (hw : ∀ m, Writes g.name m t ↔ m = g.arguments.length)

theorem eq_hole_of_fill {c g : Call} {K : Context} (hc : Argument.callsAll c.arguments = [])
    (h : Argument.ofCall c = K.fill (.ofCall g)) : K = .hole := by
  cases K with
  | hole => rfl
  | argument name before K after =>
    obtain ⟨-, ha⟩ := Argument.call.inj (h : Argument.call c.name c.arguments = _)
    rw [ha, Argument.callsAll_append, Argument.callsAll, Context.calls_fill] at hc
    simp [Argument.ofCall, Argument.calls] at hc

/-- A call of a line has as many arguments as are written where it stands. An empty text is
never the only one. -/
theorem stands_of_parse {text : List Char} {c : Call} (h : parse text = .ok c) {i : Nat}
    {g : Call} (hg : c.postorder[i]? = some g) :
    c.Stands text i g ∧ g.arguments ≠ [.text ""] := by
  obtain ⟨K, hK, hi⟩ := Context.exists_fill_of_calls hg
  by_cases hm : '(' ∈ text
  · obtain ⟨hw, hs⟩ := spells_of_parse hm h
    have hgw : g.WellFormed := by
      by_cases hhole : K = .hole
      · rw [hhole] at hK
        exact eq_of_ofCall hK ▸ hw
      · exact wellFormed_of_argument (Context.wellFormed_of_ofCall hw hK hhole)
    rw [Call.Spells, hK] at hs
    obtain ⟨A, t, B, ht, hf, hgs⟩ := Context.exists_frames hs
    exact ⟨.intro hK hi ht hf fun _ => (hgw.writes hgs).iff_eq, hgw.notEmptyText⟩
  · obtain ⟨hw, hcalls, hne⟩ := writes_of_not_mem hm h
    obtain rfl := eq_hole_of_fill hcalls hK
    obtain rfl := eq_of_ofCall hK
    exact ⟨.intro hK hi (by simp) (.hole Text.isAllBlank_nil Text.isAllBlank_nil)
      fun _ => hw.iff_eq, hne⟩

end HostConsole.Call
