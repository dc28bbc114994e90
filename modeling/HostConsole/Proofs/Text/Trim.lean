import HostConsole.Text.Blank
import Mathlib.Data.List.DropRight

/-! White space around a text. A text is its trimmed form between two stretches
of white space, and has the same characters that are none. -/

namespace HostConsole.Text

/-- A text with no white space at its ends. -/
def Trimmed (s : List Char) : Prop :=
  trim s = s

instance (s : List Char) : Decidable (Trimmed s) :=
  inferInstanceAs (Decidable (trim s = s))

theorem isAllBlank_iff {s : List Char} : isAllBlank s ↔ ∀ c ∈ s, isBlank c := by
  simp [isAllBlank]

@[simp]
theorem isAllBlank_nil : isAllBlank [] :=
  rfl

theorem isAllBlank_cons {c : Char} (hc : isBlank c) (s : List Char) :
    isAllBlank (c :: s) = isAllBlank s := by
  simp [isAllBlank, hc]

@[simp]
theorem isAllBlank_append {s t : List Char} :
    isAllBlank (s ++ t) ↔ isAllBlank s ∧ isAllBlank t := by
  simp only [isAllBlank_iff, List.mem_append, or_imp, forall_and]

/-! ### The two ends -/

theorem trimLeft_append_of_blank {w : List Char} (hw : isAllBlank w) (s : List Char) :
    trimLeft (w ++ s) = trimLeft s :=
  List.dropWhile_append_of_pos (isAllBlank_iff.1 hw)

theorem trimLeft_eq_nil_iff {s : List Char} : trimLeft s = [] ↔ isAllBlank s := by
  rw [isAllBlank_iff, trimLeft, List.dropWhile_eq_nil_iff]

theorem trimLeft_append {s : List Char} (hs : ¬isAllBlank s) (t : List Char) :
    trimLeft (s ++ t) = trimLeft s ++ t := by
  rw [trimLeft, List.dropWhile_append, if_neg]
  · rfl
  · rw [List.isEmpty_iff]
    exact mt trimLeft_eq_nil_iff.1 hs

theorem trimRight_append_of_blank {w : List Char} (hw : isAllBlank w) (s : List Char) :
    trimRight (s ++ w) = trimRight s := by
  have hr : isAllBlank w.reverse := by simpa [isAllBlank_iff] using hw
  rw [trimRight, List.reverse_append, trimLeft_append_of_blank hr, trimRight]

theorem trimRight_append {t : List Char} (ht : ¬isAllBlank t) (s : List Char) :
    trimRight (s ++ t) = s ++ trimRight t := by
  have hr : ¬isAllBlank t.reverse := by simpa [isAllBlank_iff] using ht
  rw [trimRight, List.reverse_append, trimLeft_append hr, List.reverse_append,
    List.reverse_reverse, trimRight]

/-- The white space that is cut off a text at its left end. -/
theorem exists_blank_append_trimLeft (s : List Char) :
    ∃ w, isAllBlank w ∧ s = w ++ trimLeft s :=
  ⟨s.takeWhile isBlank, isAllBlank_iff.2 fun _ => List.mem_takeWhile_imp,
    List.takeWhile_append_dropWhile.symm⟩

theorem exists_trimRight_append_blank (s : List Char) :
    ∃ w, isAllBlank w ∧ s = trimRight s ++ w := by
  obtain ⟨w, hw, h⟩ := exists_blank_append_trimLeft s.reverse
  refine ⟨w.reverse, by simpa [isAllBlank_iff] using hw, ?_⟩
  have := congrArg List.reverse h
  rwa [List.reverse_reverse, List.reverse_append] at this

/-! ### Trimming -/

/-- A text is its trimmed form with white space around it. -/
theorem exists_pad_trim (s : List Char) :
    ∃ w₁ w₂, isAllBlank w₁ ∧ isAllBlank w₂ ∧ s = w₁ ++ trim s ++ w₂ := by
  obtain ⟨w₁, h₁, e₁⟩ := exists_blank_append_trimLeft s
  obtain ⟨w₂, h₂, e₂⟩ := exists_trimRight_append_blank (trimLeft s)
  exact ⟨w₁, w₂, h₁, h₂, by rw [List.append_assoc, trim, ← e₂, ← e₁]⟩

theorem trim_pad {w₁ w₂ : List Char} (h₁ : isAllBlank w₁) (h₂ : isAllBlank w₂)
    (s : List Char) : trim (w₁ ++ s ++ w₂) = trim s := by
  rw [trim, List.append_assoc, trimLeft_append_of_blank h₁]
  by_cases hs : isAllBlank s
  · rw [trim, trimLeft_eq_nil_iff.2 hs, trimLeft_eq_nil_iff.2 (isAllBlank_append.2 ⟨hs, h₂⟩)]
  · rw [trimLeft_append hs, trimRight_append_of_blank h₂, trim]

theorem trim_trimLeft (s : List Char) : trim (trimLeft s) = trim s := by
  obtain ⟨w, hw, hs⟩ := exists_blank_append_trimLeft s
  have h := trim_pad hw isAllBlank_nil (trimLeft s)
  rw [List.append_nil, ← hs] at h
  exact h.symm

theorem trim_trimRight (s : List Char) : trim (trimRight s) = trim s := by
  obtain ⟨w, hw, hs⟩ := exists_trimRight_append_blank s
  have h := trim_pad isAllBlank_nil hw (trimRight s)
  rw [List.nil_append, ← hs] at h
  exact h.symm

theorem trim_eq_nil_iff {s : List Char} : trim s = [] ↔ isAllBlank s := by
  constructor
  · intro h
    obtain ⟨w₁, w₂, h₁, h₂, hs⟩ := exists_pad_trim s
    rw [hs, h, List.append_nil]
    exact isAllBlank_append.2 ⟨h₁, h₂⟩
  · intro h
    rw [trim, trimLeft_eq_nil_iff.2 h]
    rfl

theorem trimmed_trim (s : List Char) : Trimmed (trim s) := by
  obtain ⟨w₁, w₂, h₁, h₂, hs⟩ := exists_pad_trim s
  have h := trim_pad h₁ h₂ (trim s)
  rw [← hs] at h
  exact h.symm

theorem trimmed_of_not_blank {s : List Char} (h : ∀ c ∈ s, isBlank c = false) : Trimmed s := by
  have hleft : ∀ {t : List Char}, (∀ c ∈ t, isBlank c = false) → trimLeft t = t := fun ht => by
    rw [trimLeft, List.dropWhile_eq_self_iff]
    exact fun hl => by simpa using ht _ (List.getElem_mem hl)
  rw [Trimmed, trim, hleft h, trimRight, hleft (by simpa using h), List.reverse_reverse]

theorem not_mem_of_blank {w : List Char} (hw : isAllBlank w) {c : Char}
    (hc : isBlank c = false) : c ∉ w := by
  intro h
  have := isAllBlank_iff.1 hw c h
  simp [hc] at this

theorem mem_pad {w₁ w₂ s : List Char} (h₁ : isAllBlank w₁) (h₂ : isAllBlank w₂) {c : Char}
    (hc : isBlank c = false) : c ∈ w₁ ++ s ++ w₂ ↔ c ∈ s := by
  simp [not_mem_of_blank h₁ hc, not_mem_of_blank h₂ hc]

theorem mem_trim {s : List Char} {c : Char} (hc : isBlank c = false) : c ∈ trim s ↔ c ∈ s := by
  obtain ⟨w₁, w₂, h₁, h₂, hs⟩ := exists_pad_trim s
  have h := mem_pad (s := trim s) h₁ h₂ hc
  rw [← hs] at h
  exact h.symm

/-- White space is cut off no further than up to a character of another kind. -/
theorem trim_append_cons {c : Char} (hc : isBlank c = false) (a b : List Char) :
    trim (a ++ c :: b) = trimLeft a ++ c :: trimRight b := by
  have hl : trimLeft (a ++ c :: b) = trimLeft a ++ c :: b := by
    by_cases ha : isAllBlank a
    · rw [trimLeft_append_of_blank ha, trimLeft_eq_nil_iff.2 ha, trimLeft,
        List.dropWhile_cons_of_neg (by simp [hc]), List.nil_append]
    · exact trimLeft_append ha _
  have hr : trimRight (c :: b) = c :: trimRight b := by
    by_cases hb : isAllBlank b
    · have h₁ : trimRight [c] = [c] := by simp [trimRight, trimLeft, hc]
      have h₀ : trimRight b = [] := trimRight_append_of_blank hb []
      rw [h₀]
      exact (trimRight_append_of_blank hb [c]).trans h₁
    · exact trimRight_append hb [c]
  have hcb : ¬isAllBlank (c :: b) := by simp [isAllBlank, hc]
  rw [trim, hl, trimRight_append hcb, hr]

theorem Trimmed.trimLeft_eq {s : List Char} (h : Trimmed s) : trimLeft s = s := by
  have hr : (trim s).length ≤ (trimLeft s).length :=
    (List.rdropWhile_prefix isBlank (l := trimLeft s)).length_le
  rw [h] at hr
  exact (List.dropWhile_suffix isBlank (l := s)).eq_of_length_le hr

theorem Trimmed.trimRight_eq {s : List Char} (h : Trimmed s) : trimRight s = s := by
  have ht : trimRight (trimLeft s) = s := h
  rwa [h.trimLeft_eq] at ht

theorem Trimmed.not_blank {s : List Char} (h : Trimmed s) (hne : s ≠ []) : ¬isAllBlank s :=
  fun hb => hne (h.symm.trans (trim_eq_nil_iff.2 hb))

/-- Whatever stands between two trimmed texts, none of it is at an end. -/
theorem Trimmed.between {s t : List Char} (hs : Trimmed s) (hs' : s ≠ []) (ht : Trimmed t)
    (ht' : t ≠ []) (m : List Char) : Trimmed (s ++ m ++ t) := by
  rw [Trimmed, trim, List.append_assoc, trimLeft_append (hs.not_blank hs'), hs.trimLeft_eq,
    ← List.append_assoc, trimRight_append (ht.not_blank ht'), ht.trimRight_eq]

end HostConsole.Text
