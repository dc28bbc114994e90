import HostConsole.Call.Basic
import HostConsole.Proofs.Call.Balance
import HostConsole.Proofs.Text.Trim
import Mathlib.Data.List.Forall2

/-! The written forms of a call. Names, texts and parentheses can have any white
space around them, and arguments stand between commas. A tree is well formed if it
is written as it stands: its names and texts are trimmed and free of the marks that
would end them. -/

namespace HostConsole

namespace Call

/-- A text without the marks that structure a line. -/
def Unmarked (s : List Char) : Prop :=
  '(' ∉ s ∧ ')' ∉ s ∧ ',' ∉ s
  deriving Decidable

/-- What stands between two parentheses: white space where there are no arguments, and
otherwise their texts with commas between them. -/
def IsBody (ss : List (List Char)) (body : List Char) : Prop :=
  (ss = [] ∧ Text.isAllBlank body) ∨ (ss ≠ [] ∧ body = [','].intercalate ss)

end Call

open Call

/-- The texts that an argument can be written as. -/
inductive Argument.Spells : Argument → List Char → Prop where
  | text {content : String} {w₁ w₂ : List Char} (h₁ : Text.isAllBlank w₁)
      (h₂ : Text.isAllBlank w₂) : Spells (.text content) (w₁ ++ content.toList ++ w₂)
  | call {name : String} {arguments : List Argument} {ss : List (List Char)}
      {w₁ w₂ w₃ body : List Char} (h₁ : Text.isAllBlank w₁) (h₂ : Text.isAllBlank w₂)
      (h₃ : Text.isAllBlank w₃) (hn : arguments.length = ss.length)
      (hs : ∀ p ∈ arguments.zip ss, p.1.Spells p.2) (hb : IsBody ss body) :
      Spells (.call name arguments) (w₁ ++ name.toList ++ w₂ ++ '(' :: body ++ ')' :: w₃)

/-- The trees that a line can have below its outermost call. An empty text alone is no
argument list, since empty parentheses hold no argument. -/
inductive Argument.WellFormed : Argument → Prop where
  | text {content : String} (ht : Text.Trimmed content.toList) (hu : Unmarked content.toList) :
      WellFormed (.text content)
  | call {name : String} {arguments : List Argument} (hne : name ≠ "")
      (ht : Text.Trimmed name.toList) (hu : Unmarked name.toList)
      (he : arguments ≠ [.text ""]) (ha : ∀ a ∈ arguments, a.WellFormed) :
      WellFormed (.call name arguments)

namespace Call

def Spells (c : Call) (s : List Char) : Prop :=
  (Argument.ofCall c).Spells s

/-- The trees of whole lines. The outermost name may have closing parentheses and
commas in it. -/
structure WellFormed (c : Call) : Prop where
  nonempty : c.name ≠ ""
  trimmed : Text.Trimmed c.name.toList
  opens : '(' ∉ c.name.toList
  notEmptyText : c.arguments ≠ [.text ""]
  arguments : ∀ a ∈ c.arguments, a.WellFormed

theorem wellFormed_of_argument {c : Call} (h : (Argument.ofCall c).WellFormed) :
    c.WellFormed := by
  cases h with
  | call hne ht hu he ha => exact ⟨hne, ht, hu.1, he, ha⟩

/-! ### White space and marks -/

theorem unmarked_of_blank {w : List Char} (hw : Text.isAllBlank w) : Unmarked w :=
  ⟨Text.not_mem_of_blank hw rfl, Text.not_mem_of_blank hw rfl, Text.not_mem_of_blank hw rfl⟩

theorem Unmarked.append {s t : List Char} (hs : Unmarked s) (ht : Unmarked t) :
    Unmarked (s ++ t) := by
  simp only [Unmarked, List.mem_append, not_or] at *
  exact ⟨⟨hs.1, ht.1⟩, ⟨hs.2.1, ht.2.1⟩, ⟨hs.2.2, ht.2.2⟩⟩

theorem Unmarked.isPiece {s : List Char} (hs : Unmarked s) : IsPiece s :=
  isPiece_of_not_mem hs.1 hs.2.1 hs.2.2

/-! ### Bodies -/

theorem IsBody.balanced {ss : List (List Char)} {body : List Char} (hb : IsBody ss body)
    (hss : ∀ s ∈ ss, IsPiece s) : Balanced body := by
  rcases hb with ⟨-, hb⟩ | ⟨-, rfl⟩
  · exact (unmarked_of_blank hb).isPiece.1
  · exact balanced_intercalate fun s hs => (hss s hs).1

/-- The arguments' texts are found again, unless a blank one stands alone. -/
theorem segments_of_isBody {ss : List (List Char)} {body : List Char} (hb : IsBody ss body)
    (hss : ∀ s ∈ ss, IsPiece s) (hne : ∀ s, ss = [s] → ¬Text.isAllBlank s) :
    segments body = ss.map Text.trim := by
  rcases hb with ⟨rfl, hb⟩ | ⟨hss', rfl⟩
  · rw [segments, if_pos hb, List.map_nil]
  · have hp := pieces_intercalate hss' hss
    rw [segments, if_neg, hp]
    intro hblank
    have hc : ',' ∉ [','].intercalate ss := Text.not_mem_of_blank hblank rfl
    obtain _ | ⟨s, _ | ⟨t, ts⟩⟩ := ss
    · exact hss' rfl
    · exact hne s rfl (by simpa using hblank)
    · simp at hc

/-- Every body has texts, and none of them is blank and alone. -/
theorem exists_isBody {body : List Char} (hb : Balanced body) :
    ∃ ss, IsBody ss body ∧ (∀ s ∈ ss, IsPiece s) ∧ (∀ s, ss = [s] → ¬Text.isAllBlank s) := by
  by_cases hblank : Text.isAllBlank body
  · exact ⟨[], .inl ⟨rfl, hblank⟩, by simp, by simp⟩
  · refine ⟨pieces 0 body, .inr ⟨pieces_ne_nil 0 body, (intercalate_pieces 0 body).symm⟩,
      fun s => isPiece_of_mem_pieces hb, fun s hs => ?_⟩
    have := intercalate_pieces 0 body
    rw [hs, List.intercalate_singleton] at this
    rwa [this]

end Call

/-! ### Written forms are pieces -/

theorem exists_mem_zip_of_mem_right {α β : Type} {as : List α} {bs : List β}
    (hn : as.length = bs.length) {b : β} (hb : b ∈ bs) : ∃ p ∈ as.zip bs, p.2 = b := by
  rwa [← List.mem_map, List.map_snd_zip hn.ge]

theorem exists_mem_zip_of_mem_left {α β : Type} {as : List α} {bs : List β}
    (hn : as.length = bs.length) {a : α} (ha : a ∈ as) : ∃ p ∈ as.zip bs, p.1 = a := by
  rwa [← List.mem_map, List.map_fst_zip hn.le]

/-- A written form stands between commas as a whole. -/
theorem Argument.WellFormed.isPiece {a : Argument} (ha : a.WellFormed) {s : List Char}
    (hs : a.Spells s) : IsPiece s := by
  induction hs with
  | text h₁ h₂ =>
    cases ha with
    | text ht hu => exact (((unmarked_of_blank h₁).append hu).append (unmarked_of_blank h₂)).isPiece
  | call h₁ h₂ h₃ hn hs hb ih =>
    cases ha with
    | call hne ht hu he ha =>
      have hu' := ((unmarked_of_blank h₁).append hu).append (unmarked_of_blank h₂)
      have hbal : Balanced _ := hb.balanced fun s hs' => by
        obtain ⟨p, hz, rfl⟩ := exists_mem_zip_of_mem_right hn hs'
        exact ih p hz (ha p.1 (List.of_mem_zip hz).1)
      rw [List.append_assoc, isPiece_append hu'.1]
      exact ⟨hu'.2, isPiece_parentheses hbal (unmarked_of_blank h₃).isPiece⟩

theorem Argument.spells_self (content : String) :
    (Argument.text content).Spells content.toList := by
  have h : (Argument.text content).Spells ([] ++ content.toList ++ []) := .text rfl rfl
  simpa using h

theorem Argument.Spells.single {a : Argument} {s : List Char} (h : a.Spells s) (name : String) :
    (Argument.call name [a]).Spells (name.toList ++ '(' :: s ++ [')']) := by
  have hs : ∀ p ∈ [a].zip [s], p.1.Spells p.2 := by simpa using h
  have hc : (Argument.call name [a]).Spells ([] ++ name.toList ++ [] ++ '(' :: s ++ ')' :: []) :=
    .call rfl rfl rfl rfl hs (.inr ⟨by simp, by simp⟩)
  simpa using hc

/-- White space around a written form gives another one. -/
theorem Argument.Spells.pad {a : Argument} {s w₁ w₂ : List Char} (hs : a.Spells s)
    (h₁ : Text.isAllBlank w₁) (h₂ : Text.isAllBlank w₂) : a.Spells (w₁ ++ s ++ w₂) := by
  cases hs with
  | text h₁' h₂' =>
    simpa [List.append_assoc] using Argument.Spells.text
      (Text.isAllBlank_append.2 ⟨h₁, h₁'⟩) (Text.isAllBlank_append.2 ⟨h₂', h₂⟩)
  | call h₁' h₂' h₃' hn hs hb =>
    simpa [List.append_assoc] using Argument.Spells.call
      (Text.isAllBlank_append.2 ⟨h₁, h₁'⟩) h₂' (Text.isAllBlank_append.2 ⟨h₃', h₂⟩) hn hs hb

end HostConsole
