import HostConsole.Proofs.Call.Spelling
import HostConsole.Proofs.Call.Tree

/-! The written form of a tree around a hole. What fills the hole stands in one place of
the text, and another argument can be written there instead. -/

namespace HostConsole

open Call

theorem intercalate_comma_append (ss : List (List Char)) (s : List Char) (ts : List (List Char)) :
    [','].intercalate (ss ++ s :: ts) =
      ss.flatMap (· ++ [',']) ++ s ++ ts.flatMap (',' :: ·) := by
  induction ss with
  | nil =>
    induction ts generalizing s with
    | nil => simp
    | cons t ts ih => simpa using ih t
  | cons r ss ih =>
    have hne : ss ++ s :: ts ≠ [] := by simp
    rw [List.cons_append, List.intercalate_cons_of_ne_nil hne, ih]
    simp

theorem exists_append_of_forall₂ {α β : Type} {R : α → β → Prop} {as bs : List α} {cs : List β}
    (h : List.Forall₂ R (as ++ bs) cs) :
    ∃ cs₁ cs₂, cs = cs₁ ++ cs₂ ∧ List.Forall₂ R as cs₁ ∧ List.Forall₂ R bs cs₂ := by
  induction as generalizing cs with
  | nil => exact ⟨[], cs, rfl, .nil, h⟩
  | cons a as ih =>
    cases h with
    | @cons _ c _ cs hac h =>
      obtain ⟨cs₁, cs₂, rfl, h₁, h₂⟩ := ih h
      exact ⟨c :: cs₁, cs₂, rfl, .cons hac h₁, h₂⟩

namespace Context

/-- The texts that stand before and behind a hole, with any white space next to it. -/
inductive Frames : Context → List Char → List Char → Prop where
  | hole {w₁ w₂ : List Char} (h₁ : Text.isAllBlank w₁) (h₂ : Text.isAllBlank w₂) :
      Frames .hole w₁ w₂
  | argument {name : String} {before after : List Argument} {K : Context}
      {ss ts : List (List Char)} {w₁ w₂ w₃ A B : List Char} (h₁ : Text.isAllBlank w₁)
      (h₂ : Text.isAllBlank w₂) (h₃ : Text.isAllBlank w₃)
      (hs : List.Forall₂ Argument.Spells before ss) (ht : List.Forall₂ Argument.Spells after ts)
      (hK : K.Frames A B) :
      Frames (.argument name before K after)
        (w₁ ++ name.toList ++ w₂ ++ '(' :: (ss.flatMap (· ++ [',']) ++ A))
        (B ++ ts.flatMap (',' :: ·) ++ ')' :: w₃)

theorem Frames.spells {K : Context} {A B : List Char} (h : K.Frames A B) {a : Argument}
    {s : List Char} (hs : a.Spells s) : (K.fill a).Spells (A ++ s ++ B) := by
  induction h with
  | hole h₁ h₂ => exact hs.pad h₁ h₂
  | @argument name before after K ss ts w₁ w₂ w₃ A B h₁ h₂ h₃ hss hts _ ih =>
    have hall : List.Forall₂ Argument.Spells (before ++ K.fill a :: after)
        (ss ++ (A ++ s ++ B) :: ts) := List.rel_append hss (.cons ih hts)
    obtain ⟨hn, hz⟩ := List.forall₂_iff_zip.1 hall
    have h : (fill (.argument name before K after) a).Spells _ :=
      .call h₁ h₂ h₃ hn (fun p hp => hz hp) (.inr ⟨by simp, rfl⟩)
    rw [intercalate_comma_append] at h
    simpa using h

theorem exists_frames {K : Context} {a : Argument} {s : List Char} (h : (K.fill a).Spells s) :
    ∃ A t B, s = A ++ t ++ B ∧ K.Frames A B ∧ a.Spells t := by
  induction K generalizing s with
  | hole => exact ⟨[], s, [], by simp, .hole rfl rfl, h⟩
  | argument name before K after ih =>
    rw [fill] at h
    cases h with
    | @call _ _ ss w₁ w₂ w₃ body h₁ h₂ h₃ hn hs hb =>
      have hall : List.Forall₂ Argument.Spells (before ++ K.fill a :: after) ss :=
        List.forall₂_iff_zip.2 ⟨hn, fun hp => hs _ hp⟩
      obtain ⟨ss₁, _, rfl, hss, hrest⟩ := exists_append_of_forall₂ hall
      cases hrest with
      | @cons _ t _ ts ha hts =>
        obtain ⟨A, G, B, rfl, hK, hG⟩ := ih ha
        obtain rfl : body = [','].intercalate (ss₁ ++ (A ++ G ++ B) :: ts) := by
          rcases hb with ⟨hnil, -⟩ | ⟨-, hb⟩
          · simp at hnil
          · exact hb
        refine ⟨_, G, _, ?_, .argument h₁ h₂ h₃ hss hts hK, hG⟩
        rw [intercalate_comma_append]
        simp

/-! ### Well-formed trees -/

theorem fill_ne_empty (K : Context) {a : Argument} (ha : a ≠ .text "") : K.fill a ≠ .text "" := by
  cases K with
  | hole => exact ha
  | argument => simp [fill]

/-- Arguments with another one in the hole do not become a single empty text. -/
theorem arguments_ne_empty (K : Context) {a : Argument} (ha : a ≠ .text "")
    (before after : List Argument) : before ++ K.fill a :: after ≠ [.text ""] := by
  intro h
  rcases List.append_eq_singleton_iff.1 h with ⟨-, h⟩ | ⟨-, h⟩
  · exact K.fill_ne_empty ha (List.cons.inj h).1
  · cases h

theorem wellFormed_arguments {before after : List Argument} {a b : Argument}
    (h : ∀ c ∈ before ++ a :: after, c.WellFormed) (hb : b.WellFormed) :
    ∀ c ∈ before ++ b :: after, c.WellFormed := by
  intro c hc
  rcases List.mem_append.1 hc with hc | hc
  · exact h c (List.mem_append_left _ hc)
  · rcases List.mem_cons.1 hc with rfl | hc
    · exact hb
    · exact h c (by simp [hc])

theorem wellFormed_fill {K : Context} {a b : Argument} (h : (K.fill a).WellFormed)
    (hb : b.WellFormed) (hne : b ≠ .text "") : (K.fill b).WellFormed := by
  induction K with
  | hole => exact hb
  | argument name before K after ih =>
    cases h with
    | call hn ht hu he ha =>
      refine .call hn ht hu (K.arguments_ne_empty hne before after) ?_
      exact wellFormed_arguments ha (ih (ha _ (by simp)))

theorem wellFormed_of_fill {K : Context} {a : Argument} (h : (K.fill a).WellFormed) :
    a.WellFormed := by
  induction K with
  | hole => exact h
  | argument name before K after ih =>
    cases h with
    | call hn ht hu he ha => exact ih (ha _ (by simp))

/-- What stands in a hole of a line is well formed as an argument. -/
theorem wellFormed_of_ofCall {c : Call} {K : Context} {a : Argument} (hw : c.WellFormed)
    (hc : Argument.ofCall c = K.fill a) (hK : K ≠ .hole) : a.WellFormed := by
  cases K with
  | hole => exact absurd rfl hK
  | argument name before K after =>
    obtain ⟨name', arguments⟩ := c
    obtain ⟨rfl, rfl⟩ := Argument.call.inj hc
    exact wellFormed_of_fill (hw.arguments (K.fill a) (by simp))

theorem exists_refilled {c : Call} {K : Context} {a b : Argument} (hw : c.WellFormed)
    (hc : Argument.ofCall c = K.fill a) (hK : K ≠ .hole) (hb : b.WellFormed)
    (hne : b ≠ .text "") :
    ∃ c', Argument.ofCall c' = K.fill b ∧ c'.WellFormed ∧ c'.name = c.name := by
  cases K with
  | hole => exact absurd rfl hK
  | argument name before K after =>
    obtain ⟨name', arguments⟩ := c
    obtain ⟨rfl, rfl⟩ := Argument.call.inj hc
    have hbK : (K.fill b).WellFormed := wellFormed_fill (hw.arguments (K.fill a) (by simp)) hb hne
    exact ⟨⟨name', before ++ K.fill b :: after⟩, rfl,
      ⟨hw.nonempty, hw.trimmed, hw.opens, K.arguments_ne_empty hne before after,
        wellFormed_arguments hw.arguments hbK⟩, rfl⟩

end Context

end HostConsole
