import HostConsole.Proofs.Evaluation.Fitting
import HostConsole.Proofs.Text.Alike
import HostConsole.Proofs.Text.Trim

/-! Members of an enumeration in text. A text spells the first member whose lower-case form it has
when it is trimmed. Members themselves are not trimmed, so one with white space around it is never
spelled by its own text, and one that comes behind another of the same lower-case form is spelled by
none. -/

namespace HostConsole

namespace Text

theorem lower_ne_nil (c : Char) : lower c ≠ [] := by
  unfold lower
  split
  · simp
  · split
    · simp
    · split <;> simp

theorem fold_append (s t : List Char) : fold (s ++ t) = fold s ++ fold t :=
  List.flatMap_append

theorem fold_eq_nil_iff {s : List Char} : fold s = [] ↔ s = [] := by
  rw [fold, List.flatMap_eq_nil_iff, List.eq_nil_iff_forall_not_mem]
  simp only [lower_ne_nil, imp_false]

/-- No character is lost in lower case, so white space that is cut off makes a difference. -/
theorem fold_trim_eq_iff {s : List Char} : fold (trim s) = fold s ↔ Trimmed s := by
  constructor
  · intro h
    obtain ⟨w₁, w₂, -, -, hs⟩ := exists_pad_trim s
    have hlen := congrArg List.length h
    conv_rhs at hlen => rw [hs, fold_append, fold_append]
    simp only [List.length_append] at hlen
    have h₁ : w₁ = [] := by
      rw [← fold_eq_nil_iff, ← List.length_eq_zero_iff]
      omega
    have h₂ : w₂ = [] := by
      rw [← fold_eq_nil_iff, ← List.length_eq_zero_iff]
      omega
    rw [h₁, h₂, List.nil_append, List.append_nil] at hs
    exact hs.symm
  · intro h
    rw [h]

end Text

namespace Enumeration

variable {e : Enumeration} {text other m : String}

/-- A text spells the first member with the lower-case form of the text between the white space. -/
theorem find?_eq_some_iff :
    e.find? text = some m ↔
      ∃ earlier later, e.members = earlier ++ m :: later ∧
        Text.fold m.toList = Text.fold (Text.trim text.toList) ∧
        ∀ n ∈ earlier, Text.fold n.toList ≠ Text.fold (Text.trim text.toList) := by
  have htrim : (Text.trimmed text).toList = Text.trim text.toList := String.toList_ofList
  rw [← htrim]
  exact Text.find?_alike_eq_some_iff

theorem find?_eq_none_iff :
    e.find? text = none ↔
      ∀ m ∈ e.members, Text.fold m.toList ≠ Text.fold (Text.trim text.toList) := by
  have htrim : (Text.trimmed text).toList = Text.trim text.toList := String.toList_ofList
  rw [← htrim]
  exact Text.find?_alike_eq_none_iff

theorem fold_of_find? (h : e.find? text = some m) :
    Text.fold m.toList = Text.fold (Text.trim text.toList) := by
  obtain ⟨_, _, -, hm, -⟩ := find?_eq_some_iff.1 h
  exact hm

theorem find?_congr
    (h : Text.fold (Text.trim text.toList) = Text.fold (Text.trim other.toList)) :
    e.find? text = e.find? other := by
  apply Option.ext
  intro m
  rw [find?_eq_some_iff, find?_eq_some_iff, h]

/-- A member that a text spells is spelled by its own text too, unless that is changed by trimming. -/
theorem find?_of_find? (h : e.find? text = some m) (hm : Text.Trimmed m.toList) :
    e.find? m = some m := by
  have hfold : Text.fold (Text.trim m.toList) = Text.fold (Text.trim text.toList) := by
    rw [hm]
    exact fold_of_find? h
  rw [find?_congr hfold, h]

/-- All members are spelled by their own texts exactly if trimming changes none and no two are the
same up to case. -/
theorem find?_self_iff :
    (∀ m ∈ e.members, e.find? m = some m) ↔
      (∀ m ∈ e.members, Text.Trimmed m.toList) ∧
        ∀ m ∈ e.members, ∀ n ∈ e.members, Text.alike m n = true → m = n := by
  constructor
  · intro h
    have htrim : ∀ m ∈ e.members, Text.Trimmed m.toList := fun m hm =>
      Text.fold_trim_eq_iff.1 (fold_of_find? (h m hm)).symm
    refine ⟨htrim, fun m hm n hn hmn => ?_⟩
    have hfold : Text.fold (Text.trim m.toList) = Text.fold (Text.trim n.toList) := by
      rw [htrim m hm, htrim n hn]
      exact Text.alike_iff.1 hmn
    have hfind : some m = some n := by rw [← h m hm, ← h n hn, find?_congr hfold]
    exact Option.some.inj hfind
  · rintro ⟨htrim, hunique⟩ m hm
    cases hf : e.find? m with
    | none =>
      refine absurd ?_ (find?_eq_none_iff.1 hf m hm)
      rw [htrim m hm]
    | some n =>
      have hn : n ∈ e.members := List.mem_of_find?_eq_some hf
      have hfold := fold_of_find? hf
      rw [htrim m hm] at hfold
      rw [hunique n hn m hm (Text.alike_iff.2 hfold)]

end Enumeration

/-! ### Coercion -/

variable {C : Type} [Described C] {e : Enumeration} {text m : String}

theorem coerce_text_eq_member_iff :
    coerce (.string text : Value C) (.enum e) = .ok (.member e.name m) ↔
      e.find? text = some m := by
  rw [coerce_eq_ok_iff]
  constructor
  · rintro ⟨⟩
    assumption
  · exact .member

theorem coerce_text_not_member (h : e.find? text = none) :
    coerce (.string text : Value C) (.enum e) =
      .error (.coercion text (.enum e) (.notMember e.members)) :=
  Misfits.coerce_eq (.unread (.member h))

variable (C) in
/-- A text is read as the first member with its lower-case form, the white space around the text
aside, and refused with a list of all members where there is none. So the result is a matter of the
lower-case form alone, and a result without white space around it is read as itself. All members are
read back from their texts exactly if none has white space around it and no two are the same up to
case. -/
theorem coerce_member_text (e : Enumeration) :
    (∀ text m, e.find? text = some m ↔
      ∃ earlier later, e.members = earlier ++ m :: later ∧
        Text.fold m.toList = Text.fold (Text.trim text.toList) ∧
        ∀ n ∈ earlier, Text.fold n.toList ≠ Text.fold (Text.trim text.toList)) ∧
    (∀ text, e.find? text = none ↔
      ∀ m ∈ e.members, Text.fold m.toList ≠ Text.fold (Text.trim text.toList)) ∧
    (∀ text,
      (∀ m, coerce (.string text : Value C) (.enum e) = .ok (.member e.name m) ↔
        e.find? text = some m) ∧
      (e.find? text = none ↔
        ∃ reason, coerce (.string text : Value C) (.enum e) =
            .error (.coercion text (.enum e) reason) ∧
          reason.message = "Expected one of: " ++ ", ".intercalate e.members ++ ".")) ∧
    (∀ text other, Text.fold (Text.trim text.toList) = Text.fold (Text.trim other.toList) →
      e.find? text = e.find? other) ∧
    (∀ text m, e.find? text = some m → Text.Trimmed m.toList → e.find? m = some m) ∧
    ((∀ m ∈ e.members,
        coerce (.string (Value.text (.member e.name m : Value C))) (.enum e) =
          .ok (.member e.name m : Value C)) ↔
      (∀ m ∈ e.members, Text.Trimmed m.toList) ∧
        ∀ m ∈ e.members, ∀ n ∈ e.members, m ≠ n → Text.alike m n = false) := by
  refine ⟨fun _ _ => Enumeration.find?_eq_some_iff, fun _ => Enumeration.find?_eq_none_iff,
    fun text => ⟨fun _ => coerce_text_eq_member_iff, ?refused⟩, fun _ _ => Enumeration.find?_congr,
    fun _ _ => Enumeration.find?_of_find?, ?back⟩
  case refused =>
    constructor
    · exact fun h => ⟨_, coerce_text_not_member h, rfl⟩
    · rintro ⟨reason, h, -⟩
      cases hf : e.find? text with
      | none => rfl
      | some m =>
        rw [coerce_text_eq_member_iff.2 hf] at h
        cases h
  case back =>
    have htext : ∀ m, Value.text (.member e.name m : Value C) = m := fun _ => rfl
    simp only [htext, coerce_text_eq_member_iff, Enumeration.find?_self_iff, ← Bool.not_eq_true,
      ne_eq, not_imp_not]

/-- A member with white space before it is passed over, and one in capitals comes too late. -/
theorem coerce_member_text_capitals :
    let e : Enumeration := ⟨"Weather", ["Sonnig", " Übel", "Übel", "ÜBEL"]⟩
    Text.fold (Text.trim "\u3000üBel".toList) = Text.fold (Text.trim "ÜBEL".toList) ∧
      e.find? "\u3000üBel" = some "Übel" ∧ e.find? "ÜBEL" = some "Übel" ∧
      Text.Trimmed "Übel".toList ∧ e.find? "Übel" = some "Übel" ∧
      coerce (.string "\u3000üBel" : Value Empty) (.enum e) = .ok (.member "Weather" "Übel") ∧
      (∃ reason, coerce (.string "Trüb" : Value Empty) (.enum e) =
          .error (.coercion "Trüb" (.enum e) reason) ∧
        reason.message = "Expected one of: Sonnig,  Übel, Übel, ÜBEL.") ∧
      ¬∀ m ∈ e.members, coerce (.string (Value.text (.member e.name m : Value Empty))) (.enum e) =
        .ok (.member e.name m : Value Empty) := by
  intro e
  obtain ⟨hfirst, hnone, hcoerce, hfold, hself, hback⟩ := coerce_member_text Empty e
  have halike : Text.fold (Text.trim "\u3000üBel".toList) =
      Text.fold (Text.trim "ÜBEL".toList) := by decide
  have hfind : e.find? "\u3000üBel" = some "Übel" :=
    (hfirst _ _).2 ⟨["Sonnig", " Übel"], ["ÜBEL"], rfl, by decide, by decide⟩
  have htrimmed : Text.Trimmed "Übel".toList := by decide
  have hrefused : e.find? "Trüb" = none := (hnone _).2 (by decide)
  refine ⟨halike, hfind, (hfold _ _ halike).symm.trans hfind, htrimmed, hself _ _ hfind htrimmed,
    ((hcoerce _).1 _).2 hfind, (hcoerce _).2.1 hrefused, fun h => ?_⟩
  have hunique := (hback.1 h).2 "Übel" (by decide) "ÜBEL" (by decide) (by decide)
  exact absurd hunique (by decide)

end HostConsole
