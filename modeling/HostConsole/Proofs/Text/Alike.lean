import HostConsole.Text.Alike
import Mathlib.Data.Char
import Mathlib.Data.List.Infix

/-! Texts that are the same up to case. They are those with one lower-case form, so the comparison
of ASCII letters that comes first never decides otherwise. A text begins with another up to case
where the lower-case forms do, however many characters they have. -/

namespace HostConsole.Text

theorem lower_toLower (c : Char) : lower c.toLower = lower c := by
  by_cases h : c.toNat < 0x80
  · have ascii : ∀ n < 0x80, lower (Char.ofNat n).toLower = lower (Char.ofNat n) := by decide
    simpa only [Char.ofNat_toNat] using ascii c.toNat h
  · have hn : c.val.toNat = c.toNat := rfl
    have same : c.toLower = c := dif_neg <| by
      simp only [UInt32.le_iff_toNat_le, Char.reduceVal, UInt32.reduceToNat]
      omega
    rw [same]

theorem fold_map_toLower (s : List Char) : fold (s.map Char.toLower) = fold s := by
  rw [fold, fold, List.flatMap_map]
  simp only [lower_toLower]

theorem fold_eq_of_alikeAscii {a b : List Char} (h : alikeAscii a b = true) : fold a = fold b := by
  rw [alikeAscii, beq_iff_eq] at h
  rw [← fold_map_toLower a, h, fold_map_toLower]

theorem alike_iff {a b : String} : alike a b = true ↔ fold a.toList = fold b.toList := by
  rw [alike, Bool.or_eq_true, beq_iff_eq]
  exact or_iff_right_of_imp fold_eq_of_alikeAscii

/-- The first of a list whose text is another up to case. -/
theorem find?_alike_eq_some_iff {α : Type} {f : α → String} {xs : List α} {text : String} {x : α} :
    xs.find? (fun y => alike (f y) text) = some x ↔
      ∃ earlier later, xs = earlier ++ x :: later ∧ fold (f x).toList = fold text.toList ∧
        ∀ y ∈ earlier, fold (f y).toList ≠ fold text.toList := by
  rw [List.find?_eq_some_iff_append]
  simp only [alike_iff, Bool.not_eq_true', ← Bool.not_eq_true]
  constructor
  · rintro ⟨hx, earlier, later, hxs, he⟩
    exact ⟨earlier, later, hxs, hx, he⟩
  · rintro ⟨earlier, later, hxs, hx, he⟩
    exact ⟨hx, earlier, later, hxs, he⟩

theorem find?_alike_eq_none_iff {α : Type} {f : α → String} {xs : List α} {text : String} :
    xs.find? (fun y => alike (f y) text) = none ↔
      ∀ y ∈ xs, fold (f y).toList ≠ fold text.toList := by
  simp only [List.find?_eq_none, alike_iff, ne_eq]

theorem equivalence_alike : Equivalence fun a b : String => alike a b = true := by
  simp only [alike_iff]
  exact ⟨fun _ => rfl, Eq.symm, Eq.trans⟩

theorem beginsAlike_iff {text start : String} :
    beginsAlike text start = true ↔ fold start.toList <+: fold text.toList :=
  List.isPrefixOf_iff_prefix

theorem beginsAlike_trans {a b c : String} (h : beginsAlike a b = true)
    (h' : beginsAlike b c = true) : beginsAlike a c = true :=
  beginsAlike_iff.2 ((beginsAlike_iff.1 h').trans (beginsAlike_iff.1 h))

theorem alike_iff_beginsAlike {a b : String} :
    alike a b = true ↔ beginsAlike a b = true ∧ beginsAlike b a = true := by
  rw [alike_iff, beginsAlike_iff, beginsAlike_iff]
  constructor
  · intro h
    rw [h]
    exact ⟨List.prefix_rfl, List.prefix_rfl⟩
  · rintro ⟨hb, ha⟩
    exact ha.eq_of_length_le hb.length_le

end HostConsole.Text
