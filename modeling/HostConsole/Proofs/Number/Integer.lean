import HostConsole.Number.Integer
import HostConsole.Proofs.Call.Spelling
import Mathlib.Algebra.Group.Int.Defs

/-! Integers in text. The digits that a number is written in have its value, and a value within
a limit is read without ever passing it. So every 32-bit integer is read back from its text,
which has neither white space in it nor any of the marks of a line. -/

namespace HostConsole

/-! ### Digits -/

namespace Decimal

theorem digit_digitChar :
    ∀ d < 10, isDigit (digitChar d) = true ∧ digitValue (digitChar d) = d := by
  decide

theorem isDigit_of_mem_write {n : Nat} {c : Char} (h : c ∈ write n) : isDigit c = true := by
  induction n using Nat.strong_induction_on with
  | _ n ih =>
    have hlast : isDigit (digitChar (n % 10)) = true := (digit_digitChar _ (by omega)).1
    rw [write] at h
    split at h
    next hn =>
      rw [List.mem_singleton.1 h, ← Nat.mod_eq_of_lt hn]
      exact hlast
    next hn =>
      rcases List.mem_append.1 h with h | h
      · exact ih (n / 10) (by omega) h
      · rwa [List.mem_singleton.1 h]

theorem write_ne_nil (n : Nat) : write n ≠ [] := by
  rw [write]
  split <;> simp

theorem valueFrom_append (acc : Nat) (ds es : List Char) :
    valueFrom acc (ds ++ es) = valueFrom (valueFrom acc ds) es :=
  List.foldl_append

theorem value_write (n : Nat) : value (write n) = n := by
  induction n using Nat.strong_induction_on with
  | _ n ih =>
    have hlast : digitValue (digitChar (n % 10)) = n % 10 := (digit_digitChar _ (by omega)).2
    rw [write]
    split
    next hn =>
      rw [Nat.mod_eq_of_lt hn] at hlast
      simp [value, valueFrom, hlast]
    next hn =>
      have hinit : valueFrom 0 (write (n / 10)) = n / 10 := ih (n / 10) (by omega)
      rw [value, valueFrom_append, hinit]
      simp only [valueFrom, List.foldl_cons, List.foldl_nil, hlast]
      omega

theorem le_valueFrom (acc : Nat) (ds : List Char) : acc ≤ valueFrom acc ds := by
  induction ds generalizing acc with
  | nil => exact Nat.le_refl acc
  | cons c ds ih =>
    have h : 10 * acc + digitValue c ≤ valueFrom acc (c :: ds) := ih _
    omega

/-- A digit is no mark of a line, no sign and no white space. -/
theorem isDigit_plain {c : Char} (h : isDigit c = true) :
    c ≠ '-' ∧ c ≠ '+' ∧ c ≠ '(' ∧ c ≠ ')' ∧ c ≠ ',' ∧ Text.isBlank c = false := by
  simp only [isDigit, Bool.and_eq_true, decide_eq_true_eq, Char.le_def, UInt32.le_iff_toNat_le] at h
  have hplain : ∀ n < 58, 48 ≤ n → Char.ofNat n ≠ '-' ∧ Char.ofNat n ≠ '+' ∧ Char.ofNat n ≠ '(' ∧
      Char.ofNat n ≠ ')' ∧ Char.ofNat n ≠ ',' ∧ Text.isBlank (Char.ofNat n) = false := by
    decide
  have hlow : 48 ≤ c.toNat := h.1
  have hhigh : c.toNat ≤ 57 := h.2
  simpa only [Char.ofNat_toNat] using hplain c.toNat (by omega) hlow

end Decimal

/-! ### Integers -/

namespace Integer

/-- The numbers that 32 bits have room for. -/
def InRange (i : Int) : Prop :=
  -2 ^ 31 ≤ i ∧ i ≤ 2 ^ 31 - 1
  deriving Decidable

theorem inRange_toInt (n : Int32) : InRange n.toInt :=
  ⟨n.le_toInt, Int.le_sub_one_of_lt n.toInt_lt⟩

theorem toInt_ofInt_of_inRange {i : Int} (h : InRange i) : (Int32.ofInt i).toInt = i :=
  Int32.toInt_ofInt_of_le h.1 (Int.lt_of_le_sub_one h.2)

theorem readDigits_of_le {limit : Nat} {overflow : ReadFault} {ds : List Char}
    (hd : ∀ c ∈ ds, Decimal.isDigit c = true) {acc : Nat}
    (hv : Decimal.valueFrom acc ds ≤ limit) :
    readDigits limit overflow acc ds = .ok (Decimal.valueFrom acc ds) := by
  induction ds generalizing acc with
  | nil => rfl
  | cons c ds ih =>
    have hc : Decimal.isDigit c = true := hd c List.mem_cons_self
    have hnext : 10 * acc + Decimal.digitValue c ≤ Decimal.valueFrom acc (c :: ds) :=
      Decimal.le_valueFrom _ ds
    rw [readDigits, if_pos hc, if_neg (by omega)]
    exact ih (fun d hm => hd d (List.mem_cons_of_mem c hm)) hv

theorem readMagnitude_write {limit : Nat} {overflow : ReadFault} {n : Nat} (h : n ≤ limit) :
    readMagnitude limit overflow (Decimal.write n) = .ok n := by
  have hv : Decimal.valueFrom 0 (Decimal.write n) = n := Decimal.value_write n
  have hread : readDigits limit overflow 0 (Decimal.write n) = .ok n := by
    rw [readDigits_of_le (fun c => Decimal.isDigit_of_mem_write) (by rwa [hv]), hv]
  obtain ⟨c, r, hw⟩ := List.exists_cons_of_ne_nil (Decimal.write_ne_nil n)
  rw [hw] at hread ⊢
  exact hread

theorem toList_write (n : Int32) : (write n).toList = Decimal.writeInt n.toInt := by
  rw [write, String.toList_ofList]

theorem read_of_unsigned {c : Char} (hm : c ≠ '-') (hp : c ≠ '+') (r : List Char) :
    read (c :: r) =
      (readMagnitude greatest .tooLarge (c :: r)).map fun n : Nat => Int32.ofInt n := by
  unfold read
  split
  · next h => cases h
  · next h =>
    cases h
    exact absurd rfl hm
  · next h =>
    cases h
    exact absurd rfl hp
  · next h =>
    cases h
    rfl

/-- An integer is read back from its text. -/
theorem read_write (n : Int32) : read (write n).toList = .ok n := by
  have hlow := n.le_toInt
  have hhigh := n.toInt_lt
  rw [toList_write, Decimal.writeInt]
  split
  next hn =>
    have hmag : n.toInt.natAbs ≤ smallest := by
      rw [smallest]
      omega
    have hback : -(n.toInt.natAbs : Int) = n.toInt := by omega
    rw [read, readMagnitude_write hmag]
    exact congrArg Except.ok ((congrArg Int32.ofInt hback).trans n.ofInt_toInt)
  next hn =>
    have hmag : n.toInt.natAbs ≤ greatest := by
      rw [greatest]
      omega
    have hback : (n.toInt.natAbs : Int) = n.toInt := by omega
    have hread : readMagnitude greatest .tooLarge (Decimal.write n.toInt.natAbs) =
        .ok n.toInt.natAbs := readMagnitude_write hmag
    obtain ⟨c, r, hw⟩ := List.exists_cons_of_ne_nil (Decimal.write_ne_nil n.toInt.natAbs)
    have hc : Decimal.isDigit c = true :=
      Decimal.isDigit_of_mem_write (n := n.toInt.natAbs) (by rw [hw]; exact List.mem_cons_self)
    obtain ⟨hminus, hplus, -⟩ := Decimal.isDigit_plain hc
    rw [hw] at hread ⊢
    rw [read_of_unsigned hminus hplus, hread]
    exact congrArg Except.ok ((congrArg Int32.ofInt hback).trans n.ofInt_toInt)

theorem plain_of_mem_write {n : Int32} {c : Char} (h : c ∈ (write n).toList) :
    c ≠ '(' ∧ c ≠ ')' ∧ c ≠ ',' ∧ Text.isBlank c = false := by
  have hdigit : ∀ m, c ∈ Decimal.write m → c ≠ '(' ∧ c ≠ ')' ∧ c ≠ ',' ∧ Text.isBlank c = false :=
    fun m hm => (Decimal.isDigit_plain (Decimal.isDigit_of_mem_write hm)).2.2
  rw [toList_write, Decimal.writeInt] at h
  split at h
  · rcases List.mem_cons.1 h with rfl | h
    · decide
    · exact hdigit _ h
  · exact hdigit _ h

theorem unmarked_write (n : Int32) : Call.Unmarked (write n).toList :=
  ⟨fun h => (plain_of_mem_write h).1 rfl, fun h => (plain_of_mem_write h).2.1 rfl,
    fun h => (plain_of_mem_write h).2.2.1 rfl⟩

theorem trimmed_write (n : Int32) : Text.Trimmed (write n).toList :=
  Text.trimmed_of_not_blank fun _ h => (plain_of_mem_write h).2.2.2

theorem write_ne_empty (n : Int32) : write n ≠ "" := by
  intro h
  have hread := read_write n
  rw [h] at hread
  cases hread

end Integer

end HostConsole
