import HostConsole.Proofs.Evaluation.Fitting
import HostConsole.Proofs.Number.Integer

/-! What a text reads as where an integer is wanted. A text denotes a number if it has one sign at
most and then digits, and it is read as that number if 32 bits have room for it. Otherwise the
first problem from the left is reported, so digits that are too many already count before a
character behind them that is none. -/

namespace HostConsole

/-! ### Digits -/

namespace Decimal

/-- One or more digits. -/
structure IsNumeral (ds : List Char) : Prop where
  nonempty : ds ≠ []
  digits : ∀ c ∈ ds, isDigit c = true

theorem IsNumeral.head {c : Char} {ds : List Char} (h : IsNumeral (c :: ds)) :
    c ≠ '-' ∧ c ≠ '+' :=
  have hc := isDigit_plain (h.digits c List.mem_cons_self)
  ⟨hc.1, hc.2.1⟩

/-- Whether the digits that a text begins with, behind digits of value `acc`, pass a limit before
anything else follows. -/
def Passes (limit acc : Nat) (cs : List Char) : Prop :=
  ∃ ds, ds <+: cs ∧ (∀ c ∈ ds, isDigit c = true) ∧ limit < valueFrom acc ds

theorem passes_cons {limit acc : Nat} (hacc : acc ≤ limit) {c : Char} {cs : List Char} :
    Passes limit acc (c :: cs) ↔
      isDigit c = true ∧ Passes limit (10 * acc + digitValue c) cs := by
  constructor
  · rintro ⟨ds, hp, hd, hv⟩
    cases ds with
    | nil => exact absurd hv (Nat.not_lt.2 hacc)
    | cons d ds =>
      obtain ⟨rfl, hds⟩ := List.cons_prefix_cons.1 hp
      obtain ⟨hc, hd⟩ := List.forall_mem_cons.1 hd
      exact ⟨hc, ds, hds, hd, hv⟩
  · rintro ⟨hc, ds, hp, hd, hv⟩
    exact ⟨c :: ds, List.cons_prefix_cons.2 ⟨rfl, hp⟩, List.forall_mem_cons.2 ⟨hc, hd⟩, hv⟩

theorem Passes.lt {limit acc : Nat} {cs : List Char} (h : Passes limit acc cs) :
    limit < valueFrom acc cs := by
  obtain ⟨ds, ⟨es, rfl⟩, -, hv⟩ := h
  rw [valueFrom_append]
  exact Nat.lt_of_lt_of_le hv (le_valueFrom _ es)

theorem passes_of_lt {limit acc : Nat} {cs : List Char} (hd : ∀ c ∈ cs, isDigit c = true)
    (hv : limit < valueFrom acc cs) : Passes limit acc cs :=
  ⟨cs, List.prefix_rfl, hd, hv⟩

end Decimal

namespace Integer

open Decimal (IsNumeral Passes)

variable {limit acc : Nat} {overflow : ReadFault} {cs : List Char}

theorem readDigits_of_passes (hacc : acc ≤ limit) (h : Passes limit acc cs) :
    readDigits limit overflow acc cs = .error overflow := by
  induction cs generalizing acc with
  | nil => exact absurd h.lt (Nat.not_lt.2 hacc)
  | cons c cs ih =>
    obtain ⟨hc, h⟩ := (Decimal.passes_cons hacc).1 h
    rw [readDigits, if_pos hc]
    dsimp only
    split
    · rfl
    · next hnext => exact ih (Nat.not_lt.1 hnext) h

theorem readDigits_of_not_digits (hacc : acc ≤ limit) (h : ¬Passes limit acc cs)
    (hd : ¬∀ c ∈ cs, Decimal.isDigit c = true) :
    readDigits limit overflow acc cs = .error .invalidDigit := by
  induction cs generalizing acc with
  | nil => exact absurd (List.forall_mem_nil _) hd
  | cons c cs ih =>
    rw [readDigits]
    split
    · next hc =>
      have hnext : ¬limit < 10 * acc + Decimal.digitValue c := fun hlt =>
        h ⟨[c], ⟨cs, rfl⟩, by simpa using hc, hlt⟩
      dsimp only
      rw [if_neg hnext]
      refine ih (Nat.not_lt.1 hnext) (fun hp => h ((Decimal.passes_cons hacc).2 ⟨hc, hp⟩)) ?_
      exact fun hall => hd (List.forall_mem_cons.2 ⟨hc, hall⟩)
    · rfl

/-- What a text comes to where digits are expected. -/
inductive ReadsMagnitude (limit : Nat) (overflow : ReadFault) (cs : List Char) :
    Except ReadFault Nat → Prop where
  | value (hn : IsNumeral cs) (hp : ¬Passes limit 0 cs) :
      ReadsMagnitude limit overflow cs (.ok (Decimal.value cs))
  | passed (hp : Passes limit 0 cs) : ReadsMagnitude limit overflow cs (.error overflow)
  | other (hn : ¬IsNumeral cs) (hp : ¬Passes limit 0 cs) :
      ReadsMagnitude limit overflow cs (.error .invalidDigit)

theorem readsMagnitude (limit : Nat) (overflow : ReadFault) (cs : List Char) :
    ReadsMagnitude limit overflow cs (readMagnitude limit overflow cs) := by
  cases cs with
  | nil => exact .other (fun h => h.nonempty rfl) fun h => absurd h.lt (Nat.not_lt_zero limit)
  | cons c cs =>
    change ReadsMagnitude limit overflow (c :: cs) (readDigits limit overflow 0 (c :: cs))
    have hzero : 0 ≤ limit := Nat.zero_le limit
    by_cases hp : Passes limit 0 (c :: cs)
    · rw [readDigits_of_passes hzero hp]
      exact .passed hp
    by_cases hd : ∀ d ∈ c :: cs, Decimal.isDigit d = true
    · have hv : Decimal.valueFrom 0 (c :: cs) ≤ limit :=
        Nat.not_lt.1 fun hlt => hp (Decimal.passes_of_lt hd hlt)
      rw [readDigits_of_le hd hv]
      exact .value ⟨List.cons_ne_nil c cs, hd⟩ hp
    · rw [readDigits_of_not_digits hzero hp hd]
      exact .other (fun hn => hd hn.digits) hp

/-! ### Signs -/

/-- The number that a text denotes: one sign at most, and then digits. -/
inductive Denotes : List Char → Int → Prop where
  | plain {ds : List Char} (h : IsNumeral ds) : Denotes ds (Decimal.value ds)
  | plus {ds : List Char} (h : IsNumeral ds) : Denotes ('+' :: ds) (Decimal.value ds)
  | minus {ds : List Char} (h : IsNumeral ds) : Denotes ('-' :: ds) (-Decimal.value ds)

/-- A text that is not empty as its sign, which is negative or not, and what follows. -/
inductive Signed : List Char → Bool → List Char → Prop where
  | minus (r : List Char) : Signed ('-' :: r) true r
  | plus (r : List Char) : Signed ('+' :: r) false r
  | plain {c : Char} (hm : c ≠ '-') (hp : c ≠ '+') (r : List Char) : Signed (c :: r) false (c :: r)

/-- A magnitude with its sign. -/
def withSign (negative : Bool) (n : Nat) : Int :=
  if negative then -n else n

/-- The greatest magnitude that a number with a sign can have. -/
def limitOf (negative : Bool) : Nat :=
  if negative then smallest else greatest

def overflowOf (negative : Bool) : ReadFault :=
  if negative then .tooSmall else .tooLarge

variable {u r p : List Char} {negative : Bool} {i : Int}

theorem exists_signed (h : u ≠ []) : ∃ negative r, Signed u negative r := by
  obtain ⟨c, cs, rfl⟩ := List.exists_cons_of_ne_nil h
  by_cases hm : c = '-'
  · exact hm ▸ ⟨_, _, .minus cs⟩
  by_cases hp : c = '+'
  · exact hp ▸ ⟨_, _, .plus cs⟩
  · exact ⟨_, _, .plain hm hp cs⟩

theorem Signed.read_eq (h : Signed u negative r) :
    read u = (readMagnitude (limitOf negative) (overflowOf negative) r).map
      fun n => Int32.ofInt (withSign negative n) := by
  cases h with
  | minus => rfl
  | plus => rfl
  | plain hm hp r => exact read_of_unsigned hm hp r

theorem Signed.denotes_iff (h : Signed u negative r) :
    Denotes u i ↔ IsNumeral r ∧ i = withSign negative (Decimal.value r) := by
  constructor
  · intro hd
    cases h with
    | minus r =>
      cases hd with
      | plain hn => exact absurd rfl hn.head.1
      | minus hn => exact ⟨hn, rfl⟩
    | plus r =>
      cases hd with
      | plain hn => exact absurd rfl hn.head.2
      | plus hn => exact ⟨hn, rfl⟩
    | plain hm hp r =>
      cases hd with
      | plain hn => exact ⟨hn, rfl⟩
      | plus => exact absurd rfl hp
      | minus => exact absurd rfl hm
  · rintro ⟨hn, rfl⟩
    cases h with
    | minus => exact .minus hn
    | plus => exact .plus hn
    | plain => exact .plain hn

/-- A beginning of a text has the sign that the text has. -/
theorem Signed.of_prefix (h : Signed u negative r) (hp : p <+: u) (hne : p ≠ []) :
    ∃ q, Signed p negative q ∧ q <+: r := by
  obtain ⟨c, q, rfl⟩ := List.exists_cons_of_ne_nil hne
  cases h with
  | minus r =>
    obtain ⟨rfl, hq⟩ := List.cons_prefix_cons.1 hp
    exact ⟨q, .minus q, hq⟩
  | plus r =>
    obtain ⟨rfl, hq⟩ := List.cons_prefix_cons.1 hp
    exact ⟨q, .plus q, hq⟩
  | plain hm hplus r =>
    obtain ⟨rfl, hq⟩ := List.cons_prefix_cons.1 hp
    exact ⟨c :: q, .plain hm hplus q, hp⟩

theorem Signed.exists_prefix (h : Signed u negative r) {q : List Char} (hq : q <+: r)
    (hne : q ≠ []) : ∃ p, p <+: u ∧ Signed p negative q := by
  cases h with
  | minus r => exact ⟨'-' :: q, List.cons_prefix_cons.2 ⟨rfl, hq⟩, .minus q⟩
  | plus r => exact ⟨'+' :: q, List.cons_prefix_cons.2 ⟨rfl, hq⟩, .plus q⟩
  | plain hm hp r =>
    obtain ⟨d, q, rfl⟩ := List.exists_cons_of_ne_nil hne
    obtain ⟨rfl, -⟩ := List.cons_prefix_cons.1 hq
    exact ⟨_, hq, .plain hm hp q⟩

theorem not_denotes_nil : ¬Denotes [] i := by
  rintro ⟨h⟩
  exact h.nonempty rfl

/-- A text begins with one that denotes a number with some property. -/
def BeginsWith (u : List Char) (P : Int → Prop) : Prop :=
  ∃ p i, p <+: u ∧ Denotes p i ∧ P i

theorem not_beginsWith_nil {P : Int → Prop} : ¬BeginsWith [] P := by
  rintro ⟨p, i, hp, hd, -⟩
  rw [List.prefix_nil.1 hp] at hd
  exact not_denotes_nil hd

/-- The numbers that a text begins with are those that its digits begin with. -/
theorem Signed.beginsWith_iff (h : Signed u negative r) {P : Int → Prop} :
    BeginsWith u P ↔
      ∃ q, q <+: r ∧ IsNumeral q ∧ P (withSign negative (Decimal.value q)) := by
  constructor
  · rintro ⟨p, i, hp, hd, hi⟩
    have hne : p ≠ [] := by
      rintro rfl
      exact not_denotes_nil hd
    obtain ⟨q, hq, hqr⟩ := h.of_prefix hp hne
    obtain ⟨hn, rfl⟩ := hq.denotes_iff.1 hd
    exact ⟨q, hqr, hn, hi⟩
  · rintro ⟨q, hq, hn, hi⟩
    obtain ⟨p, hp, hs⟩ := h.exists_prefix hq hn.nonempty
    exact ⟨p, _, hp, hs.denotes_iff.2 ⟨hn, rfl⟩, hi⟩

theorem Signed.beginsWith_iff_passes (h : Signed u negative r) {P : Int → Prop}
    (hP : ∀ n, P (withSign negative n) ↔ limitOf negative < n) :
    BeginsWith u P ↔ Passes (limitOf negative) 0 r := by
  rw [h.beginsWith_iff]
  constructor
  · rintro ⟨q, hq, hn, hi⟩
    exact ⟨q, hq, hn.digits, (hP _).1 hi⟩
  · rintro ⟨q, hq, hd, hv⟩
    refine ⟨q, hq, ⟨?_, hd⟩, (hP _).2 hv⟩
    rintro rfl
    exact absurd hv (Nat.not_lt_zero _)

theorem Signed.not_beginsWith (h : Signed u negative r) {P : Int → Prop}
    (hP : ∀ n, ¬P (withSign negative n)) : ¬BeginsWith u P := by
  rw [h.beginsWith_iff]
  rintro ⟨q, -, -, hi⟩
  exact hP _ hi

/-! ### Reading -/

def IsLarge (i : Int) : Prop :=
  2 ^ 31 - 1 < i

def IsSmall (i : Int) : Prop :=
  i < -2 ^ 31

theorem not_beginsWith_outside_iff :
    ¬BeginsWith u IsLarge ∧ ¬BeginsWith u IsSmall ↔
      ∀ p i, p <+: u → Denotes p i → InRange i := by
  constructor
  · rintro ⟨hl, hs⟩ p i hp hd
    exact ⟨Int.not_lt.1 fun hi => hs ⟨p, i, hp, hd, hi⟩,
      Int.not_lt.1 fun hi => hl ⟨p, i, hp, hd, hi⟩⟩
  · intro h
    constructor
    · rintro ⟨p, i, hp, hd, hi⟩
      exact Int.not_le.2 hi (h p i hp hd).2
    · rintro ⟨p, i, hp, hd, hi⟩
      exact Int.not_le.2 hi (h p i hp hd).1

theorem isLarge_withSign (n : Nat) : IsLarge (withSign false n) ↔ limitOf false < n := by
  simp only [IsLarge, withSign, limitOf, greatest, Bool.false_eq_true, if_false]
  omega

theorem isSmall_withSign (n : Nat) : IsSmall (withSign true n) ↔ limitOf true < n := by
  simp only [IsSmall, withSign, limitOf, smallest, if_true]
  omega

theorem not_isLarge_withSign (n : Nat) : ¬IsLarge (withSign true n) := by
  simp only [IsLarge, withSign, if_true]
  omega

theorem not_isSmall_withSign (n : Nat) : ¬IsSmall (withSign false n) := by
  simp only [IsSmall, withSign, Bool.false_eq_true, if_false]
  omega

theorem inRange_withSign {n : Nat} (h : n ≤ limitOf negative) : InRange (withSign negative n) := by
  cases negative with
  | true =>
    simp only [limitOf, smallest, if_true] at h
    simp only [InRange, withSign, if_true]
    omega
  | false =>
    simp only [limitOf, greatest, Bool.false_eq_true, if_false] at h
    simp only [InRange, withSign, Bool.false_eq_true, if_false]
    omega

/-- What a text comes to where an integer is expected. -/
inductive Reads (u : List Char) : Except ReadFault Int32 → Prop where
  | value {n : Int32} (h : Denotes u n.toInt) : Reads u (.ok n)
  | empty (h : u = []) : Reads u (.error .empty)
  | tooLarge (h : BeginsWith u IsLarge) (hs : ¬BeginsWith u IsSmall) : Reads u (.error .tooLarge)
  | tooSmall (h : BeginsWith u IsSmall) (hl : ¬BeginsWith u IsLarge) : Reads u (.error .tooSmall)
  | invalidDigit (hne : u ≠ []) (hd : ∀ i, ¬Denotes u i) (hl : ¬BeginsWith u IsLarge)
      (hs : ¬BeginsWith u IsSmall) : Reads u (.error .invalidDigit)

theorem reads (u : List Char) : Reads u (read u) := by
  by_cases hne : u = []
  · subst hne
    exact .empty rfl
  obtain ⟨negative, r, h⟩ := exists_signed hne
  rw [h.read_eq]
  have hm := readsMagnitude (limitOf negative) (overflowOf negative) r
  generalize readMagnitude (limitOf negative) (overflowOf negative) r = m at hm
  cases hm with
  | value hn hp =>
    have hv : Decimal.value r ≤ limitOf negative :=
      Nat.not_lt.1 fun hlt => hp (Decimal.passes_of_lt hn.digits hlt)
    refine .value ?_
    rw [toInt_ofInt_of_inRange (inRange_withSign hv)]
    exact h.denotes_iff.2 ⟨hn, rfl⟩
  | passed hp =>
    cases negative with
    | true =>
      exact .tooSmall ((h.beginsWith_iff_passes isSmall_withSign).2 hp)
        (h.not_beginsWith not_isLarge_withSign)
    | false =>
      exact .tooLarge ((h.beginsWith_iff_passes isLarge_withSign).2 hp)
        (h.not_beginsWith not_isSmall_withSign)
  | other hn hp =>
    have hd : ∀ i, ¬Denotes u i := fun i hi => hn (h.denotes_iff.1 hi).1
    cases negative with
    | true =>
      exact .invalidDigit hne hd (h.not_beginsWith not_isLarge_withSign)
        (mt (h.beginsWith_iff_passes isSmall_withSign).1 hp)
    | false =>
      exact .invalidDigit hne hd (mt (h.beginsWith_iff_passes isLarge_withSign).1 hp)
        (h.not_beginsWith not_isSmall_withSign)

/-! ### Faults -/

theorem Denotes.not_outside {i : Int} (h : Denotes u i) (hi : InRange i) :
    ¬BeginsWith u IsLarge ∧ ¬BeginsWith u IsSmall := by
  have hne : u ≠ [] := by
    rintro rfl
    exact not_denotes_nil h
  obtain ⟨negative, r, hs⟩ := exists_signed hne
  obtain ⟨-, rfl⟩ := hs.denotes_iff.1 h
  cases negative with
  | true =>
    refine ⟨hs.not_beginsWith not_isLarge_withSign, fun hb => ?_⟩
    have hlt := ((hs.beginsWith_iff_passes isSmall_withSign).1 hb).lt
    exact absurd hi.1 (Int.not_le.2 ((isSmall_withSign _).2 hlt))
  | false =>
    refine ⟨fun hb => ?_, hs.not_beginsWith not_isSmall_withSign⟩
    have hlt := ((hs.beginsWith_iff_passes isLarge_withSign).1 hb).lt
    exact absurd hi.2 (Int.not_le.2 ((isLarge_withSign _).2 hlt))

theorem Denotes.unique {i j : Int} (h : Denotes u i) (h' : Denotes u j) : i = j := by
  have hne : u ≠ [] := by
    rintro rfl
    exact not_denotes_nil h
  obtain ⟨negative, r, hs⟩ := exists_signed hne
  exact (hs.denotes_iff.1 h).2.trans (hs.denotes_iff.1 h').2.symm

theorem read_eq_ok_iff {n : Int32} : read u = .ok n ↔ Denotes u n.toInt := by
  have h := reads u
  generalize read u = res at h
  constructor
  · rintro rfl
    cases h with
    | value h => exact h
  · intro hn
    obtain ⟨hl, hs⟩ := hn.not_outside (inRange_toInt n)
    cases h with
    | value h => rw [Int32.toInt_inj.1 (h.unique hn)]
    | empty h => exact absurd (h ▸ hn) not_denotes_nil
    | tooLarge h => exact absurd h hl
    | tooSmall h => exact absurd h hs
    | invalidDigit _ hd => exact absurd hn (hd _)

/-- Which fault is reported where a text is no integer. -/
theorem read_fault {e : ReadFault} (h : read u = .error e) :
    (e = .empty ↔ u = []) ∧ (e = .tooLarge ↔ BeginsWith u IsLarge) ∧
      (e = .tooSmall ↔ BeginsWith u IsSmall) ∧
      (e = .invalidDigit ↔ u ≠ [] ∧ ¬BeginsWith u IsLarge ∧ ¬BeginsWith u IsSmall) := by
  have hr := reads u
  rw [h] at hr
  have hne : ∀ {P : Int → Prop}, BeginsWith u P → u ≠ [] := by
    rintro P hb rfl
    exact not_beginsWith_nil hb
  cases hr with
  | empty hu => simp [hu, not_beginsWith_nil]
  | tooLarge hl hs => simp [hl, hs, hne hl]
  | tooSmall hs hl => simp [hl, hs, hne hs]
  | invalidDigit hu _ hl hs => simp [hu, hl, hs]

end Integer

/-! ### Coercion -/

section

variable {C : Type} [Described C]

theorem coerce_text_int (text : String) :
    (∃ n, Integer.read (Text.trim text.toList) = .ok n ∧
      coerce (.string text : Value C) .int = .ok (.int n)) ∨
    ∃ e, Integer.read (Text.trim text.toList) = .error e ∧
      coerce (.string text : Value C) .int = .error (.coercion text .int (.integer e)) := by
  cases h : Integer.read (Text.trim text.toList) with
  | ok n => exact .inl ⟨n, rfl, Coerces.coerce_eq (.int h)⟩
  | error e => exact .inr ⟨e, rfl, Misfits.coerce_eq (.unread (.int h))⟩

theorem coerce_text_eq_int_iff {text : String} {n : Int32} :
    coerce (.string text : Value C) .int = .ok (.int n) ↔
      Integer.Denotes (Text.trim text.toList) n.toInt := by
  rw [← Integer.read_eq_ok_iff]
  rcases coerce_text_int (C := C) text with ⟨m, hm, hc⟩ | ⟨e, he, hc⟩
  · simp [hm, hc]
  · simp [he, hc]

theorem coerce_write (n : Int32) :
    coerce (.string (Integer.write n) : Value C) .int = .ok (.int n) := by
  rw [coerce_text_eq_int_iff, Integer.trimmed_write]
  exact Integer.read_eq_ok_iff.1 (Integer.read_write n)

/-- The texts of the four faults differ. -/
theorem message_integer (e : Integer.ReadFault) :
    ((Reason.integer e).message = "cannot parse integer from empty string." ↔ e = .empty) ∧
      ((Reason.integer e).message = "number too large to fit in target type." ↔ e = .tooLarge) ∧
      ((Reason.integer e).message = "number too small to fit in target type." ↔ e = .tooSmall) ∧
      ((Reason.integer e).message = "invalid digit found in string." ↔ e = .invalidDigit) := by
  cases e <;> decide

variable (C) in
/-- A text is coerced to an integer if, the white space around it aside, it denotes a number that 32
bits have room for, and so the text of an integer gives it back. Any other text is refused: as
empty, as too large or too small where digits from the left on have already gone too far, and else
for a character that is no digit. -/
theorem coerce_integer_text (text : String) :
    let u := Text.trim text.toList
    let result : Except Fault (Value C) := coerce (.string text) .int
    (∀ i, (∃ n : Int32, n.toInt = i ∧ result = .ok (.int n)) ↔
      Integer.Denotes u i ∧ -2 ^ 31 ≤ i ∧ i ≤ 2 ^ 31 - 1) ∧
    ((¬∃ i, Integer.Denotes u i ∧ -2 ^ 31 ≤ i ∧ i ≤ 2 ^ 31 - 1) →
      ∃ type reason, result = .error (.coercion text type reason) ∧ type.name = "int" ∧
        (reason.message = "cannot parse integer from empty string." ↔ u = []) ∧
        (reason.message = "number too large to fit in target type." ↔
          ∃ start i, start <+: u ∧ Integer.Denotes start i ∧ 2 ^ 31 - 1 < i) ∧
        (reason.message = "number too small to fit in target type." ↔
          ∃ start i, start <+: u ∧ Integer.Denotes start i ∧ i < -2 ^ 31) ∧
        (reason.message = "invalid digit found in string." ↔
          u ≠ [] ∧ ∀ start i, start <+: u → Integer.Denotes start i →
            -2 ^ 31 ≤ i ∧ i ≤ 2 ^ 31 - 1)) ∧
    ∀ n : Int32, coerce (.string (Value.text (.int n : Value C))) .int =
      .ok (.int n : Value C) := by
  intro u result
  have hvalue : ∀ i, (∃ n : Int32, n.toInt = i ∧ result = .ok (.int n)) ↔
      Integer.Denotes u i ∧ Integer.InRange i := by
    intro i
    constructor
    · rintro ⟨n, rfl, hn⟩
      exact ⟨coerce_text_eq_int_iff.1 hn, Integer.inRange_toInt n⟩
    · rintro ⟨hd, hi⟩
      have hn : (Int32.ofInt i).toInt = i := Integer.toInt_ofInt_of_inRange hi
      exact ⟨Int32.ofInt i, hn, coerce_text_eq_int_iff.2 (hn.symm ▸ hd)⟩
  refine ⟨hvalue, fun hnone => ?_, coerce_write⟩
  rcases coerce_text_int (C := C) text with ⟨n, -, hn⟩ | ⟨e, he, hf⟩
  · exact absurd ⟨_, (hvalue _).1 ⟨n, rfl, hn⟩⟩ hnone
  · obtain ⟨hempty, hlarge, hsmall, hdigit⟩ := Integer.read_fault he
    obtain ⟨mempty, mlarge, msmall, mdigit⟩ := message_integer e
    refine ⟨.int, .integer e, hf, rfl, mempty.trans hempty, mlarge.trans hlarge,
      msmall.trans hsmall, ?_⟩
    rw [mdigit, hdigit, Integer.not_beginsWith_outside_iff]
    rfl

theorem coerce_integer_text_overlong :
    (∃ n : Int32, n.toInt = -7 ∧ coerce (.string " -007" : Value Empty) .int = .ok (.int n)) ∧
      (¬∃ i, Integer.Denotes (Text.trim " 2147483648x".toList) i ∧ -2 ^ 31 ≤ i ∧ i ≤ 2 ^ 31 - 1) ∧
      ∃ type reason, coerce (.string " 2147483648x" : Value Empty) .int =
          .error (.coercion " 2147483648x" type reason) ∧
        reason.message = "number too large to fit in target type." := by
  obtain ⟨hvalue, -⟩ := coerce_integer_text Empty " -007"
  obtain ⟨-, hfault, -⟩ := coerce_integer_text Empty " 2147483648x"
  have hdigits : Decimal.IsNumeral "007".toList := ⟨by decide, by simp [Decimal.isDigit]⟩
  have hseven : Integer.Denotes (Text.trim " -007".toList) (-7) := .minus hdigits
  have hnone : ¬∃ i, Integer.Denotes (Text.trim " 2147483648x".toList) i ∧
      -2 ^ 31 ≤ i ∧ i ≤ 2 ^ 31 - 1 := by
    rintro ⟨i, hd, hi⟩
    rw [← Integer.toInt_ofInt_of_inRange hi, ← Integer.read_eq_ok_iff] at hd
    cases hd
  have hstart : "2147483648".toList <+: Text.trim " 2147483648x".toList := by decide
  have hmany : Decimal.IsNumeral "2147483648".toList := ⟨by decide, by simp [Decimal.isDigit]⟩
  have hlarge : Integer.Denotes "2147483648".toList 2147483648 := .plain hmany
  obtain ⟨type, reason, hr, -, -, hmessage, -⟩ := hfault hnone
  exact ⟨(hvalue (-7)).2 ⟨hseven, by decide⟩, hnone, type, reason, hr,
    hmessage.2 ⟨_, _, hstart, hlarge, by decide⟩⟩

end

end HostConsole
