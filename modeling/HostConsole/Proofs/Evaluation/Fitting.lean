import HostConsole.Demo.Host
import HostConsole.Proofs.Evaluation.Coercion
import Mathlib.Logic.Basic

/-! What the coercion of an argument list comes to. Either all arguments are coerced, each to the
type of the parameter at its place, or none is, and the first that does not fit decides the fault.
What coercion gives is of its type, so it is kept where it is coerced again. -/

namespace HostConsole

variable {C : Type} [Described C]

/-! ### Single values -/

/-- What a value is coerced to: one of the type to itself, and a text to what it spells in the
type. -/
inductive Coerces : Value C → Ty → Value C → Prop where
  | kept {v : Value C} {type : Ty} (h : v.hasType type = true) : Coerces v type v
  | int {text : String} {n : Int32} (h : Integer.read (Text.trim text.toList) = .ok n) :
    Coerces (.string text) .int (.int n)
  | float {text : String} {x : Float32}
    (h : Floating.readSingle (Text.trim text.toList) = .ok x) :
    Coerces (.string text) .float (.float x)
  | double {text : String} {x : Float}
    (h : Floating.readDouble (Text.trim text.toList) = .ok x) :
    Coerces (.string text) .double (.double x)
  | bool {text : String} {b : Bool} (h : readBool text = some b) :
    Coerces (.string text) .bool (.bool b)
  | member {text name : String} {e : Enumeration} (h : e.find? text = some name) :
    Coerces (.string text) (.enum e) (.member e.name name)

/-- Why a text spells nothing in a type. -/
inductive Unread (text : String) : Ty → Reason → Prop where
  | int {e : Integer.ReadFault} (h : Integer.read (Text.trim text.toList) = .error e) :
    Unread text .int (.integer e)
  | float {e : Floating.ReadFault}
    (h : Floating.readSingle (Text.trim text.toList) = .error e) : Unread text .float (.floating e)
  | double {e : Floating.ReadFault}
    (h : Floating.readDouble (Text.trim text.toList) = .error e) :
    Unread text .double (.floating e)
  | bool (h : readBool text = none) : Unread text .bool .notBool
  | member {e : Enumeration} (h : e.find? text = none) :
    Unread text (.enum e) (.notMember e.members)

/-- Why a value does not fit a type. Only a text is ever converted, and never to an object. -/
inductive Misfits : Value C → Ty → Fault → Prop where
  | object (text name : String) :
    Misfits (.string text) (.object name) (.unsupportedType text (.object name))
  | unread {text : String} {type : Ty} {reason : Reason} (h : Unread text type reason) :
    Misfits (.string text) type (.coercion text type reason)
  | otherType {v : Value C} {type : Ty} (hs : ∀ text, v ≠ .string text)
    (h : v.hasType type = false) : Misfits v type (.coercion v.text type (.ofType v.typeName))

/-- What the coercion of a value comes to. -/
inductive Judges (v : Value C) (type : Ty) : Except Fault (Value C) → Prop where
  | fits {w : Value C} (h : Coerces v type w) : Judges v type (.ok w)
  | misfits {f : Fault} (h : Misfits v type f) : Judges v type (.error f)

theorem judges_coerceText {text : String} {type : Ty}
    (h : Value.hasType (C := C) (.string text) type = false) :
    Judges (C := C) (.string text) type (coerceText text type) := by
  cases type with
  | any | string => simp [Value.hasType] at h
  | object name => exact .misfits (.object text name)
  | int =>
    unfold coerceText
    dsimp only
    split
    · next n hn => exact .fits (.int hn)
    · next e he => exact .misfits (.unread (.int he))
  | float =>
    unfold coerceText
    dsimp only
    split
    · next x hx => exact .fits (.float hx)
    · next e he => exact .misfits (.unread (.float he))
  | double =>
    unfold coerceText
    dsimp only
    split
    · next x hx => exact .fits (.double hx)
    · next e he => exact .misfits (.unread (.double he))
  | bool =>
    unfold coerceText
    dsimp only
    split
    · next b hb => exact .fits (.bool hb)
    · next hb => exact .misfits (.unread (.bool hb))
  | enum e =>
    unfold coerceText
    dsimp only
    split
    · next name hn => exact .fits (.member hn)
    · next hn => exact .misfits (.unread (.member hn))

theorem judges_coerce (v : Value C) (type : Ty) : Judges v type (coerce v type) := by
  unfold coerce
  split
  · next h => exact .fits (.kept h)
  · next h =>
    rw [Bool.not_eq_true] at h
    split
    · next text => exact judges_coerceText h
    · next hs => exact .misfits (.otherType hs h)

theorem Coerces.coerce_eq {v w : Value C} {type : Ty} (h : Coerces v type w) :
    coerce v type = .ok w := by
  cases h with
  | kept h =>
    unfold coerce
    rw [if_pos h]
  | int h | float h | double h | bool h | member h => simp [coerce, Value.hasType, coerceText, h]

theorem coerce_eq_ok_iff {v w : Value C} {type : Ty} :
    coerce v type = .ok w ↔ Coerces v type w := by
  refine ⟨fun h => ?_, Coerces.coerce_eq⟩
  have hj := judges_coerce v type
  rw [h] at hj
  cases hj with
  | fits hw => exact hw

theorem Misfits.coerce_eq {v : Value C} {type : Ty} {f : Fault} (h : Misfits v type f) :
    coerce v type = .error f := by
  cases h with
  | object => rfl
  | unread h => cases h <;> simp [coerce, Value.hasType, coerceText, *]
  | otherType hs h =>
    unfold coerce
    rw [if_neg (by simp [h])]
    split
    · next text => exact absurd rfl (hs text)
    · rfl

theorem coerce_eq_error_iff {v : Value C} {type : Ty} {f : Fault} :
    coerce v type = .error f ↔ Misfits v type f := by
  refine ⟨fun h => ?_, Misfits.coerce_eq⟩
  have hj := judges_coerce v type
  rw [h] at hj
  cases hj with
  | misfits hf => exact hf

/-- A value that is of the type is not changed, and what is changed is a text. -/
theorem Coerces.eq_of_hasType {v w : Value C} {type : Ty} (h : Coerces v type w)
    (ht : v.hasType type = true) : w = v := by
  cases h with
  | kept => rfl
  | int | float | double | bool | member => simp [Value.hasType] at ht

theorem Coerces.eq_or_text {v w : Value C} {type : Ty} (h : Coerces v type w) :
    w = v ∨ ∃ text, v = .string text := by
  cases h with
  | kept => exact .inl rfl
  | int | float | double | bool | member => exact .inr ⟨_, rfl⟩

/-! ### Lists of arguments -/

/-- The argument at a place is there, and is coerced to the type of the parameter at that place. -/
def FitsAt (vs : List (Option (Value C))) (ps : List Parameter) (i : Nat) (w : Value C) : Prop :=
  ∃ v p, vs[i]? = some (some v) ∧ ps[i]? = some p ∧ Coerces v p.type w

/-- Why the argument at place `i` is not coerced: it is missing, or does not fit the type. -/
inductive Fails (i : Nat) : Option (Value C) → Ty → Fault → Prop where
  | missing (type : Ty) : Fails i none type (.nullArgument i type)
  | misfits {v : Value C} {type : Ty} {f : Fault} (h : Misfits v type f) : Fails i (some v) type f

/-- The first place whose argument is not coerced, and why, with places counted from `index`. -/
def FirstFails (index : Nat) (vs : List (Option (Value C))) (ps : List Parameter) (f : Fault) :
    Prop :=
  ∃ i, (∃ v p, vs[i]? = some v ∧ ps[i]? = some p ∧ Fails (i + index) v p.type f) ∧
    ∀ j < i, ∃ w, FitsAt vs ps j w

theorem fails_some_iff {i : Nat} {v : Value C} {type : Ty} {f : Fault} :
    Fails i (some v) type f ↔ coerce v type = .error f := by
  rw [coerce_eq_error_iff]
  constructor
  · rintro ⟨⟩
    assumption
  · exact .misfits

theorem exists_fitsAt_zero {v : Option (Value C)} {vs : List (Option (Value C))} {p : Parameter}
    {ps : List Parameter} :
    (∃ w, FitsAt (v :: vs) (p :: ps) 0 w) ↔ ∃ w u, v = some u ∧ coerce u p.type = .ok w := by
  simp [FitsAt, coerce_eq_ok_iff]

/-- An argument that is coerced does not fail. -/
theorem FitsAt.not_fails {vs : List (Option (Value C))} {ps : List Parameter} {i : Nat}
    {w : Value C} (h : FitsAt vs ps i w) {v : Option (Value C)} {p : Parameter}
    (hv : vs[i]? = some v) (hp : ps[i]? = some p) (k : Nat) (f : Fault) :
    ¬Fails k v p.type f := by
  obtain ⟨u, q, hu, hq, hc⟩ := h
  obtain rfl := Option.some.inj (hv.symm.trans hu)
  obtain rfl := Option.some.inj (hp.symm.trans hq)
  rw [fails_some_iff, hc.coerce_eq]
  simp

/-- An argument in front of others fails, or it is coerced and the first that fails is one of
those. -/
theorem firstFails_cons {index : Nat} {v : Option (Value C)} {vs : List (Option (Value C))}
    {p : Parameter} {ps : List Parameter} {f : Fault} :
    FirstFails index (v :: vs) (p :: ps) f ↔ Fails index v p.type f ∨
      (∃ w u, v = some u ∧ coerce u p.type = .ok w) ∧ FirstFails (index + 1) vs ps f := by
  rw [← exists_fitsAt_zero]
  unfold FirstFails
  rw [← Nat.or_exists_add_one]
  apply or_congr
  · simp
  · constructor
    · rintro ⟨i, ⟨u, q, hu, hq, hf⟩, hall⟩
      refine ⟨hall 0 (by omega), i, ⟨u, q, hu, hq, ?_⟩, fun j hj => hall (j + 1) (by omega)⟩
      rwa [show i + (index + 1) = i + 1 + index by omega]
    · rintro ⟨h₀, i, ⟨u, q, hu, hq, hf⟩, hall⟩
      refine ⟨i, ⟨u, q, hu, hq, ?_⟩, fun j hj => ?_⟩
      · rwa [show i + 1 + index = i + (index + 1) by omega]
      · cases j with
        | zero => exact h₀
        | succ j => exact hall j (by omega)

/-- The coercion of a list fails where an argument fails, and with the fault of the first. -/
theorem coerceFrom_eq_error_iff {index : Nat} {vs : List (Option (Value C))} {ps : List Parameter}
    (hn : vs.length = ps.length) {f : Fault} :
    coerceFrom index vs ps = .error f ↔ FirstFails index vs ps f := by
  induction ps generalizing index vs with
  | nil =>
    obtain rfl := List.length_eq_zero_iff.1 hn
    simp [coerceFrom, FirstFails]
  | cons p ps ih =>
    obtain _ | ⟨v, vs⟩ := vs
    · simp at hn
    have hlen : vs.length = ps.length := by simpa using hn
    rw [firstFails_cons]
    cases v with
    | none =>
      rw [coerceFrom]
      constructor
      · rintro ⟨⟩
        exact .inl (.missing p.type)
      · rintro (h | ⟨⟨w, u, hu, -⟩, -⟩)
        · cases h
          rfl
        · cases hu
    | some v =>
      rw [fails_some_iff]
      cases hv : coerce v p.type with
      | error e => simp [coerceFrom, hv, bind, Except.bind]
      | ok w =>
        rw [coerceFrom_cons hv, ← ih hlen]
        cases coerceFrom (index + 1) vs ps <;> simp [Except.map, hv]

/-- A list is coerced in full where no argument of it fails. -/
theorem exists_coerceFrom_iff {index : Nat} {vs : List (Option (Value C))} {ps : List Parameter}
    (hn : vs.length = ps.length) :
    (∃ ws, coerceFrom index vs ps = .ok ws) ↔ ∀ i < ps.length, ∃ w, FitsAt vs ps i w := by
  constructor
  · rintro ⟨ws, hws⟩ i hi
    obtain ⟨-, hall⟩ := fits_of_coerceFrom hn hws
    obtain ⟨v, w, hv, -, u, rfl, hc⟩ := hall i ps[i] (List.getElem?_eq_getElem hi)
    exact ⟨w, u, ps[i], hv, List.getElem?_eq_getElem hi, coerce_eq_ok_iff.1 hc⟩
  · intro hall
    cases h : coerceFrom index vs ps with
    | ok ws => exact ⟨ws, rfl⟩
    | error f =>
      obtain ⟨i, ⟨v, p, hv, hp, hf⟩, -⟩ := (coerceFrom_eq_error_iff hn).1 h
      obtain ⟨w, hw⟩ := hall i (List.getElem?_eq_some_iff.1 hp).1
      exact absurd hf (hw.not_fails hv hp _ f)

/-- Values that are of their types are kept. -/
theorem coerceFrom_of_hasType {index : Nat} {ws : List (Value C)} {ps : List Parameter}
    (hn : ws.length = ps.length)
    (ht : ∀ (i : Nat) (w : Value C) (p : Parameter), ws[i]? = some w → ps[i]? = some p →
      w.hasType p.type = true) :
    coerceFrom index (ws.map some) ps = .ok ws := by
  induction ps generalizing index ws with
  | nil =>
    obtain rfl := List.length_eq_zero_iff.1 hn
    simp [coerceFrom]
  | cons p ps ih =>
    obtain _ | ⟨w, ws⟩ := ws
    · simp at hn
    have hw : Coerces w p.type w := .kept (ht 0 w p (by simp) (by simp))
    have hrest : coerceFrom (index + 1) (ws.map some) ps = .ok ws := by
      apply ih (Nat.succ.inj hn)
      intro i u q hu hq
      exact ht (i + 1) u q (by simpa using hu) (by simpa using hq)
    rw [List.map_cons, coerceFrom_cons hw.coerce_eq, hrest]
    rfl

/-- What a coerced value has to do with the argument that it comes from. Only a text is changed,
and only where it is not of the type. -/
structure Converts (v : Value C) (type : Ty) (w : Value C) : Prop where
  coerces : Coerces v type w
  hasType : w.hasType type = true
  kept : v.hasType type = true → w = v
  changed : w ≠ v → ∃ text, v = .string text
  any : type = .any → w = v
  object : ∀ o, v = .object o → w = .object o

theorem Coerces.converts {v w : Value C} {type : Ty} (h : Coerces v type w) :
    Converts v type w where
  coerces := h
  hasType := hasType_of_coerce h.coerce_eq
  kept := h.eq_of_hasType
  changed hne := h.eq_or_text.resolve_left hne
  any ht := h.eq_of_hasType (by simp [ht, Value.hasType])
  object o ho := by
    rcases h.eq_or_text with rfl | ⟨text, rfl⟩
    · exact ho
    · cases ho

/-- The coercion of as many arguments as there are parameters is all or nothing. It succeeds where
each argument is there and fits, and then gives what each is coerced to, which is kept where it is
coerced again. Otherwise it ends with the fault of the first argument that is missing or does not
fit. -/
theorem coerceAll_all_or_first {vs : List (Option (Value C))} {ps : List Parameter}
    (hn : vs.length = ps.length) :
    ((∃ ws, coerceAll vs ps = .ok ws) ↔ ∀ i < ps.length, ∃ w, FitsAt vs ps i w) ∧
    (∀ ws, coerceAll vs ps = .ok ws → ws.length = vs.length ∧
      coerceAll (ws.map some) ps = .ok ws ∧
      ∀ (i : Nat) (w : Value C), ws[i]? = some w →
        ∃ (v : Value C) (p : Parameter),
          vs[i]? = some (some v) ∧ ps[i]? = some p ∧ Converts v p.type w) ∧
    ∀ f, coerceAll vs ps = .error f ↔
      ∃ i, (∃ v p, vs[i]? = some v ∧ ps[i]? = some p ∧ Fails i v p.type f) ∧
        ∀ j < i, ∃ w, FitsAt vs ps j w := by
  refine ⟨exists_coerceFrom_iff hn, fun ws hws => ?_, fun f => coerceFrom_eq_error_iff hn⟩
  obtain ⟨hlen, hall⟩ := fits_of_coerceFrom hn hws
  have hconv : ∀ (i : Nat) (w : Value C), ws[i]? = some w →
      ∃ (v : Value C) (p : Parameter),
        vs[i]? = some (some v) ∧ ps[i]? = some p ∧ Converts v p.type w := by
    intro i w hw
    have hi : i < ps.length := hlen ▸ (List.getElem?_eq_some_iff.1 hw).1
    obtain ⟨v, u, hv, hu, v, rfl, hc⟩ := hall i ps[i] (List.getElem?_eq_getElem hi)
    obtain rfl := Option.some.inj (hw.symm.trans hu)
    exact ⟨v, ps[i], hv, List.getElem?_eq_getElem hi, (coerce_eq_ok_iff.1 hc).converts⟩
  refine ⟨hlen.trans hn.symm, coerceFrom_of_hasType hlen fun i w p hw hp => ?_, hconv⟩
  obtain ⟨v, q, -, hq, hc⟩ := hconv i w hw
  obtain rfl := Option.some.inj (hp.symm.trans hq)
  exact hc.hasType

/-- An integer is no text, so it is not converted to another number. The argument that is missing
behind it does not come to be looked at. -/
theorem coerceAll_all_or_first_ship :
    let ps : List Parameter :=
      [⟨"status", .object "ShipStatus"⟩, ⟨"jumps", .int⟩, ⟨"speed", .float⟩, ⟨"on", .bool⟩]
    let ship : Value (Demo.Content Empty) := .object ⟨⟨3, 0⟩, .snapshot .initial⟩
    let vs := [some ship, some (.string " +07 "), some (.int 5), none]
    vs.length = ps.length ∧
      coerceAll vs ps = .error (.coercion "5" .float (.ofType "int")) ∧
      coerceAll (vs.take 2) (ps.take 2) = .ok [ship, .int 7] ∧
      coerceAll [some ship, some (.int 7)] (ps.take 2) = .ok [ship, .int 7] := by
  intro ps ship vs
  have hship : Coerces ship (.object "ShipStatus") ship := .kept rfl
  have hjumps : Coerces (C := Demo.Content Empty) (.string " +07 ") .int (.int 7) := .int rfl
  have htext : Value.text (C := Demo.Content Empty) (.int 5) = "5" := by
    have hwrite : Decimal.write 5 = ['5'] := by
      rw [Decimal.write, if_pos (by omega)]
      rfl
    show String.ofList (Decimal.write 5) = "5"
    rw [hwrite]
  have hspeed : Misfits (C := Demo.Content Empty) (.int 5) .float
      (.coercion "5" .float (.ofType "int")) := by
    rw [← htext]
    exact .otherType (by simp) rfl
  have hn : vs.length = ps.length := rfl
  have hn' : (vs.take 2).length = (ps.take 2).length := rfl
  obtain ⟨-, -, herror⟩ := coerceAll_all_or_first hn
  obtain ⟨-, hagain, -⟩ := coerceAll_all_or_first hn'
  have hok : coerceAll (vs.take 2) (ps.take 2) = .ok [ship, .int 7] := rfl
  refine ⟨hn, (herror _).2 ⟨2, ⟨_, _, rfl, rfl, .misfits hspeed⟩, fun j hj => ?_⟩, hok,
    (hagain _ hok).2.1⟩
  obtain rfl | rfl : j = 0 ∨ j = 1 := by omega
  · exact ⟨ship, ship, _, rfl, rfl, hship⟩
  · exact ⟨.int 7, _, _, rfl, rfl, hjumps⟩

end HostConsole
