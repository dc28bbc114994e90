import HostConsole.Coercion

/-! What coercion gives, and the faults that end it. A value is kept or is a text and read,
and what is read is of the type it is read as. -/

namespace HostConsole

/-- A fault of an argument: it is missing, or does not fit the type of its parameter. -/
inductive Fault.OfArgument : Fault → Prop where
  | null (index : Nat) (expected : Ty) : OfArgument (.nullArgument index expected)
  | unsupported (argument : String) (expected : Ty) :
    OfArgument (.unsupportedType argument expected)
  | misfit (argument : String) (expected : Ty) (reason : Reason) :
    OfArgument (.coercion argument expected reason)

variable {C : Type}

theorem coerceText_fault {text : String} {type : Ty} {f : Fault}
    (h : coerceText (C := C) text type = .error f) : f.OfArgument := by
  unfold coerceText at h
  cases type with
  | any => cases h
  | string => cases h
  | object name =>
    cases h
    exact .unsupported _ _
  | int | float | double | bool | enum =>
    dsimp only at h
    split at h
    · cases h
    · cases h
      exact .misfit _ _ _

variable [Described C]

theorem coerce_fault {v : Value C} {type : Ty} {f : Fault} (h : coerce v type = .error f) :
    f.OfArgument := by
  unfold coerce at h
  split at h
  · cases h
  · split at h
    · exact coerceText_fault h
    · cases h
      exact .misfit _ _ _

theorem coerceFrom_fault {index : Nat} {vs : List (Option (Value C))} {ps : List Parameter}
    {f : Fault} (h : coerceFrom index vs ps = .error f) : f.OfArgument := by
  induction vs generalizing index ps with
  | nil => simp [coerceFrom] at h
  | cons v vs ih =>
    cases ps with
    | nil => cases v <;> simp [coerceFrom] at h
    | cons p ps =>
      cases v with
      | none =>
        rw [coerceFrom] at h
        cases h
        exact .null _ _
      | some v =>
        rw [coerceFrom] at h
        cases hv : coerce v p.type with
        | error e =>
          rw [hv] at h
          cases h
          exact coerce_fault hv
        | ok w =>
          rw [hv] at h
          cases hvs : coerceFrom (index + 1) vs ps with
          | error e =>
            rw [hvs] at h
            cases h
            exact ih hvs
          | ok ws =>
            rw [hvs] at h
            cases h

/-! ### Single values -/

omit [Described C] in
theorem mem_of_coerceText_enum {text : String} {e : Enumeration} {w : Value C}
    (h : coerceText text (.enum e) = .ok w) : ∃ name ∈ e.members, w = .member e.name name := by
  simp only [coerceText] at h
  cases hf : e.find? text with
  | none =>
    rw [hf] at h
    cases h
  | some name =>
    rw [hf] at h
    cases h
    exact ⟨name, List.mem_of_find?_eq_some hf, rfl⟩

theorem hasType_of_coerceText {text : String} {type : Ty} {w : Value C}
    (h : coerceText text type = .ok w) : w.hasType type = true := by
  cases type with
  | any | string =>
    cases h
    rfl
  | object name => cases h
  | enum e =>
    obtain ⟨name, -, rfl⟩ := mem_of_coerceText_enum h
    exact beq_self_eq_true _
  | int | float | double | bool =>
    unfold coerceText at h
    dsimp only at h
    split at h
    · cases h
      rfl
    · cases h

omit [Described C] in
/-- Objects are never read from text. -/
theorem coerceText_ne_object (text : String) (type : Ty) (o : Object C) :
    coerceText text type ≠ .ok (.object o) := by
  intro h
  cases type with
  | any | string | object => cases h
  | enum e =>
    obtain ⟨name, -, hw⟩ := mem_of_coerceText_enum h
    cases hw
  | int | float | double | bool =>
    unfold coerceText at h
    dsimp only at h
    split at h <;> cases h

theorem eq_object_of_hasType {v : Value C} {name : String} (h : v.hasType (.object name) = true) :
    ∃ o, v = .object o ∧ Described.typeName o.content = name := by
  cases v with
  | object o => exact ⟨o, rfl, eq_of_beq h⟩
  | int | float | double | bool | string | member => cases h

theorem eq_member_of_hasType {v : Value C} {e : Enumeration} (h : v.hasType (.enum e) = true) :
    ∃ name, v = .member e.name name := by
  cases v with
  | member typeName name =>
    obtain rfl := eq_of_beq h
    exact ⟨name, rfl⟩
  | int | float | double | bool | string | object => cases h

/-- A value that is coerced is kept if it is of the type, and else it is a text. -/
theorem eq_or_text_of_coerce {v w : Value C} {type : Ty} (h : coerce v type = .ok w) :
    (w = v ∧ v.hasType type = true) ∨
      ∃ text, v = .string text ∧ coerceText text type = .ok w := by
  unfold coerce at h
  split at h
  · next ht =>
    cases h
    exact .inl ⟨rfl, ht⟩
  · split at h
    · exact .inr ⟨_, rfl, h⟩
    · cases h

theorem hasType_of_coerce {v w : Value C} {type : Ty} (h : coerce v type = .ok w) :
    w.hasType type = true := by
  rcases eq_or_text_of_coerce h with ⟨rfl, ht⟩ | ⟨text, -, hw⟩
  · exact ht
  · exact hasType_of_coerceText hw

theorem eq_of_coerce_object {v : Value C} {type : Ty} {o : Object C}
    (h : coerce v type = .ok (.object o)) : v = .object o := by
  rcases eq_or_text_of_coerce h with ⟨hv, -⟩ | ⟨text, -, hw⟩
  · exact hv.symm
  · exact absurd hw (coerceText_ne_object text type o)

theorem coerce_text_object (text name : String) :
    coerce (C := C) (.string text) (.object name) =
      .error (.unsupportedType text (.object name)) :=
  rfl

/-! ### Lists of arguments -/

/-- An argument that is present and coerced to the type of a parameter. -/
def Fits (p : Parameter) (v : Option (Value C)) (w : Value C) : Prop :=
  ∃ u, v = some u ∧ coerce u p.type = .ok w

theorem coerceFrom_cons {v w : Value C} {p : Parameter} (h : coerce v p.type = .ok w)
    (index : Nat) (vs : List (Option (Value C))) (ps : List Parameter) :
    coerceFrom index (some v :: vs) (p :: ps) =
      (coerceFrom (index + 1) vs ps).map (w :: ·) := by
  rw [coerceFrom, h]
  cases coerceFrom (index + 1) vs ps <;> rfl

/-- A coercion that succeeds pairs each argument with the parameter at its place. -/
theorem fits_of_coerceFrom {index : Nat} {vs : List (Option (Value C))} {ps : List Parameter}
    {ws : List (Value C)} (hn : vs.length = ps.length) (h : coerceFrom index vs ps = .ok ws) :
    ws.length = ps.length ∧ ∀ (i : Nat) (p : Parameter), ps[i]? = some p →
      ∃ v w, vs[i]? = some v ∧ ws[i]? = some w ∧ Fits p v w := by
  induction ps generalizing index vs ws with
  | nil =>
    obtain rfl := List.length_eq_zero_iff.1 hn
    cases h
    exact ⟨rfl, by simp⟩
  | cons p ps ih =>
    obtain _ | ⟨_ | v, vs⟩ := vs
    · cases hn
    · cases h
    · cases hv : coerce v p.type with
      | error f =>
        rw [coerceFrom, hv] at h
        cases h
      | ok w =>
        rw [coerceFrom_cons hv] at h
        cases hws : coerceFrom (index + 1) vs ps with
        | error f =>
          rw [hws] at h
          cases h
        | ok us =>
          rw [hws] at h
          cases h
          obtain ⟨hlen, hall⟩ := ih (Nat.succ.inj hn) hws
          refine ⟨congrArg Nat.succ hlen, fun i q hq => ?_⟩
          cases i with
          | zero =>
            cases hq
            exact ⟨some v, w, rfl, rfl, v, rfl, hv⟩
          | succ i => exact hall i q hq

/-- The first argument that cannot be coerced decides the fault. -/
theorem coerceFrom_error {index i : Nat} {vs : List (Option (Value C))} {ps : List Parameter}
    {p : Parameter} {v : Value C} {f : Fault} (hp : ps[i]? = some p) (hv : vs[i]? = some (some v))
    (hf : coerce v p.type = .error f)
    (hall : ∀ j < i, ∃ q u w, ps[j]? = some q ∧ vs[j]? = some u ∧ Fits q u w) :
    coerceFrom index vs ps = .error f := by
  induction i generalizing index vs ps with
  | zero =>
    obtain _ | ⟨_, ps⟩ := ps <;> cases hp
    obtain _ | ⟨_, vs⟩ := vs <;> cases hv
    rw [coerceFrom, hf]
    rfl
  | succ i ih =>
    obtain _ | ⟨q, ps⟩ := ps
    · cases hp
    obtain _ | ⟨u, vs⟩ := vs
    · cases hv
    obtain ⟨_, _, w, hq, hu, u', rfl, hw⟩ := hall 0 (Nat.zero_lt_succ i)
    cases hq
    cases hu
    rw [coerceFrom_cons hw, ih hp hv fun j hj => hall (j + 1) (Nat.succ_lt_succ hj)]
    rfl

end HostConsole
