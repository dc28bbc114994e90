import HostConsole.Proofs.Call.Context
import HostConsole.Proofs.Evaluation.Relation

/-! A name for the value of a call. Where the call is the first to run, the rest of a tree
comes to the same with the call in it and with a name that is bound to its value: nothing
else reads the name, and what has run before only stands in front of the record. -/

namespace HostConsole

variable {H : Host}

namespace Evaluation

theorem bind_congr {α β : Type} {x y : Evaluation H α} {p q : Progress H} (h : x p = y q)
    {f g : α → Evaluation H β} (hfg : ∀ v r, f v r = g v r) : (x >>= f) p = (y >>= g) q := by
  rcases hx : x p with ⟨e | v, r⟩
  · rw [bind_error hx, bind_error (h.symm.trans hx)]
  · rw [bind_ok hx, bind_ok (h.symm.trans hx), hfg]

end Evaluation

/-! ### A further name -/

namespace Scope

variable (s : Scope H)

/-- The scope with one more variable. -/
def bind (name : String) (v : H.Value) : Scope H :=
  { s with bindings := s.bindings.insert name v }

theorem valueOf_bind_self (name : String) (v : H.Value) : (s.bind name v).valueOf name = v := by
  simp [valueOf, bind]

theorem valueOf_bind_of_ne {name text : String} (h : text ≠ name) (v : H.Value) :
    (s.bind name v).valueOf text = s.valueOf text := by
  simp [valueOf, bind, h]

theorem resolve_text (content : String) (p : Progress H) :
    s.resolve (.text content) p = (.ok (some (s.valueOf content)), p) := by
  rw [resolve]
  rfl

theorem invoke_bind (x : String) (v : H.Value) (name : String) {as bs : List Argument}
    (h : beginsEmpty as = beginsEmpty bs) (vs : List (Option H.Value)) :
    (s.bind x v).invoke name as vs = s.invoke name bs vs := by
  unfold invoke
  rw [h]
  rfl

mutual

theorem resolve_bind (x : String) (v : H.Value) : ∀ (a : Argument) (p : Progress H),
    x ∉ a.texts → (s.bind x v).resolve a p = s.resolve a p
  | .text content, p, h => by
    have hne : content ≠ x := fun he => h (by simp [Argument.texts, he])
    rw [resolve_text, resolve_text, s.valueOf_bind_of_ne hne]
  | .call name arguments, p, h => by
    rw [Argument.texts] at h
    rw [resolve, resolve]
    refine Evaluation.bind_congr (resolveAll_bind x v arguments p h) fun vs r => ?_
    rw [s.invoke_bind x v name rfl]

theorem resolveAll_bind (x : String) (v : H.Value) : ∀ (as : List Argument) (p : Progress H),
    x ∉ Argument.textsAll as → (s.bind x v).resolveAll as p = s.resolveAll as p
  | [], p, _ => by rw [resolveAll, resolveAll]
  | a :: as, p, h => by
    rw [Argument.textsAll, List.mem_append, not_or] at h
    rw [resolveAll, resolveAll]
    refine Evaluation.bind_congr (resolve_bind x v a p h.1) fun w r => ?_
    exact Evaluation.bind_congr (resolveAll_bind x v as r h.2) fun _ _ => rfl

end

/-! ### The first call of a tree -/

theorem resolveAll_around {x : String} {v : H.Value} {before after : List Argument}
    {a b : Argument} {p q : Progress H} (hc : Argument.callsAll before = [])
    (hb : x ∉ Argument.textsAll before) (ha : x ∉ Argument.textsAll after)
    (h : s.resolve a p = (s.bind x v).resolve b q) :
    s.resolveAll (before ++ a :: after) p =
      (s.bind x v).resolveAll (before ++ b :: after) q := by
  induction before with
  | nil =>
    rw [List.nil_append, List.nil_append, resolveAll, resolveAll]
    refine Evaluation.bind_congr h fun w r => ?_
    exact Evaluation.bind_congr (s.resolveAll_bind x v after r ha).symm fun _ _ => rfl
  | cons t before ih =>
    rw [Argument.callsAll, List.append_eq_nil_iff] at hc
    rw [Argument.textsAll, List.mem_append, not_or] at hb
    obtain ⟨content, rfl⟩ := Argument.eq_text_of_calls hc.1
    have hne : content ≠ x := fun he => hb.1 (by simp [Argument.texts, he])
    rw [List.cons_append, List.cons_append, resolveAll, resolveAll,
      Evaluation.bind_ok (s.resolve_text content p),
      Evaluation.bind_ok ((s.bind x v).resolve_text content q), s.valueOf_bind_of_ne hne]
    exact Evaluation.bind_congr (ih hc.2 hb.2) fun _ _ => rfl

theorem resolveAll_around_error {before after : List Argument} {a : Argument} {f : Fault}
    {p q : Progress H} (hc : Argument.callsAll before = [])
    (h : s.resolve a p = (.error f, q)) :
    s.resolveAll (before ++ a :: after) p = (.error f, q) := by
  induction before with
  | nil =>
    rw [List.nil_append, resolveAll]
    exact Evaluation.bind_error h _
  | cons t before ih =>
    rw [Argument.callsAll, List.append_eq_nil_iff] at hc
    obtain ⟨content, rfl⟩ := Argument.eq_text_of_calls hc.1
    rw [List.cons_append, resolveAll, Evaluation.bind_ok (s.resolve_text content p)]
    exact Evaluation.bind_error (ih hc.2) _

theorem beginsEmpty_cons {a : Argument} (h : a ≠ .text "") (as : List Argument) :
    beginsEmpty (a :: as) = false := by
  cases a with
  | text content =>
    have hne : content ≠ "" := fun he => h (by rw [he])
    simpa [beginsEmpty] using hne
  | call => rfl

theorem beginsEmpty_around {a b : Argument} (ha : a ≠ .text "") (hb : b ≠ .text "")
    (before after : List Argument) :
    beginsEmpty (before ++ a :: after) = beginsEmpty (before ++ b :: after) := by
  cases before with
  | nil => rw [List.nil_append, List.nil_append, beginsEmpty_cons ha, beginsEmpty_cons hb]
  | cons t before => cases t <;> rfl

/-- A tree whose first call gives a value, and the tree with a name for it. -/
theorem resolve_fill {K : Context} {g : Call} {x : String} {v : H.Value} {p q : Progress H}
    (hK : K.earlier = []) (hx : x ∉ K.texts) (hne : x ≠ "")
    (h : s.resolve (.ofCall g) p = (.ok (some v), q)) :
    s.resolve (K.fill (.ofCall g)) p = (s.bind x v).resolve (K.fill (.text x)) q := by
  induction K with
  | hole => rw [Context.fill, Context.fill, h, resolve_text, valueOf_bind_self]
  | argument name before K after ih =>
    rw [Context.earlier, List.append_eq_nil_iff] at hK
    simp only [Context.texts, List.mem_append, not_or] at hx
    have hg : K.fill (.ofCall g) ≠ .text "" := K.fill_ne_empty (by simp [Argument.ofCall])
    have ht : K.fill (.text x) ≠ .text "" := K.fill_ne_empty (by simpa using hne)
    rw [Context.fill, Context.fill, resolve, resolve]
    refine Evaluation.bind_congr
      (s.resolveAll_around hK.1 hx.1.1 hx.2 (ih hK.2 hx.1.2)) fun vs r => ?_
    rw [s.invoke_bind x v name (beginsEmpty_around ht hg before after)]

theorem resolve_fill_error {K : Context} {g : Call} {f : Fault} {p q : Progress H}
    (hK : K.earlier = []) (h : s.resolve (.ofCall g) p = (.error f, q)) :
    s.resolve (K.fill (.ofCall g)) p = (.error f, q) := by
  induction K with
  | hole => exact h
  | argument name before K after ih =>
    rw [Context.earlier, List.append_eq_nil_iff] at hK
    rw [Context.fill, resolve]
    exact Evaluation.bind_error (s.resolveAll_around_error hK.1 (ih hK.2)) _

end Scope

/-! ### What is on record -/

/-- The progress with runs and entries in front of its own. -/
def Progress.behind (p : Progress H) (rs : List (Run H)) (log : List Entry) : Progress H :=
  { p with runs := rs ++ p.runs, log := log ++ p.log }

namespace Evaluation

/-- An evaluation that does not look at what is on record, and only adds to it. -/
def Appends {α : Type} (x : Evaluation H α) : Prop :=
  ∀ p rs log, x (p.behind rs log) = ((x p).1, (x p).2.behind rs log)

theorem Appends.bind {α β : Type} {x : Evaluation H α} {f : α → Evaluation H β}
    (hx : Appends x) (hf : ∀ v, Appends (f v)) : Appends (x >>= f) := by
  intro p rs log
  have h := hx p rs log
  rcases he : x p with ⟨e | v, r⟩
  · rw [he] at h
    rw [bind_error h, bind_error he]
  · rw [he] at h
    rw [bind_ok h, bind_ok he, hf v r rs log]

theorem compositional_appends :
    Compositional (H := H) fun x _ => Appends x where
  constant _ _ _ _ := rfl
  bind := Appends.bind

theorem appends_run (o : Operation H) (held : List H.Kind) (arguments : Arguments H.Content) :
    Appends (o.run held arguments) := by
  intro p rs log
  simp only [Operation.run, Progress.behind]
  cases Tracked.find? o.owner p.targets with
  | none => rfl
  | some state =>
    by_cases hh : o.owner ∈ held
    · simp only [if_pos hh]
    · simp only [if_neg hh]
      cases (o.declaration.body p.nextRun arguments state).result with
      | error f => simp [Progress.record]
      | ok v => simp [Progress.record, Progress.report]

end Evaluation

namespace Scope

/-- A tree looks at nothing that is on record. -/
theorem appends_resolve (s : Scope H) (a : Argument) : Evaluation.Appends (s.resolve a) :=
  resolve_related (s := s) (t := s) Evaluation.compositional_appends rfl
    (invoke_related_of_eq Evaluation.compositional_appends rfl fun o arguments =>
      Evaluation.appends_run o s.held arguments) a

end Scope

end HostConsole
