import HostConsole.Proofs.Evaluation.Relation
import HostConsole.Proofs.Text.Alike
import Mathlib.Data.List.Forall2

/-! Trees that differ in the case of their names only. A name is looked up without regard to case,
so such trees run the same operations on the same arguments and come to the same end. Two faults
repeat a name as it was typed, and they are all that can tell the trees apart. -/

namespace HostConsole

variable {H : Host}

/-- Trees of one shape with the same texts, whose names are pairwise the same up to case. -/
inductive Argument.Alike : Argument → Argument → Prop where
  | text (content : String) : Alike (.text content) (.text content)
  | call {m n : String} {as bs : List Argument} (hn : Text.fold m.toList = Text.fold n.toList)
      (h : List.Forall₂ Alike as bs) : Alike (.call m as) (.call n bs)

theorem beginsEmpty_of_alike {as bs : List Argument} (h : List.Forall₂ Argument.Alike as bs) :
    beginsEmpty as = beginsEmpty bs := by
  cases h with
  | nil => rfl
  | cons h _ =>
    cases h with
    | text content => rfl
    | call => rfl

/-- Names are known up to case. -/
theorem Session.operation?_congr (operations : List (Operation H)) {m n : String}
    (h : Text.fold m.toList = Text.fold n.toList) :
    Session.operation? operations m = Session.operation? operations n := by
  have halike : ∀ o : Operation H, Text.alike o.name m = Text.alike o.name n := fun o => by
    rw [Bool.eq_iff_iff, Text.alike_iff, Text.alike_iff, h]
  simp only [Session.operation?, halike]

namespace Evaluation

/-- Two ends of an evaluation that are the same, up to the name in the faults that repeat one. -/
inductive Agree {α : Type} :
    Except Fault α × Progress H → Except Fault α × Progress H → Prop where
  | same (e : Except Fault α × Progress H) : Agree e e
  | unknown (m n : String) (p : Progress H) :
      Agree (.error (.unknownCommand m), p) (.error (.unknownCommand n), p)
  | arity (signature m n arguments : String) (p : Progress H) :
      Agree (.error (.arityMismatch signature m arguments), p)
        (.error (.arityMismatch signature n arguments), p)

/-- Evaluations that end alike wherever they begin. -/
def Alike {α : Type} (x y : Evaluation H α) : Prop :=
  ∀ p, Agree (x p) (y p)

theorem Alike.bind {α β : Type} {x y : Evaluation H α} {f g : α → Evaluation H β}
    (h : Alike x y) (hf : ∀ v, Alike (f v) (g v)) : Alike (x >>= f) (y >>= g) := by
  intro p
  have hp := h p
  generalize hx : x p = e at hp
  generalize hy : y p = e' at hp
  cases hp with
  | same =>
    rcases e with ⟨f | v, q⟩
    · rw [bind_error hx, bind_error hy]
      exact .same _
    · rw [bind_ok hx, bind_ok hy]
      exact hf v q
  | unknown m n q =>
    rw [bind_error hx, bind_error hy]
    exact .unknown m n q
  | arity signature m n arguments q =>
    rw [bind_error hx, bind_error hy]
    exact .arity signature m n arguments q

theorem compositional_alike : Compositional (H := H) Alike :=
  ⟨fun _ _ => .same _, fun h hf => h.bind hf⟩

end Evaluation

namespace Scope

/-- Once the arguments are resolved, the name as it was typed counts for nothing. -/
theorem invoke_alike (s : Scope H) {m n : String} {as bs : List Argument}
    (hn : Text.fold m.toList = Text.fold n.toList) (h : List.Forall₂ Argument.Alike as bs)
    (vs : List (Option H.Value)) : Evaluation.Alike (s.invoke m as vs) (s.invoke n bs vs) := by
  intro p
  rw [invoke, invoke, Session.operation?_congr s.operations hn, beginsEmpty_of_alike h]
  cases Session.operation? s.operations n with
  | none => exact .unknown m n p
  | some o =>
    dsimp only
    split
    · exact .arity o.signature m n (resolvedText vs) p
    · exact .same _

mutual

theorem resolve_alike (s : Scope H) : ∀ {a b : Argument}, a.Alike b →
    Evaluation.Alike (s.resolve a) (s.resolve b)
  | .text _, _, .text _ => fun _ => .same _
  | .call m as, _, .call hn h => by
    rw [resolve, resolve]
    exact (resolveAll_alike s h).bind fun vs => s.invoke_alike hn h vs

theorem resolveAll_alike (s : Scope H) : ∀ {as bs : List Argument},
    List.Forall₂ Argument.Alike as bs → Evaluation.Alike (s.resolveAll as) (s.resolveAll bs)
  | [], _, .nil => fun _ => .same _
  | a :: as, _, .cons h hs => by
    rw [resolveAll, resolveAll]
    exact (resolve_alike s h).bind fun v =>
      (resolveAll_alike s hs).bind fun vs => Evaluation.compositional_alike.constant _

end

end Scope

end HostConsole
