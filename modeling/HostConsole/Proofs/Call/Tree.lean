import HostConsole.Call.Basic

/-! The parts of a tree: its calls in post-order, its texts, and the places at which one
argument can stand for another. -/

namespace HostConsole

mutual

/-- The calls of an argument in post-order. -/
def Argument.calls : Argument → List Call
  | .text _ => []
  | .call name arguments => Argument.callsAll arguments ++ [⟨name, arguments⟩]

def Argument.callsAll : List Argument → List Call
  | [] => []
  | a :: as => a.calls ++ Argument.callsAll as

end

def Call.postorder (c : Call) : List Call :=
  (Argument.ofCall c).calls

mutual

/-- The texts of an argument, at any depth. -/
def Argument.texts : Argument → List String
  | .text content => [content]
  | .call _ arguments => Argument.textsAll arguments

def Argument.textsAll : List Argument → List String
  | [] => []
  | a :: as => a.texts ++ Argument.textsAll as

end

theorem Argument.eq_text_of_calls {a : Argument} (h : a.calls = []) :
    ∃ content, a = .text content := by
  cases a with
  | text content => exact ⟨content, rfl⟩
  | call name arguments => simp [calls] at h

theorem Argument.callsAll_append (as bs : List Argument) :
    callsAll (as ++ bs) = callsAll as ++ callsAll bs := by
  induction as with
  | nil => simp [callsAll]
  | cons a as ih => rw [List.cons_append, callsAll, callsAll, ih, List.append_assoc]

theorem Argument.textsAll_append (as bs : List Argument) :
    textsAll (as ++ bs) = textsAll as ++ textsAll bs := by
  induction as with
  | nil => simp [textsAll]
  | cons a as ih => rw [List.cons_append, textsAll, textsAll, ih, List.append_assoc]

/-- A tree with a hole for one argument. -/
inductive Context where
  | hole
  | argument (name : String) (before : List Argument) (inner : Context) (after : List Argument)

namespace Context

def fill : Context → Argument → Argument
  | .hole, a => a
  | .argument name before inner after, a => .call name (before ++ inner.fill a :: after)

/-- The calls outside the hole that come before those in it. -/
def earlier : Context → List Call
  | .hole => []
  | .argument _ before inner _ => Argument.callsAll before ++ inner.earlier

/-- The calls outside the hole that come after those in it. They have it among their
arguments, or stand behind it. -/
def later : Context → Argument → List Call
  | .hole, _ => []
  | .argument name before inner after, a =>
    inner.later a ++ Argument.callsAll after ++ [⟨name, before ++ inner.fill a :: after⟩]

theorem calls_fill (K : Context) (a : Argument) :
    (K.fill a).calls = K.earlier ++ a.calls ++ K.later a := by
  induction K with
  | hole => simp [fill, earlier, later]
  | argument name before inner after ih =>
    rw [fill, Argument.calls, Argument.callsAll_append, Argument.callsAll, ih, earlier, later]
    simp only [List.append_assoc]

mutual

/-- Each call of a tree stands in a hole of it, behind as many calls as the hole has before
it and the call among its own arguments. -/
theorem exists_fill_of_calls {i : Nat} {g : Call} :
    ∀ {a : Argument}, a.calls[i]? = some g → ∃ K : Context, a = K.fill (.ofCall g) ∧
      K.earlier.length + (Argument.callsAll g.arguments).length = i
  | .text content, h => by simp [Argument.calls] at h
  | .call name arguments, h => by
    rw [Argument.calls, List.getElem?_append] at h
    split at h
    · obtain ⟨before, K, after, rfl, hi⟩ := exists_fill_of_callsAll h
      refine ⟨.argument name before K after, rfl, ?_⟩
      rw [earlier, List.length_append, hi]
    · rw [List.getElem?_singleton] at h
      split at h
      · cases h
        refine ⟨.hole, rfl, ?_⟩
        dsimp only [earlier, List.length_nil]
        omega
      · cases h

theorem exists_fill_of_callsAll {i : Nat} {g : Call} :
    ∀ {as : List Argument}, (Argument.callsAll as)[i]? = some g →
      ∃ (before : List Argument) (K : Context) (after : List Argument),
        as = before ++ K.fill (.ofCall g) :: after ∧
        (Argument.callsAll before).length + K.earlier.length +
          (Argument.callsAll g.arguments).length = i
  | [], h => by simp [Argument.callsAll] at h
  | a :: as, h => by
    rw [Argument.callsAll, List.getElem?_append] at h
    split at h
    · obtain ⟨K, rfl, hi⟩ := exists_fill_of_calls h
      exact ⟨[], K, as, rfl, by simpa [Argument.callsAll] using hi⟩
    · obtain ⟨before, K, after, rfl, hi⟩ := exists_fill_of_callsAll h
      refine ⟨a :: before, K, after, rfl, ?_⟩
      rw [Argument.callsAll, List.length_append]
      omega

end

/-- The texts outside the hole. -/
def texts : Context → List String
  | .hole => []
  | .argument _ before inner after =>
    Argument.textsAll before ++ inner.texts ++ Argument.textsAll after

theorem texts_fill_subset (K : Context) (a : Argument) : K.texts ⊆ (K.fill a).texts := by
  induction K with
  | hole => simp [texts]
  | argument name before inner after ih =>
    rw [fill, Argument.texts, Argument.textsAll_append, Argument.textsAll, texts]
    intro x hx
    simp only [List.mem_append] at hx ⊢
    rcases hx with (hx | hx) | hx
    · exact .inl hx
    · exact .inr (.inl (ih hx))
    · exact .inr (.inr hx)

end Context

end HostConsole
