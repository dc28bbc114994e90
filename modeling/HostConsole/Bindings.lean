import HostConsole.Value

/-! Variables and their values. Names are told apart by case, and each has one
value. The entries are kept in the order of their names. -/

namespace HostConsole

structure Bindings (C : Type) where
  entries : List (String × Value C)

namespace Bindings

variable {C : Type}

def empty : Bindings C :=
  ⟨[]⟩

def size (b : Bindings C) : Nat :=
  b.entries.length

def isEmpty (b : Bindings C) : Bool :=
  b.entries.isEmpty

def find? (b : Bindings C) (name : String) : Option (Value C) :=
  b.entries.lookup name

def contains (b : Bindings C) (name : String) : Bool :=
  (b.find? name).isSome

/-- An entry put in its place, instead of one with the same name. -/
def insertEntry (name : String) (v : Value C) :
    List (String × Value C) → List (String × Value C)
  | [] => [(name, v)]
  | (other, w) :: es =>
    if name = other then (name, v) :: es
    else if name < other then (name, v) :: (other, w) :: es
    else (other, w) :: insertEntry name v es

def insert (b : Bindings C) (name : String) (v : Value C) : Bindings C :=
  ⟨insertEntry name v b.entries⟩

/-! ### Lookup -/

theorem lookup_cons_ne {name n : String} (h : n ≠ name) (v : Value C)
    (es : List (String × Value C)) :
    ((name, v) :: es).lookup n = es.lookup n := by
  have : (n == name) = false := by simp [h]
  simp [List.lookup_cons, this]

theorem lookup_insertEntry (name n : String) (v : Value C) (es : List (String × Value C)) :
    (insertEntry name v es).lookup n = if n = name then some v else es.lookup n := by
  induction es with
  | nil =>
    by_cases h : n = name
    · simp [insertEntry, h]
    · simp [insertEntry, lookup_cons_ne h, h]
  | cons e es ih =>
    obtain ⟨other, w⟩ := e
    rw [insertEntry]
    by_cases hn : n = name
    · subst hn
      split
      · simp
      · next h => split <;> simp [lookup_cons_ne h, ih]
    · rw [if_neg hn]
      split
      · next h => rw [lookup_cons_ne hn, lookup_cons_ne (h ▸ hn)]
      · split
        · rw [lookup_cons_ne hn]
        · by_cases ho : n = other
          · simp [ho]
          · rw [lookup_cons_ne ho, lookup_cons_ne ho, ih, if_neg hn]

@[simp]
theorem find?_empty (n : String) : (empty : Bindings C).find? n = none :=
  rfl

@[simp]
theorem find?_insert (b : Bindings C) (name n : String) (v : Value C) :
    (b.insert name v).find? n = if n = name then some v else b.find? n :=
  lookup_insertEntry name n v b.entries

end Bindings

end HostConsole
