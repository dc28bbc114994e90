/-! Sets of code points. A set is given by the points where membership changes, so
that two sets with the same members have the same form, and every combination of
sets is one merge. -/

namespace HostConsole

/-- A set of code points: the points where membership changes, in rising order.
Below the first of them nothing is a member. -/
structure CodePoints where
  switches : List Nat
  deriving DecidableEq

namespace CodePoints

/-! ### Membership -/

/-- Whether a point lies inside, from the switches ahead of a place inside or not. -/
def insideAt (point : Nat) : (inside : Bool) → (switches : List Nat) → Bool
  | inside, [] => inside
  | inside, s :: r => if point < s then inside else insideAt point (!inside) r

def containsPoint (s : CodePoints) (point : Nat) : Bool :=
  insideAt point false s.switches

def contains (s : CodePoints) (c : Char) : Bool :=
  s.containsPoint c.toNat

/-! ### Simple sets -/

def empty : CodePoints :=
  ⟨[]⟩

/-- The points from one to another, both included. -/
def range (first last : Nat) : CodePoints :=
  if first ≤ last then ⟨[first, last + 1]⟩ else empty

def single (c : Char) : CodePoints :=
  ⟨[c.toNat, c.toNat + 1]⟩

/-- Ranges of characters in rising order that do not touch. -/
def ofRanges (ranges : List (Char × Char)) : CodePoints :=
  ⟨ranges.flatMap fun r => [r.1.toNat, r.2.toNat + 1]⟩

/-- The points that stand for characters: all but the surrogates. -/
def scalars : CodePoints :=
  ⟨[0, 0xD800, 0xE000, 0x110000]⟩

/-! ### Combinations -/

def complement (s : CodePoints) : CodePoints :=
  match s.switches with
  | 0 :: r => ⟨r⟩
  | r => ⟨0 :: r⟩

/-- The switches of a combination of two sets, ahead of a place that is in the first
or not and in the second or not. -/
def merge (f : Bool → Bool → Bool) : (a b : Bool) → (xs ys : List Nat) → List Nat
  | _, _, [], [] => []
  | a, b, x :: xs, [] =>
    keep (f a b) (f (!a) b) x (merge f (!a) b xs [])
  | a, b, [], y :: ys =>
    keep (f a b) (f a (!b)) y (merge f a (!b) [] ys)
  | a, b, x :: xs, y :: ys =>
    if x < y then keep (f a b) (f (!a) b) x (merge f (!a) b xs (y :: ys))
    else if y < x then keep (f a b) (f a (!b)) y (merge f a (!b) (x :: xs) ys)
    else keep (f a b) (f (!a) (!b)) x (merge f (!a) (!b) xs ys)
  termination_by _ _ xs ys => xs.length + ys.length
where
  /-- A point is a switch of the combination only if it changes its membership. -/
  keep (before after : Bool) (point : Nat) (rest : List Nat) : List Nat :=
    if before = after then rest else point :: rest

/-- The set of the points whose memberships in two sets meet a condition, which must
fail where both do. -/
def combine (f : Bool → Bool → Bool) (s t : CodePoints) : CodePoints :=
  ⟨merge f false false s.switches t.switches⟩

def union (s t : CodePoints) : CodePoints :=
  combine (· || ·) s t

def inter (s t : CodePoints) : CodePoints :=
  combine (· && ·) s t

def diff (s t : CodePoints) : CodePoints :=
  combine (fun a b => a && !b) s t

def symmDiff (s t : CodePoints) : CodePoints :=
  combine (· != ·) s t

/-! ### Ranges -/

/-- Each switch to the inside with the last point before the next one. -/
def pairs : (switches : List Nat) → List (Nat × Nat)
  | first :: past :: r => (first, past - 1) :: pairs r
  | _ => []

/-- The characters of a set as ranges in rising order that do not touch, other than
across the surrogates. -/
def ranges (s : CodePoints) : List (Nat × Nat) :=
  pairs (s.inter scalars).switches

/-- The only character of a set, if it has just one. -/
def only? (s : CodePoints) : Option Char :=
  match s.ranges with
  | [(first, last)] => if first = last then some (Char.ofNat first) else none
  | _ => none

end CodePoints

end HostConsole
