import HostConsole.Proofs.Demo.Installed
import HostConsole.Proofs.Evaluation.Calls
import HostConsole.Proofs.Number.Reading
import HostConsole.Proofs.Session.Naming

/-! Sums on the calculator. An addition of additions is worked out in post-order, each on the
exact values of its two sides, up to the first that is out of range. -/

namespace HostConsole

namespace Demo

/-! ### Additions -/

/-- Integers added two at a time, each addition in parentheses of its own. -/
inductive Addition where
  | integer (n : Int32)
  | add (left right : Addition)

namespace Addition

/-- The exact sum. -/
def total : Addition → Int
  | integer n => n.toInt
  | add left right => left.total + right.total

def leaves : Addition → List Int32
  | integer n => [n]
  | add left right => left.leaves ++ right.leaves

/-- The two sides of each addition, in post-order. -/
def sides : Addition → List (Addition × Addition)
  | integer _ => []
  | add left right => left.sides ++ right.sides ++ [(left, right)]

/-- How an addition is typed. -/
def argument : Addition → Argument
  | integer n => .text (Integer.write n)
  | add left right => .call "Add" [left.argument, right.argument]

/-- What an addition gives where its sum is `n`. An integer alone is still a text. -/
def value {C : Type} : Addition → Int32 → Value C
  | integer _, n => .string (Integer.write n)
  | add _ _, n => .int n

theorem wellFormed_argument (t : Addition) : t.argument.WellFormed := by
  induction t with
  | integer n => exact .text (Integer.trimmed_write n) (Integer.unmarked_write n)
  | add left right hl hr =>
    refine .call (by decide) (by decide) (by decide) (by simp) ?_
    simpa using ⟨hl, hr⟩

theorem argument_ne_empty (t : Addition) : t.argument ≠ .text "" := by
  cases t with
  | integer n => exact fun h => Integer.write_ne_empty n (Argument.text.inj h)
  | add => nofun

theorem coerce_value {C : Type} [Described C] (t : Addition) (n : Int32) :
    coerce (t.value n : Value C) .int = .ok (.int n) := by
  cases t with
  | integer m => exact coerce_write n
  | add => rfl

end Addition

/-- The sum of the two sides of an addition. -/
def sumOf (p : Addition × Addition) : Int :=
  p.1.total + p.2.total

theorem checkedSum_cases (m n : Int32) :
    (∃ k, Calculator.checkedSum m n = .ok k ∧ k.toInt = m.toInt + n.toInt) ∨
      ¬Integer.InRange (m.toInt + n.toInt) ∧
        Calculator.checkedSum m n = .error (.ofMessage "integer overflow") := by
  have hcond : ((-Integer.smallest ≤ m.toInt + n.toInt : Bool) &&
      (m.toInt + n.toInt ≤ Integer.greatest : Bool)) = true ↔
        Integer.InRange (m.toInt + n.toInt) := by
    simp only [Bool.and_eq_true, decide_eq_true_eq]
    rfl
  unfold Calculator.checkedSum
  by_cases h : Integer.InRange (m.toInt + n.toInt)
  · exact .inl ⟨_, if_pos (hcond.2 h), Integer.toInt_ofInt_of_inRange h⟩
  · exact .inr ⟨h, if_neg (mt hcond.1 h)⟩

variable {H : Host}

/-- The operation that adds two integers. -/
def adding : Operation (host H) :=
  ⟨.calculator, Calculator.declarations.get ⟨0, Nat.zero_lt_succ _⟩⟩

/-- A run that adds the two sides of an addition. It has their exact sums, and its own is exact
unless it is out of range. -/
structure Adds (p : Addition × Addition) (r : Run (host H)) : Prop where
  operation : r.operation = adding
  arguments : ∃ m n : Int32, r.arguments.values = [.int m, .int n] ∧ m.toInt = p.1.total ∧
    n.toInt = p.2.total
  result : (∃ k : Int32, r.result = .ok (some (.int k)) ∧ k.toInt = sumOf p) ∨
    ¬Integer.InRange (sumOf p) ∧ r.result = .error (.ofMessage "integer overflow")

/-- What an addition comes to, with the runs it makes. -/
inductive Computes (t : Addition) :
    Except Fault (Option (host H).Value) → List (Run (host H)) → Prop where
  | exact {n : Int32} {rs : List (Run (host H))} (hn : n.toInt = t.total)
      (hall : ∀ p ∈ t.sides, Integer.InRange (sumOf p)) (hrs : List.Forall₂ Adds t.sides rs) :
      Computes t (.ok (some (t.value n))) rs
  | overflow {before after : List (Addition × Addition)} {p : Addition × Addition}
      {rs : List (Run (host H))} (ht : t.sides = before ++ p :: after)
      (hb : ∀ q ∈ before, Integer.InRange (sumOf q)) (hp : ¬Integer.InRange (sumOf p))
      (hrs : List.Forall₂ Adds (before ++ [p]) rs) :
      Computes t (.error (.invocation "Add" (.failed (.ofMessage "integer overflow")))) rs

namespace Computes

variable {left right : Addition} {rs ts : List (Run (host H))} {v w : Option (host H).Value}
  {f : Fault}

theorem exists_value {t : Addition} (h : Computes t (.ok v) rs) :
    ∃ n : Int32, v = some (t.value n) ∧ n.toInt = t.total := by
  cases h with
  | exact hn => exact ⟨_, rfl, hn⟩

theorem add_of_left (hl : Computes left (.error f) rs) (right : Addition) :
    Computes (left.add right) (.error f) rs := by
  cases hl with
  | @overflow before after p _ ht hb hp hrs =>
    have hsides : (left.add right).sides =
        before ++ p :: (after ++ right.sides ++ [(left, right)]) := by
      simp [Addition.sides, ht]
    exact .overflow hsides hb hp hrs

theorem add_of_right (hl : Computes left (.ok v) rs) (hr : Computes right (.error f) ts) :
    Computes (left.add right) (.error f) (rs ++ ts) := by
  cases hl with
  | exact hn hall hrs =>
  cases hr with
  | @overflow before after p _ ht hb hp hts =>
    have hsides : (left.add right).sides =
        left.sides ++ before ++ p :: (after ++ [(left, right)]) := by
      simp [Addition.sides, ht]
    have hbefore : ∀ q ∈ left.sides ++ before, Integer.InRange (sumOf q) :=
      List.forall_mem_append.2 ⟨hall, hb⟩
    refine .overflow hsides hbefore hp ?_
    rw [List.append_assoc]
    exact List.rel_append hrs hts

/-- The last run of an addition decides, where both sides have come to their sums. -/
theorem add_of_run (hl : Computes left (.ok v) rs) (hr : Computes right (.ok w) ts)
    {r : Run (host H)} (ha : Adds (left, right) r) :
    Computes (left.add right) r.outcome (rs ++ ts ++ [r]) := by
  cases hl with
  | exact hm hall hrs =>
  cases hr with
  | exact hn hall' hts =>
  have hinner : ∀ q ∈ left.sides ++ right.sides, Integer.InRange (sumOf q) :=
    List.forall_mem_append.2 ⟨hall, hall'⟩
  have hruns : List.Forall₂ Adds (left.add right).sides (rs ++ ts ++ [r]) :=
    List.rel_append (List.rel_append hrs hts) (.cons ha .nil)
  rcases ha.result with ⟨k, hk, hv⟩ | ⟨hout, hk⟩
  · have hres : r.outcome = .ok (some ((left.add right).value k)) := by
      rw [Run.outcome, hk]
      rfl
    have hlast : Integer.InRange (sumOf (left, right)) := hv ▸ Integer.inRange_toInt k
    rw [hres]
    refine .exact (t := left.add right) hv ?_ hruns
    exact List.forall_mem_append.2 ⟨hinner, List.forall_mem_singleton.2 hlast⟩
  · have hres : r.outcome =
        .error (.invocation "Add" (.failed (.ofMessage "integer overflow"))) := by
      rw [Run.outcome, hk, ha.operation]
      rfl
    have hsides : (left.add right).sides = left.sides ++ right.sides ++ (left, right) :: [] := rfl
    rw [hres]
    exact .overflow hsides hinner hout hruns

end Computes

/-! ### Evaluation -/

theorem run_adding {held : List (Kind H.Kind)} (hfree : .calculator ∉ held) {p : Progress (host H)}
    (hp : (.calculator : Kind H.Kind) ∈ Tracked.kinds p.targets) {a : Addition × Addition}
    {m n : Int32} (hm : m.toInt = a.1.total) (hn : n.toInt = a.2.total) :
    ∃ r : Run (host H), adding.run held ⟨[.int m, .int n]⟩ p = (r.outcome, p.perform r) ∧
      Adds a r := by
  obtain ⟨c, hc⟩ := Option.ne_none_iff_exists'.1 fun h => Tracked.find?_eq_none_iff.1 h hp
  let r : Run (host H) := ⟨p.nextRun, adding, ⟨[.int m, .int n]⟩,
    (Calculator.checkedSum m n).map fun k => some (.int k)⟩
  have hsum : sumOf a = m.toInt + n.toInt := by rw [sumOf, hm, hn]
  have hresult : r.result = (r.reply c).result := by
    change (Calculator.checkedSum m n).map _ =
      (Calculator.checkedSum m n >>= fun k => Except.ok (Value.int k)).map some
    cases Calculator.checkedSum m n <;> rfl
  refine ⟨r, Scope.run_eq_perform ⟨rfl, hfree, c, hc, hresult⟩, rfl, ⟨m, n, rfl, hm, hn⟩, ?_⟩
  rw [hsum]
  rcases checkedSum_cases m n with ⟨k, hk, hv⟩ | ⟨hout, hk⟩
  · exact .inl ⟨k, congrArg (Except.map _) hk, hv⟩
  · exact .inr ⟨hout, congrArg (Except.map _) hk⟩

/-- A scope in which additions can be worked out. -/
structure Calculates (s : Scope (host H)) : Prop where
  known : Session.operation? s.operations "Add" = some adding
  free : Kind.calculator ∉ s.held

theorem Calculates.admits {s : Scope (host H)} (hs : Calculates s) (left right : Addition)
    (m n : Int32) :
    s.Admits ⟨⟨"Add", [left.argument, right.argument]⟩,
      [some (left.value m), some (right.value n)]⟩ adding ⟨[.int m, .int n]⟩ where
  known := hs.known
  count := rfl
  first := Scope.beginsEmpty_cons left.argument_ne_empty _
  fits := by
    have hpair : coerceAll (C := (host H).Content) [some (left.value m), some (right.value n)]
        [⟨"a", .int⟩, ⟨"b", .int⟩] = .ok [.int m, .int n] := by
      rw [coerceAll, coerceFrom_cons (left.coerce_value m),
        coerceFrom_cons (right.coerce_value n)]
      rfl
    exact hpair

theorem resolve_addition {s : Scope (host H)} (hs : Calculates s) {t : Addition}
    (ht : ∀ n ∈ t.leaves, s.bindings.find? (Integer.write n) = none) {p : Progress (host H)}
    (hp : (.calculator : Kind H.Kind) ∈ Tracked.kinds p.targets) :
    ∃ res rs, s.resolve t.argument p = (res, p.performAll rs) ∧ Computes t res rs := by
  have htracked : ∀ rs, (.calculator : Kind H.Kind) ∈ Tracked.kinds (p.performAll rs).targets :=
    fun rs => by rwa [Progress.kinds_performAll]
  induction t generalizing p with
  | integer n =>
    have hv : s.valueOf (Integer.write n) = .string (Integer.write n) := by
      rw [Scope.valueOf, ht n (List.mem_singleton_self n), Option.getD_none]
    refine ⟨_, [], s.resolve_text _ p, ?_⟩
    rw [hv]
    exact .exact (t := .integer n) rfl (by simp [Addition.sides]) .nil
  | add left right hl hr =>
    have htl := fun n hn => ht n (List.mem_append_left right.leaves hn)
    have htr := fun n hn => ht n (List.mem_append_right left.leaves hn)
    obtain ⟨f | v, rs, h₁, hc₁⟩ := hl htl hp htracked
    · exact ⟨_, rs, Scope.resolve_pair_first h₁, hc₁.add_of_left right⟩
    obtain ⟨f | w, ts, h₂, hc₂⟩ := hr htr (htracked rs) fun ts => by
      rw [← Progress.performAll_append]
      exact htracked _
    all_goals rw [← Progress.performAll_append] at h₂
    · exact ⟨_, rs ++ ts, Scope.resolve_pair_second h₁ h₂, hc₁.add_of_right hc₂⟩
    obtain ⟨m, rfl, hm⟩ := hc₁.exists_value
    obtain ⟨n, rfl, hn⟩ := hc₂.exists_value
    obtain ⟨r, hrun, ha⟩ := run_adding (a := (left, right)) hs.free (htracked (rs ++ ts)) hm hn
    refine ⟨r.outcome, rs ++ ts ++ [r], ?_, hc₁.add_of_run hc₂ ha⟩
    calc s.resolve (left.add right).argument p
      _ = s.invoke "Add" [left.argument, right.argument] [some (left.value m), some (right.value n)]
          (p.performAll (rs ++ ts)) := Scope.resolve_pair h₁ h₂
      _ = adding.run s.held ⟨[.int m, .int n]⟩ (p.performAll (rs ++ ts)) :=
        congrFun (hs.admits left right m n).invoke_eq _
      _ = (r.outcome, (p.performAll (rs ++ ts)).perform r) := hrun
      _ = (r.outcome, p.performAll (rs ++ ts ++ [r])) := by rw [p.performAll_append (rs ++ ts)]; rfl

/-! ### Lines -/

/-- A line of additions comes to the exact sum if every sum on the way is in range. Otherwise it
fails at the first that is not, and nothing behind it runs. -/
theorem attempt_addition (settings : Settings) (actions : List (Action (host H)))
    {held : List (Kind H.Kind)} (hfree : .calculator ∉ held) {left right : Addition}
    {line : String} (hline : (left.add right).argument.Spells line.toList)
    (hunbound : ∀ n ∈ (left.add right).leaves,
      (installed settings actions).bindings.find? (Integer.write n) = none) :
    let s : Session (host H) := installed settings actions
    let o := s.attempt held line
    let t := left.add right
    ((∀ p ∈ t.sides, Integer.InRange (sumOf p)) →
      ∃ n : Int32, n.toInt = t.total ∧ o.result = .ok (some (.int n)) ∧
        List.Forall₂ Adds t.sides o.runs) ∧
    ((¬∀ p ∈ t.sides, Integer.InRange (sumOf p)) →
      ∃ before p after, t.sides = before ++ p :: after ∧
        (∀ q ∈ before, Integer.InRange (sumOf q)) ∧ ¬Integer.InRange (sumOf p) ∧
        o.result = .error (.invocation "Add" (.failed (.ofMessage "integer overflow"))) ∧
        List.Forall₂ Adds (before ++ [p]) o.runs) ∧
    (s.evaluate held line).result = o.result ∧ (s.evaluate held line).runs = o.runs := by
  intro s o t
  have hs : Calculates (s.scope held) := ⟨operation?_installed (i := 9) (by decide) rfl, hfree⟩
  have hp : (.calculator : Kind H.Kind) ∈ Tracked.kinds s.start.targets := by
    by_contra h
    obtain ⟨c, hc⟩ := exists_calculator
    exact absurd (hc.symm.trans (Tracked.find?_eq_none_iff.2 h)) (by simp)
  obtain ⟨res, rs, hres, hc⟩ := resolve_addition hs hunbound hp
  have ho : o = s.ended (res, s.start.performAll rs) := by
    let c : Call := ⟨"Add", [left.argument, right.argument]⟩
    have hw : c.WellFormed := Call.wellFormed_of_argument (left.add right).wellFormed_argument
    have hsplit : splitAssignment line.toList = none :=
      splitAssignment_of_spells (c := c) hline (by simp [c])
    have hattempt : o = s.ended ((s.scope held).resolve (.ofCall c) s.start) :=
      Session.Sound.attempt_spelled sound_installed held hsplit hw hline
    exact hattempt.trans (congrArg s.ended hres)
  have hruns : o.runs = rs := by
    rw [ho]
    exact s.start.runs_performAll rs
  have hresult : o.result = res := by rw [ho]; rfl
  refine ⟨fun hall => ?_, fun hnot => ?_, rfl, rfl⟩
  · rw [hruns, hresult]
    cases hc with
    | exact hn _ hrs => exact ⟨_, hn, rfl, hrs⟩
    | overflow ht _ hp => exact absurd (hall _ (by rw [ht]; simp)) hp
  · rw [hruns, hresult]
    cases hc with
    | exact _ hall => exact absurd hall hnot
    | overflow ht hb hp hrs => exact ⟨_, _, _, ht, hb, hp, rfl, hrs⟩

/-- The sum is in range again where the line has already failed. -/
theorem attempt_addition_overflow :
    let t : Addition := .add (.add (.integer 2147483647) (.integer 1)) (.integer (-2))
    let s : Session (host noHost) := installed ⟨true, false⟩ []
    let o := s.attempt [] "Add( Add(2147483647,1) , -2)"
    t.argument.Spells "Add( Add(2147483647,1) , -2)".toList ∧ Integer.InRange t.total ∧
      o.result = .error (.invocation "Add" (.failed (.ofMessage "integer overflow"))) ∧
      o.runs.length = 1 := by
  intro t s o
  have hmax : (Addition.integer 2147483647).argument.Spells "2147483647".toList := by
    have hwrite : Integer.write 2147483647 = "2147483647" := by decide +kernel
    exact hwrite ▸ Argument.spells_self _
  have hone : (Addition.integer 1).argument.Spells "1".toList := by
    have hwrite : Integer.write 1 = "1" := by decide +kernel
    exact hwrite ▸ Argument.spells_self _
  have htwo : (Addition.integer (-2)).argument.Spells " -2".toList := by
    have hwrite : Integer.write (-2) = "-2" := by decide +kernel
    rw [Addition.argument, hwrite]
    exact @Argument.Spells.text "-2" [' '] [] rfl rfl
  have hinner : (Addition.add (.integer 2147483647) (.integer 1)).argument.Spells
      " Add(2147483647,1) ".toList :=
    @Argument.Spells.call _ _ ["2147483647".toList, "1".toList] [' '] [] [' '] _ rfl rfl rfl rfl
      (by simpa using ⟨hmax, hone⟩) (.inr ⟨by simp, rfl⟩)
  have hline : t.argument.Spells "Add( Add(2147483647,1) , -2)".toList :=
    @Argument.Spells.call _ _ [" Add(2147483647,1) ".toList, " -2".toList] [] [] [] _ rfl rfl rfl
      rfl (by simpa using ⟨hinner, htwo⟩) (.inr ⟨by simp, rfl⟩)
  have hfirst : ¬Integer.InRange (sumOf (.integer 2147483647, .integer 1)) := by decide
  have hnot : ¬∀ p ∈ t.sides, Integer.InRange (sumOf p) := fun h => hfirst (h _ (.head _))
  have hfree : Kind.calculator ∉ ([] : List (Kind noHost.Kind)) := List.not_mem_nil
  obtain ⟨-, h, -⟩ := attempt_addition ⟨true, false⟩ [] hfree hline fun _ _ => rfl
  obtain ⟨before, p, after, ht, hb, hp, hresult, hruns⟩ := h hnot
  refine ⟨hline, by decide, hresult, ?_⟩
  cases before with
  | nil => exact hruns.length_eq.symm
  | cons q before =>
    obtain ⟨rfl, -⟩ := List.cons_eq_cons.1 ht
    exact absurd (hb _ (.head _)) hfirst

end Demo

end HostConsole
