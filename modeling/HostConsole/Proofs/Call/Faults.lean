import HostConsole.Proofs.Call.Reading

/-! Why a line is no call. A text is at fault as a call for what stands before its first
parenthesis and behind the one that closes it, its arguments aside. The fault of a line is that
of the first of its calls that is at fault, each call before those among its arguments. Only the
line itself can lack a closing parenthesis, since an argument closes what it opens. -/

namespace HostConsole.Call

/-- What is wrong with a text as a call, its arguments aside. A name that is missing is reported
before anything that is wrong behind it. -/
inductive AtFault : List Char → CallFault → Prop where
  | blank {t : List Char} (h : Text.isAllBlank t) : AtFault t .missingName
  | nameless {a : List Char} (h : Text.isAllBlank a) (b : List Char) :
      AtFault (a ++ '(' :: b) .missingName
  | unclosed {a b : List Char} (ha : '(' ∉ a) (hn : ¬Text.isAllBlank a)
      (hb : ∀ p, p <+: b → depth ('(' :: p) ≠ 0) : AtFault (a ++ '(' :: b) .unclosed
  | trailing {a body rest : List Char} (ha : '(' ∉ a) (hn : ¬Text.isAllBlank a)
      (hb : Balanced body) (hr : ¬Text.isAllBlank rest) :
      AtFault (a ++ '(' :: (body ++ ')' :: rest)) (.trailing (String.ofList (Text.trim rest)))

/-- The texts of the calls that a text has in it, in pre-order: its own first, and then those of
its arguments from left to right. Arguments without a parenthesis are no calls, and a text whose
first parenthesis is not closed has no arguments. -/
inductive Sites : List Char → List (List Char) → Prop where
  | bare {t : List Char} (h : '(' ∉ t) : Sites t [t]
  | unclosed {a b : List Char} (ha : '(' ∉ a) (hb : ∀ p, p <+: b → depth ('(' :: p) ≠ 0) :
      Sites (a ++ '(' :: b) [a ++ '(' :: b]
  | closed {a body rest : List Char} {ss : List (List Char)} {tss : List (List (List Char))}
      (ha : '(' ∉ a) (hb : Balanced body) (hss : IsBody ss body) (hp : ∀ s ∈ ss, IsPiece s)
      (hne : ∀ s, ss = [s] → ¬Text.isAllBlank s)
      (hn : (ss.filter (·.contains '(')).length = tss.length)
      (hs : ∀ p ∈ (ss.filter (·.contains '(')).zip tss, Sites p.1 p.2) :
      Sites (a ++ '(' :: (body ++ ')' :: rest)) ((a ++ '(' :: (body ++ ')' :: rest)) :: tss.flatten)

/-- The first of some texts that is at fault as a call has this fault. -/
def FirstFault (ts : List (List Char)) (f : CallFault) : Prop :=
  ∃ before t after, ts = before ++ t :: after ∧ AtFault t f ∧ ∀ u ∈ before, ∀ g, ¬AtFault u g

/-! ### Single texts -/

theorem splitClosing_eq_none_iff_depth {b : List Char} :
    splitClosing 0 b = none ↔ ∀ p, p <+: b → depth ('(' :: p) ≠ 0 := by
  have hopen : ∀ p, depth ('(' :: p) = ((0 : Nat) : Int) + 1 + depth p := fun p => by
    have h := add_depth_cons (d := 0) (c := '(') (by simp) p
    simpa [depthAfter] using h
  simp only [splitClosing_eq_none_iff, hopen]

/-- The faults of a text are those of its outline, but for a blank text, whose outline is bare. -/
theorem atFault_iff {t : List Char} {f : CallFault} :
    AtFault t f ↔ outline t = .error f ∨ Text.isAllBlank t ∧ f = .missingName := by
  constructor
  · intro h
    cases h with
    | blank h => exact .inr ⟨h, rfl⟩
    | @nameless a h b =>
      have ha : '(' ∉ a := (unmarked_of_blank h).1
      rw [outline_append ha, if_pos h]
      exact .inl rfl
    | unclosed ha hn hb =>
      rw [outline_append ha, if_neg hn, splitClosing_eq_none_iff_depth.2 hb]
      exact .inl rfl
    | trailing ha hn hb hr =>
      rw [outline_append ha, if_neg hn, splitClosing_append hb]
      simp only [if_neg hr, true_or]
  · rintro (h | ⟨h, rfl⟩)
    · by_cases hm : '(' ∈ t
      · obtain ⟨a, b, rfl, ha⟩ := List.eq_append_cons_of_mem hm
        rw [outline_append ha] at h
        split at h
        next hn =>
          cases h
          exact .nameless hn b
        next hn =>
        split at h
        next hs =>
          cases h
          exact .unclosed ha hn (splitClosing_eq_none_iff_depth.1 hs)
        next body rest hs =>
        obtain ⟨hb, rfl⟩ := splitClosing_eq_some_iff.1 hs
        split at h
        · cases h
        next hr =>
          cases h
          exact .trailing ha hn hb hr
      · rw [outline_of_not_mem hm] at h
        cases h
    · exact .blank h

theorem AtFault.unique {t : List Char} {f g : CallFault} (hf : AtFault t f) (hg : AtFault t g) :
    f = g := by
  have hblank : ∀ {e}, Text.isAllBlank t → outline t ≠ .error e := fun hb => by
    rw [outline_of_not_mem (unmarked_of_blank hb).1]
    exact nofun
  rcases atFault_iff.1 hf with hf | ⟨hb, rfl⟩
  · rcases atFault_iff.1 hg with hg | ⟨hb, -⟩
    · rw [hf] at hg
      cases hg
      rfl
    · exact absurd hf (hblank hb)
  · rcases atFault_iff.1 hg with hg | ⟨-, rfl⟩
    · exact absurd hg (hblank hb)
    · rfl

theorem IsPiece.not_unclosed {t : List Char} (ht : IsPiece t) : ¬AtFault t .unclosed := by
  intro h
  cases h with
  | @unclosed a b ha hn hb =>
    obtain ⟨-, hpiece, -⟩ := (isPiece_append ha).1 ht
    have hdepth := depthBehind_eq_add_depth hpiece
    exact hb b List.prefix_rfl (by simpa using hdepth.symm)

/-! ### Lists of texts -/

theorem FirstFault.append {ts : List (List Char)} {f : CallFault} (h : FirstFault ts f)
    (us : List (List Char)) : FirstFault (ts ++ us) f := by
  obtain ⟨before, t, after, rfl, ht, hb⟩ := h
  exact ⟨before, t, after ++ us, by simp, ht, hb⟩

theorem FirstFault.behind {ts us : List (List Char)} {f : CallFault} (h : FirstFault us f)
    (hts : ∀ t ∈ ts, ∀ g, ¬AtFault t g) : FirstFault (ts ++ us) f := by
  obtain ⟨before, t, after, rfl, ht, hb⟩ := h
  refine ⟨ts ++ before, t, after, by simp, ht, fun u hu => ?_⟩
  rcases List.mem_append.1 hu with hu | hu
  · exact hts u hu
  · exact hb u hu

theorem FirstFault.unique {ts : List (List Char)} {f g : CallFault} (hf : FirstFault ts f)
    (hg : FirstFault ts g) : f = g := by
  obtain ⟨before, t, after, rfl, ht, hb⟩ := hf
  obtain ⟨before', t', after', he, ht', hb'⟩ := hg
  -- the one that stands further behind would have a text at fault before it
  rcases List.append_eq_append_iff.1 he with ⟨m, rfl, hm⟩ | ⟨m, rfl, hm⟩
  · cases m with
    | nil =>
      cases hm
      exact ht.unique ht'
    | cons u m =>
      cases hm
      exact absurd ht (hb' t (by simp) f)
  · cases m with
    | nil =>
      cases hm
      exact ht.unique ht'
    | cons u m =>
      cases hm
      exact absurd ht' (hb t' (by simp) g)

/-- A result that some texts account for: a value where none of them is at fault, and otherwise
the fault of the first that is. -/
inductive Explains (ts : List (List Char)) {α : Type} : Except CallFault α → Prop where
  | ok {v : α} (h : ∀ t ∈ ts, ∀ f, ¬AtFault t f) : Explains ts (.ok v)
  | error {f : CallFault} (h : FirstFault ts f) : Explains ts (.error f)

namespace Explains

variable {ts us : List (List Char)} {α β : Type} {r : Except CallFault α}

theorem map (h : Explains ts r) (g : α → β) : Explains ts (r.map g) := by
  cases h with
  | ok h => exact .ok h
  | error h => exact .error h

theorem bind (h : Explains ts r) {k : α → Except CallFault β}
    (hk : ∀ v, r = .ok v → Explains us (k v)) : Explains (ts ++ us) (r >>= k) := by
  cases h with
  | error h => exact .error (h.append us)
  | @ok v h =>
    change Explains (ts ++ us) (k v)
    have hv := hk v rfl
    generalize k v = r' at hv
    cases hv with
    | error hu => exact .error (hu.behind h)
    | ok hu =>
      refine .ok fun t ht => ?_
      rcases List.mem_append.1 ht with ht | ht
      · exact h t ht
      · exact hu t ht

theorem eq_error_iff (h : Explains ts r) {f : CallFault} : r = .error f ↔ FirstFault ts f := by
  cases h with
  | ok h =>
    refine iff_of_false nofun ?_
    rintro ⟨before, t, after, rfl, ht, -⟩
    exact h t (by simp) f ht
  | error h =>
    constructor
    · rintro ⟨⟩
      exact h
    · intro hf
      rw [h.unique hf]

end Explains

/-! ### The calls of a line -/

theorem IsBody.length_le {ss : List (List Char)} {body s : List Char} (hb : IsBody ss body)
    (hss : ∀ s ∈ ss, IsPiece s) (hs : s ∈ ss) : s.length ≤ body.length := by
  rcases hb with ⟨rfl, -⟩ | ⟨hne, rfl⟩
  · cases hs
  · rw [← pieces_intercalate hne hss] at hs
    exact length_of_mem_pieces hs

theorem exists_zip_of_forall {α β : Type} {R : α → β → Prop} {as : List α}
    (h : ∀ a ∈ as, ∃ b, R a b) :
    ∃ bs : List β, as.length = bs.length ∧ ∀ p ∈ as.zip bs, R p.1 p.2 := by
  induction as with
  | nil => exact ⟨[], rfl, by simp⟩
  | cons a as ih =>
    obtain ⟨b, hb⟩ := h a List.mem_cons_self
    obtain ⟨bs, hn, hbs⟩ := ih fun c hc => h c (List.mem_cons_of_mem a hc)
    exact ⟨b :: bs, by simp [hn], by simpa using ⟨hb, fun p q hp => hbs (p, q) hp⟩⟩

theorem exists_sites (t : List Char) : ∃ ts, Sites t ts := by
  induction hn : t.length using Nat.strong_induction_on generalizing t with
  | _ n ih =>
    by_cases hm : '(' ∈ t
    · obtain ⟨a, b, rfl, ha⟩ := List.eq_append_cons_of_mem hm
      cases hs : splitClosing 0 b with
      | none => exact ⟨_, .unclosed ha (splitClosing_eq_none_iff_depth.1 hs)⟩
      | some p =>
        obtain ⟨body, rest⟩ := p
        obtain ⟨hb, rfl⟩ := splitClosing_eq_some_iff.1 hs
        obtain ⟨ss, hss, hp, hne⟩ := exists_isBody hb
        have hall : ∀ s ∈ ss.filter (·.contains '('), ∃ ts, Sites s ts := fun s hs => by
          have hmem : s ∈ ss := List.mem_of_mem_filter hs
          have hlen : s.length ≤ body.length := hss.length_le hp hmem
          refine ih s.length ?_ s rfl
          simp only [List.length_append, List.length_cons] at hn
          omega
        obtain ⟨tss, htn, hts⟩ := exists_zip_of_forall hall
        exact ⟨_, .closed ha hb hss hp hne htn hts⟩
    · exact ⟨_, .bare hm⟩

theorem Sites.eq_cons {t : List Char} {ts : List (List Char)} (h : Sites t ts) :
    ts = t :: ts.tail := by
  cases h <;> rfl

/-- All calls of a text but the text itself are balanced. -/
theorem Sites.isPiece {t : List Char} {ts : List (List Char)} (h : Sites t ts) :
    ∀ u ∈ ts.tail, IsPiece u := by
  induction h with
  | bare | unclosed => simp
  | @closed a body rest ss tss ha hb hss hp hne hn hs ih =>
    intro u hu
    obtain ⟨us, hus, hu⟩ := List.mem_flatten.1 hu
    obtain ⟨⟨s, us⟩, hz, rfl⟩ := exists_mem_zip_of_mem_right hn hus
    have hmem : s ∈ ss := List.mem_of_mem_filter (List.of_mem_zip hz).1
    rw [(hs _ hz).eq_cons] at hu
    rcases List.mem_cons.1 hu with rfl | hu
    · exact hp u hmem
    · exact ih _ hz u hu

/-- The arguments of a call are read one after the other, so the first that is at fault decides. -/
theorem explains_arguments {ss : List (List Char)} {tss : List (List (List Char))}
    (hn : (ss.filter (·.contains '(')).length = tss.length)
    (hs : ∀ p ∈ (ss.filter (·.contains '(')).zip tss, Explains p.2 (parse p.1)) :
    Explains tss.flatten ((ss.map Text.trim).mapM readArgument) := by
  induction ss generalizing tss with
  | nil =>
    obtain rfl : tss = [] := by simpa using hn.symm
    exact .ok (by simp)
  | cons s ss ih =>
    have hcontains : (Text.trim s).contains '(' = s.contains '(' := by
      rw [Bool.eq_iff_iff]
      simpa using Text.mem_trim rfl
    rw [List.map_cons, List.mapM_cons, readArgument, hcontains]
    by_cases hm : s.contains '(' = true
    · rw [List.filter_cons, if_pos hm] at hn hs
      obtain _ | ⟨ts, tss⟩ := tss
      · cases hn
      · have hfirst : Explains ts (parse s) := hs (s, ts) (by simp)
        have hrest : Explains tss.flatten ((ss.map Text.trim).mapM readArgument) :=
          ih (Nat.succ.inj hn) fun p hp => hs p (List.mem_cons_of_mem _ hp)
        rw [if_pos hm, parse_trim, List.flatten_cons]
        exact (hfirst.map _).bind fun a _ => hrest.map (a :: ·)
    · rw [List.filter_cons, if_neg hm] at hn hs
      rw [if_neg hm]
      exact (ih hn hs).map (.text (String.ofList (Text.trim s)) :: ·)

theorem explains_singleton_outline {t : List Char} (hb : ¬Text.isAllBlank t) :
    Explains [t] (outline t) := by
  have hf : ∀ {f}, AtFault t f ↔ outline t = .error f := by
    simp only [atFault_iff, hb, false_and, or_false, implies_true, Bool.false_eq_true]
  cases ho : outline t with
  | error f => exact .error ⟨[], t, [], rfl, hf.2 ho, by simp⟩
  | ok o =>
    refine .ok fun u hu f h => ?_
    obtain rfl := List.mem_singleton.1 hu
    rw [hf, ho] at h
    cases h

theorem not_blank_of_mem {t : List Char} (h : '(' ∈ t) : ¬Text.isAllBlank t :=
  fun hb => (unmarked_of_blank hb).1 h

/-- What is read from a text is accounted for by its calls. -/
theorem Sites.explains {t : List Char} {ts : List (List Char)} (h : Sites t ts) :
    Explains ts (parse t) := by
  induction h with
  | @bare t h =>
    by_cases hb : Text.isAllBlank t
    · rw [(parse_eq_missingName_iff h).2 hb]
      exact .error ⟨[], t, [], rfl, .blank hb, by simp⟩
    · rw [parse_eq]
      refine (explains_singleton_outline hb).bind fun o ho => ?_
      rw [outline_of_not_mem h] at ho
      cases ho
      have hne : Text.trim t ≠ [] := mt Text.trim_eq_nil_iff.1 hb
      obtain ⟨name, -, -, ⟨-, hr⟩ | ⟨c, r, -, -, hr⟩⟩ := exists_ofBare (Text.trimmed_trim t) hne
      · simp only [hr]
        exact .ok (by simp)
      · simp only [hr]
        exact .ok (by simp)
  | @unclosed a b ha hb =>
    rw [parse_eq]
    refine (explains_singleton_outline (not_blank_of_mem (by simp))).bind fun o ho => ?_
    rw [outline_append ha, splitClosing_eq_none_iff_depth.2 hb] at ho
    split at ho <;> cases ho
  | @closed a body rest ss tss ha hb hss hp hne hn hs ih =>
    rw [parse_eq]
    refine (explains_singleton_outline (not_blank_of_mem (by simp))).bind fun o ho => ?_
    rw [outline_append ha, splitClosing_append hb] at ho
    split at ho
    · cases ho
    simp only at ho
    split at ho
    · cases ho
      simp only [segments_of_isBody hss hp hne]
      exact (explains_arguments hn ih).map _
    · cases ho

/-- Arguments close what they open, so the first text must be the one that does not. -/
theorem parse_eq_unclosed_iff {t : List Char} :
    parse t = .error .unclosed ↔
      ∃ a b, t = a ++ '(' :: b ∧ '(' ∉ a ∧ ¬Text.isAllBlank a ∧
        ∀ p, p <+: b → depth ('(' :: p) ≠ 0 := by
  obtain ⟨ts, hts⟩ := exists_sites t
  rw [hts.explains.eq_error_iff]
  constructor
  · rintro ⟨before, u, after, he, hu, -⟩
    have hcons : t :: ts.tail = before ++ u :: after := hts.eq_cons.symm.trans he
    cases before with
    | nil =>
      cases hcons
      cases hu with
      | unclosed ha hn hb => exact ⟨_, _, rfl, ha, hn, hb⟩
    | cons s before =>
      have hmem : u ∈ ts.tail := by
        rw [he]
        simp
      exact absurd hu (hts.isPiece u hmem).not_unclosed
  · rintro ⟨a, b, rfl, ha, hn, hb⟩
    exact ⟨[], _, ts.tail, hts.eq_cons, .unclosed ha hn hb, by simp⟩

/-- A line gets the fault of the first of its calls that is at fault, each call before its
arguments. That a parenthesis is not closed is a fault of the line itself and never of an
argument. -/
theorem ofLine_faults (line : String) :
    (ofLine line = .error .unclosed ↔
      ∃ a b, Text.trim line.toList = a ++ '(' :: b ∧ '(' ∉ a ∧ ¬Text.isAllBlank a ∧
        ∀ p, p <+: b → depth ('(' :: p) ≠ 0) ∧
    (∃ ts, Sites line.toList ts) ∧
    ∀ ts, Sites line.toList ts →
      (∀ t ∈ ts.tail, ¬AtFault t .unclosed ∧ parse t ≠ .error .unclosed) ∧
      ∀ f, ofLine line = .error f ↔ FirstFault ts f := by
  refine ⟨?_, exists_sites _, fun ts hts => ⟨fun t ht => ?_, fun f => hts.explains.eq_error_iff⟩⟩
  · rw [ofLine, ← parse_trim]
    exact parse_eq_unclosed_iff
  · have hpiece : IsPiece t := hts.isPiece t ht
    refine ⟨hpiece.not_unclosed, fun h => ?_⟩
    obtain ⟨a, b, rfl, ha, hn, hb⟩ := parse_eq_unclosed_iff.1 h
    exact hpiece.not_unclosed (.unclosed ha hn hb)

/-- The text behind a call is reported, although an argument of the call has no name. -/
theorem ofLine_trailing_of_nameless :
    Sites "A((1)) x".toList ["A((1)) x".toList, "(1)".toList] ∧ AtFault "(1)".toList .missingName ∧
      ofLine "A((1)) x" = .error (.trailing "x") := by
  have hinner : Sites "(1)".toList ["(1)".toList] :=
    @Sites.closed [] ['1'] [] [['1']] [] (by decide) rfl (.inr ⟨by decide, rfl⟩)
      (by simpa using ⟨rfl, rfl⟩) (by simp; decide) rfl (by simp)
  have hsites : Sites "A((1)) x".toList ["A((1)) x".toList, "(1)".toList] :=
    @Sites.closed ['A'] "(1)".toList [' ', 'x'] ["(1)".toList] [["(1)".toList]] (by decide) rfl
      (.inr ⟨by decide, rfl⟩) (by simpa using ⟨rfl, rfl⟩) (by simp; decide) rfl
      (by simpa using hinner)
  have hfault : AtFault "A((1)) x".toList (.trailing "x") :=
    @AtFault.trailing ['A'] "(1)".toList [' ', 'x'] (by decide) (by decide) rfl (by decide)
  have hfirst := ((ofLine_faults "A((1)) x").2.2 _ hsites).2 (.trailing "x")
  exact ⟨hsites, .nameless (a := []) rfl _, hfirst.2 ⟨[], _, _, rfl, hfault, by simp⟩⟩

end HostConsole.Call
