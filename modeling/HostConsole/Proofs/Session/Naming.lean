import HostConsole.Proofs.Call.Reading
import HostConsole.Proofs.Evaluation.Naming
import HostConsole.Proofs.Session.Reachable

/-! A name for a call within a line. Where the call is the first of the line to run, it can
be given a name on a line of its own, and the line with the name for the call comes to what
the whole line comes to. -/

namespace HostConsole

open Call

variable {H : Host}

/-- What stands before the first parenthesis is part of what stands before any other. -/
theorem equals_not_mem_of_first {a b left right : List Char}
    (h : a ++ '(' :: b = left ++ '(' :: right) (ha : '(' ∉ a) (hl : '=' ∉ left) : '=' ∉ a := by
  rcases List.append_eq_append_iff.1 h with ⟨m, rfl, -⟩ | ⟨m, rfl, hm⟩
  · exact fun he => hl (List.mem_append_left m he)
  · cases m with
    | nil => simpa using hl
    | cons d m =>
      cases hm
      simp at ha

/-- In a line with a parenthesis before any equals sign, the name has no equals sign. -/
theorem equals_not_mem_name {c : Call} {text left right : List Char} (hc : c.Spells text)
    (hp : '(' ∉ c.name.toList) (ht : text = left ++ '(' :: right) (hl : '=' ∉ left) :
    '=' ∉ c.name.toList := by
  cases hc with
  | @call _ _ _ w₁ w₂ _ _ h₁ h₂ =>
    have hopen : '(' ∉ w₁ ++ c.name.toList ++ w₂ := by rwa [Text.mem_pad h₁ h₂ rfl]
    rw [List.append_assoc, List.cons_append] at ht
    have hequals := equals_not_mem_of_first ht hopen hl
    rwa [Text.mem_pad h₁ h₂ rfl] at hequals

theorem splitAssignment_of_spells {c : Call} {text : List Char} (hc : c.Spells text)
    (he : '=' ∉ c.name.toList) : splitAssignment text = none := by
  cases hc with
  | @call _ _ _ w₁ w₂ _ _ h₁ h₂ =>
    rw [List.append_assoc, List.cons_append]
    refine splitAssignment_of_parenthesis ?_ _
    rwa [Text.mem_pad h₁ h₂ rfl]

namespace Session

/-! ### Lines that spell a call -/

theorem Sound.find?_of_parenthesis {s : Session H} (hs : s.Sound) {text : List Char}
    (h : '(' ∈ text) : s.bindings.find? (String.ofList (Text.trim text)) = none := by
  cases hf : s.bindings.find? (String.ofList (Text.trim text)) with
  | none => rfl
  | some v =>
    have hn := (hs.named _ (by rw [hf]; rfl)).noParenthesis
    rw [String.toList_ofList] at hn
    exact absurd ((Text.mem_trim rfl).2 h) hn

theorem Sound.evaluateExpression_of_spells {s : Session H} (hs : s.Sound) (held : List H.Kind)
    {text : List Char} {c : Call} (hw : c.WellFormed) (hc : c.Spells text) :
    s.evaluateExpression held text = s.ended ((s.scope held).resolve (.ofCall c) s.start) := by
  refine s.evaluateExpression_of_call held
    (hs.find?_of_parenthesis (Call.mem_of_spells_call hc)) ?_
  rw [Call.parse_trim]
  exact Call.parse_of_spells hw hc

/-- A line that assigns a call to a name, with the call written as it is. -/
theorem Sound.attempt_assigned {s : Session H} (hs : s.Sound) (held : List H.Kind) {x : String}
    (hx : IsVariable x) {g : Call} {text : List Char} (hw : g.WellFormed) (hg : g.Spells text) :
    s.attempt held (x ++ " = " ++ String.ofList text) =
      { s.ended ((s.scope held).resolve (.ofCall g) s.start) with
        session := (s.ended ((s.scope held).resolve (.ofCall g) s.start)).session.bindResult x
          ((s.scope held).resolve (.ofCall g) s.start).1 } := by
  have hline : (x ++ " = " ++ String.ofList text).toList =
      (x.toList ++ [' ']) ++ '=' :: ' ' :: text := by
    simp
  have hsplit : splitAssignment (x ++ " = " ++ String.ofList text).toList =
      some (x.toList ++ [' '], ' ' :: text) := by
    refine splitAssignment_eq_some_iff.2 ⟨hline, ?_, ?_⟩
    · simpa using hx.noEquals
    · simpa using hx.noParenthesis
  have htrim : Text.trim (x.toList ++ [' ']) = x.toList := by
    have h : Text.trim ([] ++ x.toList ++ [' ']) = Text.trim x.toList := Text.trim_pad rfl rfl _
    rwa [hx.trimmed, List.nil_append] at h
  have hpad : g.Spells (' ' :: text) := by
    have h : g.Spells ([' '] ++ text ++ []) := hg.pad rfl rfl
    simpa using h
  rw [s.attempt_assigning held hsplit (by rw [htrim]; simpa using hx.nonempty), htrim,
    String.ofList_toList, hs.evaluateExpression_of_spells held hw hpad]
  rfl

theorem Sound.attempt_spelled {s : Session H} (hs : s.Sound) (held : List H.Kind) {line : String}
    {c : Call} (hl : splitAssignment line.toList = none) (hw : c.WellFormed)
    (hc : c.Spells line.toList) :
    s.attempt held line = s.ended ((s.scope held).resolve (.ofCall c) s.start) := by
  rw [s.attempt_of_none held hl, hs.evaluateExpression_of_spells held hw hc]

/-- Two evaluations one after the other, of which the first binds a name, against one of
both that does not. -/
theorem ended_bind (s : Session H) (held : List H.Kind) {K : Context} {g : Call} {x : String}
    {v : H.Value} {q : Progress H} (hK : K.earlier = []) (hx : x ∉ K.texts) (hne : x ≠ "")
    (h : (s.scope held).resolve (.ofCall g) s.start = (.ok (some v), q)) :
    let o := s.ended ((s.scope held).resolve (K.fill (.ofCall g)) s.start)
    let s₁ := (s.ended (.ok (some v), q)).session.bindResult x (.ok (some v))
    let o₂ := s₁.ended ((s₁.scope held).resolve (K.fill (.text x)) s₁.start)
    o₂.result = o.result ∧ q.runs ++ o₂.runs = o.runs ∧ q.log ++ o₂.log = o.log ∧
      o₂.session = { o.session with bindings := s.bindings.insert x v } := by
  intro o s₁ o₂
  have hscope : s₁.scope held = (s.scope held).bind x v := rfl
  -- the second line starts where the first has ended, but with an empty record
  have hq : q = s₁.start.behind q.runs q.log := by
    simp [Progress.behind, s₁, start, ended, bindResult]
  have hrest : (s.scope held).resolve (K.fill (.ofCall g)) s.start =
      (((s₁.scope held).resolve (K.fill (.text x)) s₁.start).1,
        ((s₁.scope held).resolve (K.fill (.text x)) s₁.start).2.behind q.runs q.log) := by
    rw [(s.scope held).resolve_fill hK hx hne h, ← hscope]
    conv_lhs => rw [hq]
    exact (s₁.scope held).appends_resolve _ _ _ _
  have ho : o = s.ended _ := congrArg s.ended hrest
  rw [ho]
  exact ⟨rfl, rfl, rfl, rfl⟩

/-- Giving a name to a call that nothing of its line precedes, and then using the name in
its place, comes to the same as the line as a whole. -/
theorem attempt_named {s : Session H} (hs : s.Reachable) (held : List H.Kind) {line : String}
    {c g : Call} {K : Context} {x : String}
    (hline : ∃ left right, line.toList = left ++ '(' :: right ∧ '=' ∉ left)
    (hc : Call.ofLine line = .ok c) (hg : Argument.ofCall c = K.fill (.ofCall g))
    (hK : K ≠ .hole) (hfirst : K.earlier = []) (hx : IsVariable x)
    (hm : Call.Unmarked x.toList) (hfresh : x ∉ (Argument.ofCall c).texts) :
    (∃ A G B, line.toList = A ++ G ++ B ∧ K.Frames A B ∧ g.Spells G) ∧
    ∀ A G B, line.toList = A ++ G ++ B → K.Frames A B → g.Spells G →
      let o := s.attempt held line
      let o₁ := s.attempt held (x ++ " = " ++ String.ofList G)
      let o₂ := o₁.session.attempt held (String.ofList (A ++ x.toList ++ B))
      (∀ v, o₁.result = .ok (some v) →
        o₂.result = o.result ∧ o₁.runs ++ o₂.runs = o.runs ∧ o₁.log ++ o₂.log = o.log ∧
          o₂.session = { o.session with bindings := s.bindings.insert x v }) ∧
      (∀ f, o₁.result = .error f →
        o.result = .error f ∧ o.runs = o₁.runs ∧ o.log = o₁.log ∧ o.session = o₁.session) := by
  obtain ⟨left, right, hlr, hleft⟩ := hline
  obtain ⟨hw, hsp⟩ := Call.spells_of_parse (by rw [hlr]; simp) hc
  have hequals : '=' ∉ c.name.toList := equals_not_mem_name hsp hw.opens hlr hleft
  have hgw : g.WellFormed := Call.wellFormed_of_argument (Context.wellFormed_of_ofCall hw hg hK)
  have hxw : (Argument.text x).WellFormed := .text hx.trimmed hm
  have hxne : Argument.text x ≠ .text "" := fun h => hx.nonempty (by cases h; rfl)
  obtain ⟨c', hc', hw', hname⟩ := Context.exists_refilled hw hg hK hxw hxne
  have hxK : x ∉ K.texts := fun h => hfresh (hg ▸ K.texts_fill_subset _ h)
  refine ⟨Context.exists_frames (hg ▸ hsp), ?_⟩
  intro A G B hl hf hgs o o₁ o₂
  have hrest : c'.Spells (A ++ x.toList ++ B) := by
    have h : (Argument.text x).Spells ([] ++ x.toList ++ []) := .text rfl rfl
    rw [Call.Spells, hc']
    exact hf.spells (by simpa using h)
  have ho : o = s.ended ((s.scope held).resolve (K.fill (.ofCall g)) s.start) := by
    rw [← hg]
    exact hs.sound.attempt_spelled held (splitAssignment_of_spells hsp hequals) hw hsp
  have ho₁ : o₁ = _ := hs.sound.attempt_assigned held hx hgw hgs
  have ho₂ : o₂ = o₁.session.ended
      ((o₁.session.scope held).resolve (K.fill (.text x)) o₁.session.start) := by
    rw [← hc']
    refine (hs.sound.attempt held _).attempt_spelled held ?_ hw' ?_
    · rw [String.toList_ofList]
      exact splitAssignment_of_spells hrest (hname ▸ hequals)
    · rwa [String.toList_ofList]
  rcases he : (s.scope held).resolve (.ofCall g) s.start with ⟨f | v, q⟩
  · rw [he] at ho₁
    rw [ho, ho₁, (s.scope held).resolve_fill_error hfirst he]
    constructor
    · rintro v ⟨⟩
    · rintro _ ⟨⟩
      exact ⟨rfl, rfl, rfl, rfl⟩
  · rw [he] at ho₁
    rw [ho₂, ho, ho₁]
    constructor
    · rintro v ⟨⟩
      exact s.ended_bind held hfirst hxK hx.nonempty he
    · rintro f ⟨⟩

theorem attempt_named_count :
    let o := Demo.calculating.attempt [] "Add(1,Count())"
    let o₁ := Demo.calculating.attempt [] "n = Count()"
    let o₂ := o₁.session.attempt [] "Add(1,n)"
    o₁.result = .ok (some (.int 0)) ∧ o₂.result = o.result ∧
      o₁.runs ++ o₂.runs = o.runs ∧ o₁.log ++ o₂.log = o.log ∧
      o₂.session =
        { o.session with bindings := Demo.calculating.bindings.insert "n" (.int 0) } := by
  have hgw : (Argument.ofCall ⟨"Count", []⟩).WellFormed :=
    .call (by decide) (by decide) (by decide) (by simp) (by simp)
  have hg : Call.Spells ⟨"Count", []⟩ ([] ++ "Count".toList ++ [] ++ '(' :: [] ++ ')' :: []) :=
    .call rfl rfl rfl rfl (by simp) (.inl ⟨rfl, rfl⟩)
  have hf : Context.Frames (.argument "Add" [.text "1"] .hole [])
      ([] ++ "Add".toList ++ [] ++ '(' :: (["1".toList].flatMap (· ++ [',']) ++ []))
      ([] ++ [].flatMap (',' :: ·) ++ ')' :: []) :=
    .argument rfl rfl rfl (.cons (Argument.spells_self "1") .nil) .nil (.hole rfl rfl)
  have hone : (Argument.text "1").WellFormed := .text rfl (by decide)
  have hw : Call.WellFormed ⟨"Add", [.text "1", .ofCall ⟨"Count", []⟩]⟩ :=
    ⟨by decide, by decide, by decide, by simp, by simpa using ⟨hone, hgw⟩⟩
  have hc : Call.ofLine "Add(1,Count())" = .ok ⟨"Add", [.text "1", .ofCall ⟨"Count", []⟩]⟩ :=
    Call.parse_of_spells hw (hf.spells hg)
  have hx : IsVariable "n" := ⟨by decide, rfl, by decide, by decide⟩
  have hv : (Demo.calculating.attempt [] "n = Count()").result = .ok (some (.int 0)) :=
    congrArg Outcome.result (Demo.reachable_calculating.sound.attempt_assigned [] hx
      (Call.wellFormed_of_argument hgw) hg)
  have hline : "Add(1,Count())".toList = "Add".toList ++ '(' :: "1,Count())".toList := rfl
  obtain ⟨-, h⟩ := attempt_named Demo.reachable_calculating [] ⟨_, _, hline, by decide⟩ hc
    (rfl : _ = Context.fill (.argument "Add" [.text "1"] .hole []) (.ofCall ⟨"Count", []⟩))
    (by simp) rfl hx (by decide) (by decide)
  exact ⟨hv, (h _ _ _ rfl hf hg).1 _ hv⟩

end Session

end HostConsole
