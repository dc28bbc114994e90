import HostConsole.Call.Parser
import HostConsole.Proofs.Call.Spelling

/-! Reading a line gives back the tree that the line spells. The outline of a line
finds its name and body, and each segment of the body is read as a line of its own. -/

namespace HostConsole.Call

/-! ### The outline -/

theorem outline_of_not_mem {text : List Char} (h : '(' ∉ text) :
    outline text = .ok (.bare (Text.trim text)) := by
  have ht : '(' ∉ Text.trim text := by rwa [Text.mem_trim rfl]
  have hd : (Text.trim text).dropWhile (· != '(') = [] := by
    rw [List.dropWhile_eq_nil_iff]
    intro c hc
    simpa using ne_of_mem_of_not_mem hc ht
  simp only [outline, hd]

/-- The outline of a text by its first parenthesis. -/
theorem outline_append {a : List Char} (ha : '(' ∉ a) (b : List Char) :
    outline (a ++ '(' :: b) =
      if Text.isAllBlank a then .error .missingName
      else match splitClosing 0 b with
        | none => .error .unclosed
        | some (body, rest) =>
          if Text.isAllBlank rest then .ok (.call (Text.trim a) body)
          else .error (.trailing (String.ofList (Text.trim rest))) := by
  have hopen : ∀ c ∈ Text.trimLeft a, (c != '(') = true := by
    intro c hc
    have : c ∈ a := (List.dropWhile_sublist _).subset hc
    simpa using ne_of_mem_of_not_mem this ha
  have hd : (Text.trimLeft a ++ '(' :: Text.trimRight b).dropWhile (· != '(') =
      '(' :: Text.trimRight b := by
    rw [List.dropWhile_append_of_pos hopen]
    rfl
  have ht : (Text.trimLeft a ++ '(' :: Text.trimRight b).takeWhile (· != '(') =
      Text.trimLeft a := by
    rw [List.takeWhile_append_of_pos hopen]
    simp
  obtain ⟨w, hw, hb⟩ := Text.exists_trimRight_append_blank b
  have hs := splitClosing_append_of_not_mem (unmarked_of_blank hw).2.1 0 (Text.trimRight b)
  rw [← hb] at hs
  simp only [outline, Text.trim_append_cons (c := '(') rfl, hd, ht, Text.trim_trimLeft,
    List.isEmpty_iff, Text.trim_eq_nil_iff, hs]
  cases splitClosing 0 (Text.trimRight b) with
  | none => rfl
  | some p =>
    have hrest : Text.trim (p.2 ++ w) = Text.trim p.2 := Text.trim_pad Text.isAllBlank_nil hw p.2
    simp [hrest, hw]

/-- The texts whose outline has this name and body. -/
theorem outline_eq_call_iff {text name body : List Char} :
    outline text = .ok (.call name body) ↔
      (name ≠ [] ∧ Text.Trimmed name ∧ '(' ∉ name ∧ Balanced body) ∧
        ∃ w₁ w₂ w₃, Text.isAllBlank w₁ ∧ Text.isAllBlank w₂ ∧ Text.isAllBlank w₃ ∧
          text = w₁ ++ name ++ w₂ ++ '(' :: body ++ ')' :: w₃ := by
  constructor
  · intro h
    have hm : '(' ∈ text := by
      by_contra hm
      rw [outline_of_not_mem hm] at h
      cases h
    obtain ⟨a, b, rfl, ha⟩ := List.eq_append_cons_of_mem hm
    rw [outline_append ha] at h
    split at h
    · cases h
    next hblank =>
    split at h
    · cases h
    next body' rest hs =>
    split at h
    next hrest =>
      cases h
      obtain ⟨hb, rfl⟩ := splitClosing_eq_some_iff.1 hs
      obtain ⟨w₁, w₂, h₁, h₂, ht⟩ := Text.exists_pad_trim a
      have hopen : '(' ∉ Text.trim a := by rwa [Text.mem_trim rfl]
      refine ⟨⟨fun h => hblank (Text.trim_eq_nil_iff.1 h), Text.trimmed_trim a, hopen, hb⟩,
        w₁, w₂, rest, h₁, h₂, hrest, ?_⟩
      rw [← ht, List.append_assoc, List.cons_append]
    · cases h
  · rintro ⟨⟨hne, ht, hopen, hb⟩, w₁, w₂, w₃, h₁, h₂, h₃, rfl⟩
    have ha : '(' ∉ w₁ ++ name ++ w₂ := by rwa [Text.mem_pad h₁ h₂ rfl]
    have hblank : ¬Text.isAllBlank (w₁ ++ name ++ w₂) := by
      rw [← Text.trim_eq_nil_iff, Text.trim_pad h₁ h₂, ht]
      exact hne
    rw [List.append_assoc, List.cons_append, outline_append ha, if_neg hblank,
      splitClosing_append hb]
    simp only [h₃, Text.trim_pad h₁ h₂, if_true]
    rw [ht]

/-! ### Arguments -/

/-- A segment read as an argument: a call if it has a parenthesis, else a text. -/
def readArgument (s : List Char) : Except CallFault Argument :=
  if s.contains '(' then (parse s).map .ofCall else .ok (.text (String.ofList s))

theorem parse_eq (text : List Char) :
    parse text = (outline text).bind fun
      | .bare line => ofBare line
      | .call name body => ((segments body).mapM readArgument).map (⟨String.ofList name, ·⟩) := by
  rw [parse]
  split
  · next h => rw [h]; rfl
  · next h => rw [h]; rfl
  · next name body h =>
    rw [h, List.mapM_subtype (g := readArgument), List.unattach_attach]
    · rfl
    · intro s hs
      rfl

theorem bind_eq_ok_iff {ε α β : Type} {x : Except ε α} {f : α → Except ε β} {b : β} :
    x >>= f = .ok b ↔ ∃ a, x = .ok a ∧ f a = .ok b := by
  constructor
  · intro h
    cases x with
    | error e => cases h
    | ok a => exact ⟨a, rfl, h⟩
  · rintro ⟨a, rfl, h⟩
    exact h

theorem mapM_eq_ok_iff {ε α β : Type} {f : α → Except ε β} {as : List α} {bs : List β} :
    as.mapM f = .ok bs ↔ List.Forall₂ (fun a b => f a = .ok b) as bs := by
  induction as generalizing bs with
  | nil =>
    rw [List.mapM_nil, List.forall₂_nil_left_iff]
    exact ⟨fun h => by cases h; rfl, fun h => by rw [h]; rfl⟩
  | cons a as ih =>
    simp only [List.mapM_cons, bind_eq_ok_iff, List.forall₂_cons_left_iff, ih]
    constructor
    · rintro ⟨b, hb, us, hus, h⟩
      cases h
      exact ⟨b, us, hb, hus, rfl⟩
    · rintro ⟨b, us, hb, hus, rfl⟩
      exact ⟨b, hb, us, hus, rfl⟩

/-- What a successful reading of a line with a parenthesis went through. -/
theorem parse_eq_ok_iff {text : List Char} (hm : '(' ∈ text) {c : Call} :
    parse text = .ok c ↔
      ∃ body, outline text = .ok (.call c.name.toList body) ∧
        List.Forall₂ (fun s a => readArgument s = .ok a) (segments body) c.arguments := by
  have hbare : ∀ line, outline text ≠ .ok (.bare line) := by
    obtain ⟨a, b, rfl, ha⟩ := List.eq_append_cons_of_mem hm
    intro line h
    rw [outline_append ha] at h
    split_ifs at h
    split at h
    · cases h
    · split_ifs at h
      cases h
  rw [parse_eq]
  constructor
  · intro h
    rcases ho : outline text with e | line | ⟨name, body⟩
    · rw [ho] at h
      cases h
    · exact absurd ho (hbare line)
    · rw [ho] at h
      change ((segments body).mapM readArgument).map _ = _ at h
      cases has : (segments body).mapM readArgument with
      | error e =>
        rw [has] at h
        cases h
      | ok as =>
        rw [has] at h
        cases h
        exact ⟨body, by simp, mapM_eq_ok_iff.1 has⟩
  · rintro ⟨body, ho, has⟩
    rw [ho]
    change ((segments body).mapM readArgument).map _ = _
    rw [mapM_eq_ok_iff.2 has, String.ofList_toList]
    rfl

/-! ### A line spells what is read from it -/

theorem mem_of_spells_call {name : String} {arguments : List Argument} {s : List Char}
    (h : (Argument.call name arguments).Spells s) : '(' ∈ s := by
  cases h
  simp

/-- Within a piece a name is free of marks, not only of opening parentheses. -/
theorem WellFormed.nested {c : Call} (hw : c.WellFormed) {s : List Char} (hs : c.Spells s)
    (hp : IsPiece s) : (Argument.ofCall c).WellFormed := by
  have hu : Unmarked c.name.toList := by
    cases hs with
    | @call _ _ _ w₁ w₂ _ _ h₁ h₂ =>
      have ha : '(' ∉ w₁ ++ c.name.toList ++ w₂ := by
        rw [Text.mem_pad h₁ h₂ rfl]
        exact hw.opens
      rw [List.append_assoc, isPiece_append ha, Text.mem_pad h₁ h₂ rfl,
        Text.mem_pad h₁ h₂ rfl] at hp
      exact ⟨hw.opens, hp.1⟩
  exact .call hw.nonempty hw.trimmed hu hw.notEmptyText hw.arguments

theorem spells_of_readArgument {p : List Char} (hp : IsPiece p) {a : Argument}
    (ih : ∀ c, '(' ∈ Text.trim p → parse (Text.trim p) = .ok c →
      c.WellFormed ∧ c.Spells (Text.trim p))
    (h : readArgument (Text.trim p) = .ok a) : a.WellFormed ∧ a.Spells p := by
  obtain ⟨w₁, w₂, h₁, h₂, hpad⟩ := Text.exists_pad_trim p
  rw [readArgument] at h
  split at h
  · next hm =>
    cases hc : parse (Text.trim p) with
    | error e =>
      rw [hc] at h
      cases h
    | ok c =>
      rw [hc] at h
      cases h
      obtain ⟨hw, hs⟩ := ih c (by simpa using hm) hc
      have hs' : (Argument.ofCall c).Spells p := hpad ▸ hs.pad h₁ h₂
      exact ⟨hw.nested hs' hp, hs'⟩
  · next hm =>
    cases h
    have ht : '(' ∉ Text.trim p := by simpa using hm
    have ha : '(' ∉ p := by rwa [Text.mem_trim rfl] at ht
    rw [← List.append_nil p, isPiece_append ha] at hp
    have hs : (Argument.text (String.ofList (Text.trim p))).Spells
        (w₁ ++ (String.ofList (Text.trim p)).toList ++ w₂) := .text h₁ h₂
    rw [String.toList_ofList, ← hpad] at hs
    refine ⟨.text ?_ ?_, hs⟩
    · rw [String.toList_ofList]
      exact Text.trimmed_trim p
    · rw [String.toList_ofList]
      exact ⟨ht, mt (Text.mem_trim rfl).1 hp.1.1, mt (Text.mem_trim rfl).1 hp.1.2⟩

theorem spells_of_parse {text : List Char} (hm : '(' ∈ text) {c : Call}
    (h : parse text = .ok c) : c.WellFormed ∧ c.Spells text := by
  induction hn : text.length using Nat.strong_induction_on generalizing text c with
  | _ n ih =>
    obtain ⟨body, ho, has⟩ := (parse_eq_ok_iff hm).1 h
    obtain ⟨⟨hne, ht, hopen, hb⟩, w₁, w₂, w₃, h₁, h₂, h₃, htext⟩ := outline_eq_call_iff.1 ho
    obtain ⟨ss, hss, hpieces, hblank⟩ := exists_isBody hb
    rw [segments_of_isBody hss hpieces hblank, List.forall₂_map_left_iff] at has
    obtain ⟨hlen, hread⟩ := List.forall₂_iff_zip.1 has.flip
    have hall : ∀ p ∈ c.arguments.zip ss, p.1.WellFormed ∧ p.1.Spells p.2 := by
      rintro ⟨a, s⟩ hp
      have hs : s ∈ ss := (List.of_mem_zip hp).2
      refine spells_of_readArgument (hpieces s hs) (fun c' hm' h' => ?_) (hread hp)
      have hseg : Text.trim s ∈ segments body := by
        rw [segments_of_isBody hss hpieces hblank]
        exact List.mem_map_of_mem hs
      have h₁ := length_of_mem_segments hseg
      have h₂ := length_of_outline ho
      exact ih _ (by omega) hm' h' rfl
    refine ⟨⟨by simpa using hne, ht, hopen, fun he => ?_, fun a ha => ?_⟩, ?_⟩
    · -- a blank text alone would have been no argument at all
      rw [he] at hlen hall
      obtain ⟨s, rfl⟩ := List.length_eq_one_iff.1 hlen.symm
      have hs := (hall (.text "", s) (by simp)).2
      cases hs with
      | text h₁ h₂ => exact hblank _ rfl (by simpa using ⟨h₁, h₂⟩)
    · obtain ⟨p, hz, rfl⟩ := exists_mem_zip_of_mem_left hlen ha
      exact (hall p hz).1
    · rw [htext]
      exact .call h₁ h₂ h₃ hlen (fun p hp => (hall p hp).2) hss

/-! ### A spelled tree is read back -/

theorem parse_trim (text : List Char) : parse (Text.trim text) = parse text := by
  have h : outline (Text.trim text) = outline text := by
    rw [outline, outline, Text.trimmed_trim]
  rw [parse_eq, parse_eq, h]

/-- A spelled call is read if its arguments are. -/
theorem parse_of_readArgument {name : String} {arguments : List Argument}
    {ss : List (List Char)} {w₁ w₂ w₃ body : List Char} (hw : Call.WellFormed ⟨name, arguments⟩)
    (h₁ : Text.isAllBlank w₁) (h₂ : Text.isAllBlank w₂) (h₃ : Text.isAllBlank w₃)
    (hn : arguments.length = ss.length) (hs : ∀ p ∈ arguments.zip ss, p.1.Spells p.2)
    (hb : IsBody ss body)
    (hread : ∀ p ∈ arguments.zip ss, readArgument (Text.trim p.2) = .ok p.1) :
    parse (w₁ ++ name.toList ++ w₂ ++ '(' :: body ++ ')' :: w₃) = .ok ⟨name, arguments⟩ := by
  have hpieces : ∀ s ∈ ss, IsPiece s := by
    intro s hs'
    obtain ⟨p, hz, rfl⟩ := exists_mem_zip_of_mem_right hn hs'
    exact (hw.arguments p.1 (List.of_mem_zip hz).1).isPiece (hs p hz)
  have hblank : ∀ s, ss = [s] → ¬Text.isAllBlank s := by
    rintro s rfl hblank
    obtain ⟨a, rfl⟩ := List.length_eq_one_iff.1 hn
    have h := hread (a, s) (by simp)
    rw [Text.trim_eq_nil_iff.2 hblank] at h
    cases h
    exact hw.notEmptyText rfl
  rw [parse_eq_ok_iff (by simp)]
  refine ⟨body, outline_eq_call_iff.2 ⟨⟨by simpa using hw.nonempty, hw.trimmed, hw.opens,
    hb.balanced hpieces⟩, w₁, w₂, w₃, h₁, h₂, h₃, rfl⟩, ?_⟩
  rw [segments_of_isBody hb hpieces hblank, List.forall₂_map_left_iff]
  exact (List.forall₂_iff_zip.2 ⟨hn, fun hp => hread _ hp⟩ :
    List.Forall₂ (fun a s => readArgument (Text.trim s) = .ok a) arguments ss).flip

theorem readArgument_of_spells {a : Argument} (ha : a.WellFormed) {s : List Char}
    (hs : a.Spells s) : readArgument (Text.trim s) = .ok a := by
  induction hs with
  | text h₁ h₂ =>
    cases ha with
    | text ht hu =>
      rw [Text.trim_pad h₁ h₂, ht, readArgument, if_neg (by simpa using hu.1),
        String.ofList_toList]
  | @call name arguments ss w₁ w₂ w₃ body h₁ h₂ h₃ hn hs hb ih =>
    cases ha with
    | call hne ht hu he ha =>
      have hparse := parse_of_readArgument ⟨hne, ht, hu.1, he, ha⟩ h₁ h₂ h₃ hn hs hb
        fun p hp => ih p hp (ha p.1 (List.of_mem_zip hp).1)
      have hm : '(' ∈ Text.trim (w₁ ++ name.toList ++ w₂ ++ '(' :: body ++ ')' :: w₃) := by
        rw [List.append_assoc, List.cons_append, Text.trim_append_cons rfl]
        simp
      rw [readArgument, if_pos (by simpa using hm), parse_trim, hparse]
      rfl

theorem parse_of_spells {c : Call} (hw : c.WellFormed) {s : List Char} (hs : c.Spells s) :
    parse s = .ok c := by
  cases hs with
  | call h₁ h₂ h₃ hn hs hb =>
    refine parse_of_readArgument hw h₁ h₂ h₃ hn hs hb fun p hp => ?_
    exact readArgument_of_spells (hw.arguments p.1 (List.of_mem_zip hp).1) (hs p hp)

theorem wellFormed_bare (name : String) (hne : name ≠ "") (ht : Text.Trimmed name.toList)
    (hu : Unmarked name.toList) : (Argument.call name []).WellFormed :=
  .call hne ht hu (by simp) (by simp)

/-- A call whose one argument is a call, both without blanks. -/
theorem parse_call_of_call {outer inner : String} (ho : (Argument.call outer []).WellFormed)
    (hi : (Argument.call inner []).WellFormed) :
    parse (outer.toList ++ '(' :: (inner.toList ++ ['(', ')']) ++ [')']) =
      .ok ⟨outer, [.call inner []]⟩ := by
  have hinner : (Argument.call inner []).Spells (inner.toList ++ ['(', ')']) := by
    have h : (Argument.call inner []).Spells
        ([] ++ inner.toList ++ [] ++ '(' :: [] ++ ')' :: []) :=
      .call rfl rfl rfl rfl (by simp) (.inl ⟨rfl, rfl⟩)
    simpa using h
  cases ho with
  | call hne ht hu =>
    have hw : WellFormed ⟨outer, [.call inner []]⟩ :=
      ⟨hne, ht, hu.1, by simp, by simpa using hi⟩
    exact parse_of_spells hw (hinner.single outer)

/-! ### Lines without parentheses -/

theorem parse_of_not_mem {text : List Char} (h : '(' ∉ text) :
    parse text = ofBare (Text.trim text) := by
  rw [parse_eq, outline_of_not_mem h]
  rfl

theorem ofBare_name {name : List Char} (hne : name ≠ []) (hn : ∀ c ∈ name, Text.isBlank c = false) :
    ofBare name = .ok ⟨String.ofList name, []⟩ := by
  have ht : name.takeWhile (!Text.isBlank ·) = name := by
    rw [List.takeWhile_eq_self_iff]
    simpa using hn
  have hd : name.dropWhile (!Text.isBlank ·) = [] := by
    rw [List.dropWhile_eq_nil_iff]
    simpa using hn
  simp [ofBare, hne, ht, hd]

theorem ofBare_shorthand {name : List Char} (hn : ∀ c ∈ name, Text.isBlank c = false) {c : Char}
    (hc : Text.isBlank c) (r : List Char) :
    ofBare (name ++ c :: r) =
      .ok ⟨String.ofList name, [.text (String.ofList (Text.trim r))]⟩ := by
  have hn' : ∀ c ∈ name, (!Text.isBlank c) = true := by simpa using hn
  have ht : (name ++ c :: r).takeWhile (!Text.isBlank ·) = name := by
    rw [List.takeWhile_append_of_pos hn']
    simp [hc]
  have hd : (name ++ c :: r).dropWhile (!Text.isBlank ·) = c :: r := by
    rw [List.dropWhile_append_of_pos hn']
    simp [hc]
  simp [ofBare, ht, hd]

/-- A line without parentheses is a name up to its first white space. What follows that,
if anything does, is the one argument. -/
theorem exists_ofBare {line : List Char} (ht : Text.Trimmed line) (hne : line ≠ []) :
    ∃ name, name ≠ [] ∧ (∀ c ∈ name, Text.isBlank c = false) ∧
      ((line = name ∧ ofBare line = .ok ⟨String.ofList name, []⟩) ∨
        ∃ c r, Text.isBlank c ∧ line = name ++ c :: r ∧
          ofBare line = .ok ⟨String.ofList name, [.text (String.ofList (Text.trim r))]⟩) := by
  have hn : ∀ c ∈ line.takeWhile (!Text.isBlank ·), Text.isBlank c = false := by
    intro c hc
    simpa using List.mem_takeWhile_imp hc
  have hline := List.takeWhile_append_dropWhile (p := (!Text.isBlank ·)) (l := line)
  have hname : line.takeWhile (!Text.isBlank ·) ≠ [] := by
    obtain ⟨c, r, rfl⟩ := List.exists_cons_of_ne_nil hne
    have hl := ht.trimLeft_eq
    rw [Text.trimLeft, List.dropWhile_eq_self_iff] at hl
    have hc : Text.isBlank c = false := Bool.eq_false_iff.2 (hl (by simp))
    simp [hc]
  refine ⟨_, hname, hn, ?_⟩
  generalize line.takeWhile (!Text.isBlank ·) = name at hn hline hname
  cases hd : line.dropWhile (!Text.isBlank ·) with
  | nil =>
    rw [hd, List.append_nil] at hline
    subst hline
    exact .inl ⟨rfl, ofBare_name hname hn⟩
  | cons c r =>
    have hc : Text.isBlank c = true := by
      have := List.head?_dropWhile_not (!Text.isBlank ·) line
      rw [hd] at this
      simpa using this
    rw [hd] at hline
    subst hline
    exact .inr ⟨c, r, hc, rfl, ofBare_shorthand hn hc r⟩

theorem parse_eq_missingName_iff {text : List Char} (h : '(' ∉ text) :
    parse text = .error .missingName ↔ Text.isAllBlank text := by
  rw [parse_of_not_mem h, ← Text.trim_eq_nil_iff]
  constructor
  · intro he
    by_contra hne
    obtain ⟨name, -, -, ⟨-, hr⟩ | ⟨c, r, -, -, hr⟩⟩ := exists_ofBare (Text.trimmed_trim text) hne
    · rw [hr] at he
      cases he
    · rw [hr] at he
      cases he
  · intro hb
    rw [hb]
    rfl

/-- A line with a parenthesis is read as a tree exactly if it spells that tree, and the
tree is well formed. Any other line is a name, or a name and one argument, unless it
is blank. -/
theorem ofLine_reads_spellings (line : String) :
    ('(' ∈ line.toList → ∀ c, ofLine line = .ok c ↔ c.WellFormed ∧ c.Spells line.toList) ∧
      ('(' ∉ line.toList →
        (ofLine line = .error .missingName ↔ Text.isAllBlank line.toList) ∧
        (¬Text.isAllBlank line.toList →
          ∃ name, name ≠ [] ∧ (∀ c ∈ name, Text.isBlank c = false) ∧
            ((Text.trim line.toList = name ∧ ofLine line = .ok ⟨String.ofList name, []⟩) ∨
              ∃ c r, Text.isBlank c ∧ Text.trim line.toList = name ++ c :: r ∧
                ofLine line =
                  .ok ⟨String.ofList name, [.text (String.ofList (Text.trim r))]⟩))) := by
  refine ⟨fun hm c => ⟨spells_of_parse hm, fun h => parse_of_spells h.1 h.2⟩, fun hm => ⟨?_, ?_⟩⟩
  · exact parse_eq_missingName_iff hm
  · intro hblank
    have hne : Text.trim line.toList ≠ [] := fun h => hblank (Text.trim_eq_nil_iff.1 h)
    rw [ofLine, parse_of_not_mem hm]
    exact exists_ofBare (Text.trimmed_trim _) hne

end HostConsole.Call
