import HostConsole.Proofs.Call.Depth
import HostConsole.Proofs.Call.Reading
import Mathlib.Logic.Relation

/-! The cuts between the arguments of a call. They are at the commas outside all parentheses and
nowhere else, which determines the pieces, and the pieces are well nested again. So whatever has to
be read as a call in order to read a line closes what it opens and is shorter than the line. -/

namespace HostConsole.Call

/-- Texts that are cut out of a whole at its commas at depth zero: these, and no others, stand
between one of the texts and the next. -/
structure IsCut (ss : List (List Char)) (s : List Char) : Prop where
  nonempty : ss ≠ []
  joined : [','].intercalate ss = s
  commas : ∀ a b, s = a ++ ',' :: b → (depth a = 0 ↔
    ∃ before after, before ≠ [] ∧ after ≠ [] ∧ ss = before ++ after ∧ a = [','].intercalate before)

/-! ### Pieces -/

theorem intercalate_append {ss ts : List (List Char)} (hs : ss ≠ []) (ht : ts ≠ []) :
    [','].intercalate (ss ++ ts) = [','].intercalate ss ++ ',' :: [','].intercalate ts := by
  induction ss with
  | nil => exact absurd rfl hs
  | cons s ss ih =>
    rw [List.cons_append]
    cases ss with
    | nil => rw [List.nil_append, intercalate_comma_cons ht, List.intercalate_singleton]
    | cons u us =>
      have hu : u :: us ≠ [] := List.cons_ne_nil u us
      rw [intercalate_comma_cons (by simp), ih hu, intercalate_comma_cons hu, List.append_assoc,
        List.cons_append]

/-- A comma at depth zero separates the pieces before it from those behind it. -/
theorem pieces_append_of_balanced {a b : List Char} (ha : Balanced a) (hb : Balanced b) :
    pieces 0 (a ++ ',' :: b) = pieces 0 a ++ pieces 0 b := by
  have hjoin : [','].intercalate (pieces 0 a ++ pieces 0 b) = a ++ ',' :: b := by
    rw [intercalate_append (pieces_ne_nil 0 a) (pieces_ne_nil 0 b), intercalate_pieces,
      intercalate_pieces]
  rw [← hjoin]
  refine pieces_intercalate (by simp [pieces_ne_nil]) fun p hp => ?_
  rcases List.mem_append.1 hp with hp | hp
  · exact isPiece_of_mem_pieces ha hp
  · exact isPiece_of_mem_pieces hb hp

theorem pieces_eq_singleton {s : List Char} (hs : WellNested s)
    (h : ∀ a b, s = a ++ ',' :: b → depth a ≠ 0) : pieces 0 s = [s] := by
  have hjoin := intercalate_pieces 0 s
  obtain ⟨p, ps, hp⟩ := List.exists_cons_of_ne_nil (pieces_ne_nil 0 s)
  cases ps with
  | nil =>
    rw [hp, List.intercalate_singleton] at hjoin
    rw [hp, hjoin]
  | cons q qs =>
    have hpiece : IsPiece p :=
      isPiece_of_mem_pieces (balanced_iff.2 hs) (by rw [hp]; exact List.mem_cons_self)
    rw [hp, intercalate_comma_cons (by simp)] at hjoin
    exact absurd (balanced_iff.1 hpiece.1).zero (h p _ hjoin.symm)

theorem isCut_pieces {s : List Char} (hs : WellNested s) : IsCut (pieces 0 s) s := by
  refine ⟨pieces_ne_nil 0 s, intercalate_pieces 0 s, ?_⟩
  rintro a b rfl
  constructor
  · intro ha
    obtain ⟨hleft, hright⟩ := hs.of_comma ha
    exact ⟨pieces 0 a, pieces 0 b, pieces_ne_nil 0 a, pieces_ne_nil 0 b,
      pieces_append_of_balanced (balanced_iff.2 hleft) (balanced_iff.2 hright),
      (intercalate_pieces 0 a).symm⟩
  · rintro ⟨before, after, -, -, hp, rfl⟩
    have hbefore : ∀ p ∈ before, Balanced p := fun p hmem =>
      (isPiece_of_mem_pieces (balanced_iff.2 hs) (by rw [hp]; exact List.mem_append_left _ hmem)).1
    exact (balanced_iff.1 (balanced_intercalate hbefore)).zero

namespace IsCut

variable {s t r : List Char} {ss : List (List Char)}

/-- Behind its first comma at depth zero the rest of a text is cut into the rest of the texts. -/
theorem tail (h : IsCut (t :: ss) (t ++ ',' :: r)) (hne : ss ≠ []) (ht : depth t = 0) :
    IsCut ss r := by
  have hjoined := h.joined
  rw [intercalate_comma_cons hne] at hjoined
  refine ⟨hne, by simpa using hjoined, fun a b hr => ?_⟩
  have hcommas := h.commas (t ++ ',' :: a) b (by simp [hr])
  have hdepth : depth (t ++ ',' :: a) = depth a := by
    rw [depth_append, ht, Int.zero_add]
    exact (depth_append [','] a).trans (Int.zero_add _)
  rw [hdepth] at hcommas
  rw [hcommas]
  constructor
  · rintro ⟨before, after, hb, ha, hss, he⟩
    obtain ⟨u, before, rfl⟩ := List.exists_cons_of_ne_nil hb
    obtain ⟨rfl, rfl⟩ := List.cons.inj hss
    have hb' : before ≠ [] := by
      rintro rfl
      simp at he
    rw [intercalate_comma_cons hb'] at he
    exact ⟨before, after, hb', ha, rfl, by simpa using he⟩
  · rintro ⟨before, after, hb, ha, rfl, rfl⟩
    exact ⟨t :: before, after, by simp, ha, rfl, (intercalate_comma_cons hb t).symm⟩

/-- The commas determine the texts. -/
theorem eq_pieces (h : IsCut ss s) (hs : WellNested s) : ss = pieces 0 s := by
  induction ss generalizing s with
  | nil => exact absurd rfl h.nonempty
  | cons t ss ih =>
    -- a comma at depth zero in the first text would be one of the whole, but is no cut
    have hfirst : ∀ a b, t = a ++ ',' :: b → depth a ≠ 0 := by
      rintro a b rfl ha
      obtain ⟨c, hc⟩ : ∃ c, s = a ++ ',' :: c := by
        cases ss with
        | nil => exact ⟨b, by simpa using h.joined.symm⟩
        | cons u us => exact ⟨_, by simpa using h.joined.symm⟩
      obtain ⟨before, after, hb, -, hss, he⟩ := (h.commas a c hc).1 ha
      obtain ⟨u, before, rfl⟩ := List.exists_cons_of_ne_nil hb
      obtain ⟨rfl, -⟩ := List.cons.inj hss
      have hlen := congrArg List.length he
      cases before with
      | nil => simp at hlen
      | cons v vs =>
        rw [intercalate_comma_cons (by simp)] at hlen
        simp at hlen
    have hjoined := h.joined
    cases ss with
    | nil =>
      rw [List.intercalate_singleton] at hjoined
      subst hjoined
      exact (pieces_eq_singleton hs hfirst).symm
    | cons u us =>
      rw [intercalate_comma_cons (by simp)] at hjoined
      subst hjoined
      have ht : depth t = 0 :=
        (h.commas t _ rfl).2 ⟨[t], u :: us, by simp, by simp, rfl, by simp⟩
      obtain ⟨hleft, hright⟩ := hs.of_comma ht
      rw [pieces_append_of_balanced (balanced_iff.2 hleft) (balanced_iff.2 hright),
        pieces_eq_singleton hleft hfirst, ← ih (h.tail (by simp) ht) hright, List.singleton_append]

end IsCut

theorem isCut_iff {s : List Char} (hs : WellNested s) {ss : List (List Char)} :
    IsCut ss s ↔ ss = pieces 0 s := by
  constructor
  · exact fun h => h.eq_pieces hs
  · rintro rfl
    exact isCut_pieces hs

/-! ### Segments -/

theorem WellNested.of_mem_segments {body s : List Char} (hb : WellNested body)
    (hs : s ∈ segments body) : WellNested s := by
  rw [segments] at hs
  split at hs
  · cases hs
  · obtain ⟨p, hp, rfl⟩ := List.mem_map.1 hs
    exact (balanced_iff.1 (isPiece_of_mem_pieces (balanced_iff.2 hb) hp).1).trim

/-- A text that may have to be read as a call for another to be read: it is the text of one of the
other's arguments, and it has a parenthesis. -/
inductive Nests (text : List Char) : List Char → Prop where
  | argument {name body s : List Char} (ho : outline text = .ok (.call name body))
      (hs : s ∈ segments body) (hm : '(' ∈ s) : Nests text s

theorem Nests.wellNested {text s : List Char} (h : Nests text s) : WellNested s := by
  cases h with
  | argument ho hs =>
    obtain ⟨⟨-, -, -, hb⟩, -⟩ := outline_eq_call_iff.1 ho
    exact (balanced_iff.1 hb).of_mem_segments hs

theorem Nests.length_lt {text s : List Char} (h : Nests text s) : s.length < text.length := by
  cases h with
  | argument ho hs => exact Nat.lt_of_le_of_lt (length_of_mem_segments hs) (length_of_outline ho)

/-- What is read for a text, at any depth, is no longer than the text. -/
theorem length_le_of_nests {text s : List Char} (h : Relation.ReflTransGen Nests text s) :
    s.length ≤ text.length := by
  induction h with
  | refl => exact Nat.le_refl _
  | tail _ hn ih => exact hn.length_lt.le.trans ih

/-- A segment read as an argument if `read` tells what is nested in a text. -/
def argumentWith (read : List Char → Except CallFault Call) (s : List Char) :
    Except CallFault Argument :=
  if s.contains '(' then (read s).map .ofCall else .ok (.text (String.ofList s))

/-- One step of reading: what a text is read as if `read` tells what is nested in it. -/
def readWith (read : List Char → Except CallFault Call) (text : List Char) :
    Except CallFault Call :=
  (outline text).bind fun
    | .bare line => ofBare line
    | .call name body =>
      ((segments body).mapM (argumentWith read)).map (⟨String.ofList name, ·⟩)

theorem mapM_congr {ε α β : Type} {f g : α → Except ε β} {as : List α}
    (h : ∀ a ∈ as, f a = g a) : as.mapM f = as.mapM g := by
  induction as with
  | nil => rfl
  | cons a as ih =>
    rw [List.mapM_cons, List.mapM_cons, h a List.mem_cons_self,
      ih fun b hb => h b (List.mem_cons_of_mem a hb)]

theorem parse_eq_readWith (text : List Char) : parse text = readWith parse text :=
  parse_eq text

/-- Nothing but what is nested in a text is read for it. -/
theorem readWith_congr {f g : List Char → Except CallFault Call} {text : List Char}
    (h : ∀ s, Nests text s → f s = g s) : readWith f text = readWith g text := by
  unfold readWith
  cases ho : outline text with
  | error e => rfl
  | ok o =>
    cases o with
    | bare line => rfl
    | call name body =>
      have hsegments : (segments body).mapM (argumentWith f) =
          (segments body).mapM (argumentWith g) := mapM_congr fun s hs => by
        unfold argumentWith
        split
        · next hm => rw [h s (.argument ho hs (by simpa using hm))]
        · rfl
      change Except.map _ _ = Except.map _ _
      rw [hsegments]

/-- The counters are safe on every line, and nothing is lost where a line is cut. The search for the
parenthesis that closes another never lowers its counter at zero, and what stands between the two is
well nested. A well-nested text is cut without its counter ever being lowered at zero, and the
pieces are the only texts whose cuts are the commas at depth zero; the segments are the pieces,
trimmed. So all that is read for a line, at any depth, is well nested and shorter than the line, and
shorter than what it is nested in. -/
theorem depths_of_line (line : List Char) :
    (∀ a b, line = a ++ '(' :: b →
      countedClosing 0 ('(' :: b) = .ok ((splitClosing 0 b).map fun p => ('(' :: p.1, p.2)) ∧
      ∀ body rest, splitClosing 0 b = some (body, rest) →
        b = body ++ ')' :: rest ∧ WellNested body ∧ ∀ s ∈ segments body, s.length < line.length) ∧
    (∀ body, WellNested body →
      countedPieces 0 body = .ok (pieces 0 body) ∧
      (∀ ss, IsCut ss body ↔ ss = pieces 0 body) ∧
      [','].intercalate (pieces 0 body) = body ∧
      (¬Text.isAllBlank body → segments body = (pieces 0 body).map Text.trim) ∧
      ∀ s ∈ segments body, WellNested s ∧ ('(' ∉ s → ')' ∉ s)) ∧
    (∀ text, Relation.ReflTransGen Nests line text →
      ∀ s, Nests text s → WellNested s ∧ s.length < text.length ∧ s.length < line.length) ∧
    parse line = readWith parse line ∧
      ∀ read, (∀ s, Nests line s → read s = parse s) → readWith read line = parse line := by
  refine ⟨?closing, fun body hb => ⟨hb.countedPieces_eq, fun ss => isCut_iff hb,
    intercalate_pieces 0 body, fun hblank => if_neg hblank, fun s hs => ?segment⟩, ?nested,
    parse_eq_readWith line, fun read h => ?read⟩
  case closing =>
    rintro a b rfl
    refine ⟨countedClosing_parenthesis b, fun body rest hs => ?_⟩
    obtain ⟨hb, rfl⟩ := splitClosing_eq_some_iff.1 hs
    refine ⟨rfl, balanced_iff.1 hb, fun s hs => ?_⟩
    have hle := length_of_mem_segments hs
    simp only [List.length_append, List.length_cons]
    omega
  case segment =>
    have hwell := hb.of_mem_segments hs
    exact ⟨hwell, hwell.not_mem⟩
  case nested =>
    intro text ht s hs
    exact ⟨hs.wellNested, hs.length_lt, hs.length_lt.trans_le (length_le_of_nests ht)⟩
  case read =>
    rw [readWith_congr h, ← parse_eq_readWith]

/-- An argument without a name is nested all the same. Nothing as long as the line is read for it. -/
theorem depths_of_line_nameless :
    let line := "F(g(1, 2), ,(3))".toList
    let body := "g(1, 2), ,(3)".toList
    let read (s : List Char) : Except CallFault Call :=
      if s.length < line.length then parse s else .error .unclosed
    line = "F".toList ++ '(' :: (body ++ [')']) ∧
      countedClosing 0 ('(' :: (body ++ [')'])) = .ok (some ('(' :: body, [])) ∧
      WellNested body ∧ countedPieces 0 body = .ok (pieces 0 body) ∧
      IsCut ["g(1, 2)".toList, " ".toList, "(3)".toList] body ∧ ¬Text.isAllBlank body ∧
      segments body = ["g(1, 2)".toList, [], "(3)".toList] ∧
      Relation.ReflTransGen Nests line line ∧ Nests line "(3)".toList ∧
      WellNested "(3)".toList ∧ "(3)".toList.length < line.length ∧
      (∀ s, Nests line s → read s = parse s) ∧ readWith read line = parse line := by
  intro line body read
  obtain ⟨hclosing, hcut, hnested, -, hread⟩ := depths_of_line line
  have hline : line = "F".toList ++ '(' :: (body ++ [')']) := rfl
  obtain ⟨hcounted, hfound⟩ := hclosing "F".toList (body ++ [')']) hline
  obtain ⟨-, hbody, -⟩ := hfound body [] rfl
  obtain ⟨hpieces, hiscut, -, hsegments, -⟩ := hcut body hbody
  have hblank : ¬Text.isAllBlank body := by decide
  have houtline : outline line = .ok (.call "F".toList body) := rfl
  have hnests : Nests line "(3)".toList :=
    .argument houtline (by rw [hsegments hblank]; decide) (by decide)
  have hagree : ∀ s, Nests line s → read s = parse s := fun s hs =>
    if_pos (hnested line .refl s hs).2.1
  obtain ⟨hwell, -, hlt⟩ := hnested line .refl _ hnests
  exact ⟨hline, hcounted, hbody, hpieces, (hiscut _).2 rfl, hblank, hsegments hblank, .refl, hnests,
    hwell, hlt, hagree, hread read hagree⟩

end HostConsole.Call
