import HostConsole.Completion
import HostConsole.Proofs.Session.Listing
import Mathlib.Data.List.DropRight

/-! Completion. The word in front of the cursor is the longest text there without a delimiter, and
the operations that go with it are those that are listed for it. To take one of them leaves a word
that begins at the same place, and completes to that operation and to no new one. -/

namespace HostConsole

variable {H : Host}

namespace Completion

/-! ### Bytes -/

theorem byteLength_append (a b : List Char) :
    byteLength (a ++ b) = byteLength a + byteLength b := by
  induction a with
  | nil => simp [byteLength]
  | cons c a ih => rw [List.cons_append, byteLength, byteLength, ih, Nat.add_assoc]

theorem byteLength_toList (s : String) : byteLength s.toList = s.utf8ByteSize := by
  suffices h : ∀ cs, byteLength cs = (String.ofList cs).utf8ByteSize by
    rw [h, String.ofList_toList]
  intro cs
  induction cs with
  | nil => rfl
  | cons c cs ih =>
    have hcons : String.ofList (c :: cs) = String.singleton c ++ String.ofList cs := by
      rw [String.singleton_eq_ofList, ← String.ofList_append, List.singleton_append]
    rw [byteLength, ih, hcons, String.utf8ByteSize_append, String.utf8ByteSize_singleton]

/-- The characters in front of a position that stands between two texts. -/
theorem before_append (a b : List Char) : before (byteLength a) (a ++ b) = a := by
  induction a with
  | nil =>
    cases b with
    | nil => rfl
    | cons c b =>
      have hc : ¬c.utf8Size ≤ byteLength [] := Nat.not_le.2 c.utf8Size_pos
      rw [List.nil_append, before, if_neg hc]
  | cons c a ih =>
    rw [List.cons_append, byteLength, before, if_pos (Nat.le_add_right _ _),
      Nat.add_sub_cancel_left, ih]

/-! ### Words -/

/-- A character that no word has in it. -/
def Delimits (c : Char) : Prop :=
  c = '(' ∨ c = ',' ∨ c = '=' ∨ Text.isBlank c = true

instance (c : Char) : Decidable (Delimits c) :=
  inferInstanceAs (Decidable (_ ∨ _ ∨ _ ∨ _))

theorem isDelimiter_iff {c : Char} : isDelimiter c = true ↔ Delimits c := by
  simp [isDelimiter, Delimits, or_assoc]

/-- A text without a delimiter. -/
def IsWord (s : List Char) : Prop :=
  ∀ c ∈ s, ¬Delimits c

instance (s : List Char) : Decidable (IsWord s) :=
  List.decidableBAll (fun c => ¬Delimits c) s

/-- A text that a word can begin behind: it is empty or ends with a delimiter. -/
def Opens (s : List Char) : Prop :=
  s = [] ∨ ∃ rest c, s = rest ++ [c] ∧ Delimits c

theorem isWord_iff {s : List Char} : IsWord s ↔ ∀ c ∈ s, (!isDelimiter c) = true := by
  simp only [IsWord, ← isDelimiter_iff, Bool.not_eq_true, Bool.not_eq_true']

theorem exists_lastWord (s : List Char) :
    ∃ front, s = front ++ lastWord s ∧ Opens front ∧ IsWord (lastWord s) := by
  refine ⟨s.rdropWhile (!isDelimiter ·), ?_, ?_, ?_⟩
  · exact List.rdropWhile_append_rtakeWhile.symm
  · refine or_iff_not_imp_left.2 fun hne => ⟨_, _, (List.dropLast_append_getLast hne).symm, ?_⟩
    have hlast := List.rdropWhile_last_not (!isDelimiter ·) s hne
    rw [← isDelimiter_iff]
    simpa using hlast
  · exact isWord_iff.2 fun c hc => List.mem_rtakeWhile_imp (p := (!isDelimiter ·)) hc

theorem lastWord_append {front word : List Char} (hf : Opens front) (hw : IsWord word) :
    lastWord (front ++ word) = word := by
  have hall : ∀ c ∈ word.reverse, (!isDelimiter c) = true := by
    simpa only [List.mem_reverse] using isWord_iff.1 hw
  have hstop : front.reverse.takeWhile (!isDelimiter ·) = [] := by
    rcases hf with rfl | ⟨rest, c, rfl, hc⟩
    · rfl
    · have hc' : isDelimiter c = true := isDelimiter_iff.2 hc
      simp [hc']
  rw [lastWord, List.reverse_append, List.takeWhile_append_of_pos hall, hstop, List.append_nil,
    List.reverse_reverse]

/-! ### Candidates -/

/-- An operation as it is offered. -/
def candidate (o : Operation H) : Candidate :=
  ⟨o.name, o.listing⟩

theorem ofLine_eq (s : Session H) {front word : String} (hf : Opens front.toList)
    (hw : IsWord word.toList) (back : String) :
    ofLine s (front ++ word ++ back) (front ++ word).utf8ByteSize =
      ⟨front.utf8ByteSize, (s.beginning word).map candidate⟩ := by
  have htext : before (front ++ word).utf8ByteSize (front ++ word ++ back).toList =
      front.toList ++ word.toList := by
    rw [← byteLength_toList, String.toList_append (t := back), before_append,
      String.toList_append]
  have hstart : byteLength (front.toList ++ word.toList) - byteLength word.toList =
      front.utf8ByteSize := by
    rw [byteLength_append, Nat.add_sub_cancel, byteLength_toList]
  simp only [ofLine, htext, lastWord_append hf hw, hstart, String.ofList_toList]
  rfl

/-- The names and the listings of a session are two lists, made one apart from the other; those at
one place in them are of one operation. -/
theorem map_candidate_eq_zip (s : Session H) (word : String) :
    (s.beginning word).map candidate =
      (((s.names "").zip (s.listings "")).filter (Text.beginsAlike ·.1 word)).map
        fun p => ⟨p.1, p.2⟩ := by
  have hall : s.beginning "" = s.operations :=
    List.filter_eq_self.2 fun o _ => Text.beginsAlike_iff.2 List.nil_prefix
  rw [Session.names, Session.listings, hall, List.zip_map', List.filter_map, List.map_map]
  rfl

/-- Every operation that is listed for a word goes on being so when its name takes the place of the
word, and no other comes in. -/
theorem ofLine_replaced (s : Session H) {front : String} (hf : Opens front.toList)
    {o : Operation H} {word : String} (ho : o ∈ s.beginning word) (hw : IsWord o.name.toList)
    (back : String) :
    let c := ofLine s (front ++ o.name ++ back) (front ++ o.name).utf8ByteSize
    c.start = front.utf8ByteSize ∧
      c.candidates.Sublist ((s.beginning word).map candidate) ∧ candidate o ∈ c.candidates := by
  intro c
  have hc : c = ⟨front.utf8ByteSize, (s.beginning o.name).map candidate⟩ :=
    ofLine_eq s hf hw back
  obtain ⟨hmem, hbegins⟩ := Session.mem_beginning.1 ho
  rw [hc]
  refine ⟨rfl, ?_, ?_⟩
  · exact (s.beginning_sublist (Text.beginsAlike_iff.2 hbegins)).map _
  · exact List.mem_map_of_mem (Session.mem_beginning.2 ⟨hmem, List.prefix_rfl⟩)

/-- Completion finds the word in front of the cursor and offers the operations whose names begin
with it, in their order. Where no name has a delimiter in it, each that is offered can be put in
for the word and completed again, with nothing new and itself still among the candidates. -/
theorem completion_of_word (s : Session H) {line : String} {position : Nat}
    (h : String.Pos.Raw.IsValid line ⟨position⟩) :
    let c := ofLine s line position
    String.Pos.Raw.IsValid line ⟨c.start⟩ ∧ c.start ≤ position ∧
    ∃ front word back : String, line = front ++ word ++ back ∧
      c.start = front.utf8ByteSize ∧ position = (front ++ word).utf8ByteSize ∧
      IsWord word.toList ∧ Opens front.toList ∧
      c.candidates = (s.operations.filter fun o =>
        Text.fold word.toList <+: Text.fold o.name.toList).map (fun o => ⟨o.name, o.listing⟩) ∧
      c.candidates = (((s.names "").zip (s.listings "")).filter fun p =>
        Text.beginsAlike p.1 word).map (fun p => ⟨p.1, p.2⟩) ∧
      ((∀ o ∈ s.operations, IsWord o.name.toList) → ∀ d ∈ c.candidates,
        let c' := ofLine s (front ++ d.replacement ++ back) (front ++ d.replacement).utf8ByteSize
        c'.start = c.start ∧ c'.candidates.Sublist c.candidates ∧ d ∈ c'.candidates) := by
  obtain ⟨text, back, rfl, hp⟩ := String.Pos.Raw.isValid_iff_exists_append.1 h
  obtain rfl : position = text.utf8ByteSize := congrArg String.Pos.Raw.byteIdx hp
  obtain ⟨front, htext, hf, hw⟩ := exists_lastWord text.toList
  generalize lastWord text.toList = word at htext hw
  obtain rfl : text = String.ofList front ++ String.ofList word := by
    rw [← String.ofList_append, ← htext, String.ofList_toList]
  rw [← String.toList_ofList (l := front)] at hf
  rw [← String.toList_ofList (l := word)] at hw
  intro c
  have hc : c = ⟨(String.ofList front).utf8ByteSize,
      (s.beginning (String.ofList word)).map candidate⟩ := ofLine_eq s hf hw back
  clear_value c
  subst hc
  refine ⟨?_, ?_, String.ofList front, String.ofList word, back, rfl, rfl, rfl, hw, hf, ?_, ?_, ?_⟩
  · exact String.Pos.Raw.isValid_iff_exists_append.2 ⟨_, _, String.append_assoc, rfl⟩
  · rw [String.utf8ByteSize_append]
    exact Nat.le_add_right _ _
  · simp only [Session.beginning, ← Text.beginsAlike_iff, Bool.decide_eq_true]
    rfl
  · exact map_candidate_eq_zip s _
  · intro hnames d hd
    obtain ⟨o, ho, rfl⟩ := List.mem_map.1 hd
    exact ofLine_replaced s hf ho (hnames o (Session.mem_beginning.1 ho).1) back

theorem completion_of_word_count :
    let s : Session (Demo.host Demo.noHost) := Demo.calculating
    let c := ofLine s "é=Echo(c)" 9
    String.Pos.Raw.IsValid "é=Echo(c)" ⟨9⟩ ∧ (∀ o ∈ s.operations, IsWord o.name.toList) ∧
      c = ⟨8, [⟨"Concat", "Concat(a : string, b : string)"⟩, ⟨"Count", "Count"⟩]⟩ ∧
      ∃ front word back, "é=Echo(c)" = front ++ word ++ back ∧ 8 = front.utf8ByteSize ∧
        9 = (front ++ word).utf8ByteSize ∧
        let c' := ofLine s (front ++ "Count" ++ back) (front ++ "Count").utf8ByteSize
        c'.start = 8 ∧ c'.candidates.Sublist c.candidates ∧ ⟨"Count", "Count"⟩ ∈ c'.candidates := by
  intro s c
  have hvalid : String.Pos.Raw.IsValid "é=Echo(c)" ⟨9⟩ :=
    String.Pos.Raw.isValid_iff_exists_append.2 ⟨"é=Echo(c", ")", rfl, rfl⟩
  have hnames : ∀ o ∈ s.operations, IsWord o.name.toList := by decide
  have hc : c = ⟨8, [⟨"Concat", "Concat(a : string, b : string)"⟩, ⟨"Count", "Count"⟩]⟩ := by decide
  have hcount : ⟨"Count", "Count"⟩ ∈ c.candidates := by simp [hc]
  have hstart : c.start = 8 := congrArg Completion.start hc
  obtain ⟨-, -, front, word, back, hline, hfront, hposition, -, -, -, -, hstable⟩ :=
    completion_of_word s hvalid
  obtain ⟨hagain, hsub, hmem⟩ := hstable hnames _ hcount
  exact ⟨hvalid, hnames, hc, front, word, back, hline, hstart.symm.trans hfront, hposition,
    hagain.trans hstart, hsub, hmem⟩

end Completion

end HostConsole
