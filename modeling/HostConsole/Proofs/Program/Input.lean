import HostConsole.Program
import Mathlib.Data.List.Basic

/-! Input as bytes. Lines that are fed with a line feed behind each are read back, and the lines
that are read from an input give it back when they are fed, up to the line feed that its last line
may lack. The bytes of a text have a line feed only where the text has one. -/

namespace HostConsole.Program

/-- The input that consists of these lines, each with its line feed. -/
def feed (lines : List (List UInt8)) : List UInt8 :=
  lines.flatMap (· ++ [10])

theorem feed_cons (line : List UInt8) (lines : List (List UInt8)) :
    feed (line :: lines) = line ++ 10 :: feed lines := by
  simp [feed]

theorem feed_append (as bs : List (List UInt8)) : feed (as ++ bs) = feed as ++ feed bs :=
  List.flatMap_append

/-! ### Lines that are fed -/

theorem byteLines_feed_cons (r : List UInt8) : byteLines (10 :: r) = [] :: byteLines r := by
  rw [byteLines, if_pos rfl]

theorem byteLines_cons {b : UInt8} (hb : b ≠ 10) {r line : List UInt8} {lines : List (List UInt8)}
    (hr : byteLines r = line :: lines) : byteLines (b :: r) = (b :: line) :: lines := by
  rw [byteLines, if_neg hb, hr]

theorem byteLines_single {b : UInt8} (hb : b ≠ 10) : byteLines [b] = [[b]] := by
  rw [byteLines, if_neg hb, byteLines]

theorem byteLines_line {line : List UInt8} (h : 10 ∉ line) (r : List UInt8) :
    byteLines (line ++ 10 :: r) = line :: byteLines r := by
  induction line with
  | nil => exact byteLines_feed_cons r
  | cons b line ih =>
    rw [List.mem_cons, not_or] at h
    exact byteLines_cons (Ne.symm h.1) (ih h.2)

theorem byteLines_feed_append {lines : List (List UInt8)} (h : ∀ line ∈ lines, 10 ∉ line)
    (r : List UInt8) : byteLines (feed lines ++ r) = lines ++ byteLines r := by
  induction lines with
  | nil => rfl
  | cons line lines ih =>
    rw [List.forall_mem_cons] at h
    rw [feed_cons, List.append_assoc, List.cons_append, byteLines_line h.1, ih h.2,
      List.cons_append]

theorem byteLines_feed {lines : List (List UInt8)} (h : ∀ line ∈ lines, 10 ∉ line) :
    byteLines (feed lines) = lines := by
  have hfeed := byteLines_feed_append h []
  rwa [List.append_nil, byteLines, List.append_nil] at hfeed

/-! ### Lines that are read -/

theorem not_mem_byteLines (input : List UInt8) : ∀ line ∈ byteLines input, 10 ∉ line := by
  induction input with
  | nil => simp [byteLines]
  | cons b r ih =>
    by_cases hb : b = 10
    · rw [hb, byteLines_feed_cons]
      exact List.forall_mem_cons.2 ⟨List.not_mem_nil, ih⟩
    · cases hr : byteLines r with
      | nil =>
        rw [byteLines, if_neg hb, hr]
        simpa using Ne.symm hb
      | cons line lines =>
        rw [hr, List.forall_mem_cons] at ih
        rw [byteLines_cons hb hr]
        refine List.forall_mem_cons.2 ⟨?_, ih.2⟩
        rw [List.mem_cons, not_or]
        exact ⟨Ne.symm hb, ih.1⟩

theorem byteLines_ne_nil {input : List UInt8} (h : input ≠ []) : byteLines input ≠ [] := by
  cases input with
  | nil => exact absurd rfl h
  | cons b r =>
    rw [byteLines]
    split
    · exact List.cons_ne_nil _ _
    · split <;> exact List.cons_ne_nil _ _

/-- What an input lacks of the line feeds of its lines. -/
def lacking (input : List UInt8) : List UInt8 :=
  if input = [] ∨ input.getLast? = some 10 then [] else [10]

theorem lacking_cons_cons (b c : UInt8) (r : List UInt8) :
    lacking (b :: c :: r) = lacking (c :: r) := by
  simp only [lacking, List.getLast?_cons_cons, reduceCtorEq]

theorem feed_byteLines (input : List UInt8) : feed (byteLines input) = input ++ lacking input := by
  induction input with
  | nil => rfl
  | cons b r ih =>
    cases r with
    | nil =>
      by_cases hb : b = 10
      · subst hb
        rfl
      · have hlast : ¬([b] = [] ∨ [b].getLast? = some 10) := by simpa using hb
        rw [byteLines_single hb, lacking, if_neg hlast]
        rfl
    | cons c r =>
      rw [lacking_cons_cons, List.cons_append, ← ih]
      by_cases hb : b = 10
      · rw [hb, byteLines_feed_cons, feed_cons, List.nil_append]
      · obtain ⟨line, lines, hl⟩ := List.exists_cons_of_ne_nil
          (byteLines_ne_nil (List.cons_ne_nil c r))
        rw [byteLines_cons hb hl, hl, feed_cons, feed_cons, List.cons_append]

/-- Bytes that are empty or end in a line feed leave no line open. -/
theorem byteLines_append {a : List UInt8} (ha : a = [] ∨ a.getLast? = some 10) (r : List UInt8) :
    byteLines (a ++ r) = byteLines a ++ byteLines r := by
  have hfeed := feed_byteLines a
  rw [lacking, if_pos ha, List.append_nil] at hfeed
  have happend := byteLines_feed_append (not_mem_byteLines a) r
  rwa [hfeed] at happend

/-- The line feed of the last line may be missing. -/
theorem byteLines_concat {a : List UInt8} (ha : ¬(a = [] ∨ a.getLast? = some 10)) :
    byteLines (a ++ [10]) = byteLines a := by
  have hfeed := feed_byteLines a
  rw [lacking, if_neg ha] at hfeed
  rw [← hfeed, byteLines_feed (not_mem_byteLines a)]

/-- An input has no other lines than those that give it back when they are fed. -/
theorem eq_byteLines {input : List UInt8} {lines : List (List UInt8)}
    (h : ∀ line ∈ lines, 10 ∉ line) (hf : feed lines = input ++ lacking input) :
    lines = byteLines input := by
  have hlines : byteLines (input ++ lacking input) = byteLines input := by
    by_cases hclosed : input = [] ∨ input.getLast? = some 10
    · rw [lacking, if_pos hclosed, List.append_nil]
    · rw [lacking, if_neg hclosed, byteLines_concat hclosed]
  rw [← hlines, ← hf, byteLines_feed h]

/-- Lines that are not empty are read back although the last line feed is missing. -/
theorem byteLines_of_feed {input : List UInt8} {lines : List (List UInt8)}
    (h : ∀ line ∈ lines, 10 ∉ line) (hne : ∀ line ∈ lines, line ≠ [])
    (hi : input = feed lines ∨ input ++ [10] = feed lines) : byteLines input = lines := by
  rcases hi with rfl | hi
  · exact byteLines_feed h
  · rcases List.eq_nil_or_concat lines with rfl | ⟨lines, last, rfl⟩
    · simp [feed] at hi
    · rw [List.concat_eq_append] at h hne hi ⊢
      have hmem : last ∈ lines ++ [last] := List.mem_append_right _ (List.mem_singleton_self last)
      have hinput : input = feed lines ++ last := by
        rw [feed_append, feed_cons, ← List.append_assoc] at hi
        exact List.append_cancel_right hi
      have hopen : ¬(last = [] ∨ last.getLast? = some 10) :=
        not_or.2 ⟨hne last hmem, fun hl => h last hmem (List.mem_of_getLast? hl)⟩
      rw [hinput, byteLines_feed_append fun line hl => h line (List.mem_append_left _ hl),
        ← byteLines_concat hopen, byteLines_line (h last hmem), byteLines]

/-! ### Texts as bytes -/

/-- A text in its encoding. -/
def bytes (text : String) : List UInt8 :=
  text.toUTF8.data.toList

theorem fromUTF8?_bytes (text : String) : String.fromUTF8? ⟨(bytes text).toArray⟩ = some text := by
  have harray : (⟨(bytes text).toArray⟩ : ByteArray) = text.toUTF8 := by
    rw [bytes, Array.toArray_toList]
  rw [harray, String.toUTF8_eq_toByteArray, String.fromUTF8?, dif_pos text.isValidUTF8]
  rfl

theorem bytes_eq (text : String) : bytes text = text.toList.flatMap String.utf8EncodeChar := by
  rw [bytes, String.toUTF8_eq_toByteArray, ← String.utf8Encode_toList, List.utf8Encode,
    List.toList_data_toByteArray]

theorem bytes_ne_nil {text : String} (h : text.toList ≠ []) : bytes text ≠ [] := by
  obtain ⟨c, r, hc⟩ := List.exists_cons_of_ne_nil h
  rw [bytes_eq, hc, List.flatMap_cons]
  exact List.append_ne_nil_of_left_ne_nil String.utf8EncodeChar_ne_nil _

theorem not_mem_utf8EncodeChar {c : Char} (hc : c ≠ '\n') : 10 ∉ String.utf8EncodeChar c := by
  have hn : c.val.toNat ≠ 10 := fun h => hc (Char.ext (UInt32.toNat_inj.1 h))
  have hbyte : ∀ n, 10 = UInt8.ofNat n → n % 256 = 10 := fun n h => by
    have := congrArg UInt8.toNat h
    rw [UInt8.toNat_ofNat'] at this
    exact this.symm
  unfold String.utf8EncodeChar
  intro hm
  dsimp only at hm
  split_ifs at hm with h₁ h₂ h₃
  · rw [List.mem_singleton] at hm
    have := hbyte _ hm
    omega
  · simp only [List.mem_cons, List.not_mem_nil, or_false] at hm
    rcases hm with hm | hm <;> have := hbyte _ hm <;> omega
  · simp only [List.mem_cons, List.not_mem_nil, or_false] at hm
    rcases hm with hm | hm | hm <;> have := hbyte _ hm <;> omega
  · simp only [List.mem_cons, List.not_mem_nil, or_false] at hm
    rcases hm with hm | hm | hm | hm <;> have := hbyte _ hm <;> omega

theorem not_mem_bytes {text : String} (h : '\n' ∉ text.toList) : 10 ∉ bytes text := by
  rw [bytes_eq, List.mem_flatMap]
  rintro ⟨c, hc, hb⟩
  exact not_mem_utf8EncodeChar (fun hn => h (hn ▸ hc)) hb

end HostConsole.Program
