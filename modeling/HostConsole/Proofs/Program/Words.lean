import HostConsole.Prompt
import HostConsole.Proofs.Evaluation.Alike
import HostConsole.Proofs.Session.History
import HostConsole.Proofs.Text.Trim

/-! The lines of a prompt. A word of the prompt's own is one in any case, with any number of empty
parentheses behind it. Where no operation has the name of a word, a line asks for one thing by its
text alone: to leave, to list the operations, to be evaluated, or for nothing if it is blank. -/

namespace HostConsole

variable {H : Host}

/-! ### Reports of several actions -/

namespace Session

/-- What an action reports. -/
def report (s : Session H) : Action H → List Entry
  | .help => s.help
  | .evaluate held line => (s.evaluate held line).log
  | .attempt held line => (s.attempt held line).log
  | .register _ | .change _ _ => []

/-- What actions report one after another, each in the session behind those before it. -/
def reportAll (s : Session H) : List (Action H) → List Entry
  | [] => []
  | a :: as => s.report a ++ (s.after a).reportAll as

theorem reportAll_append (s : Session H) (as bs : List (Action H)) :
    s.reportAll (as ++ bs) = s.reportAll as ++ (s.afterAll as).reportAll bs := by
  induction as generalizing s with
  | nil => rfl
  | cons a as ih =>
    rw [List.cons_append, reportAll, reportAll, ih, List.append_assoc]
    rfl

end Session

namespace Prompt

/-! ### Words -/

/-- Empty parentheses, so many times. -/
def calls (n : Nat) : List Char :=
  (List.replicate n ['(', ')']).flatten

/-- A text that is a word in any case, with any number of empty parentheses behind it and white
space around it. -/
def Says (word : String) (text : List Char) : Prop :=
  ∃ w n, Text.alikeAscii w word.toList = true ∧ Text.trim text = w ++ calls n

/-- A text that ends the prompt. -/
def Leaves (text : List Char) : Prop :=
  Says "exit" text ∨ Says "quit" text

theorem calls_succ (n : Nat) : calls (n + 1) = calls n ++ ['(', ')'] := by
  rw [calls, List.replicate_succ', List.flatten_concat, calls]

theorem calls_zero : calls 0 = [] :=
  rfl

theorem dropCalls_append (s : List Char) (n : Nat) : dropCalls (s ++ calls n) = dropCalls s := by
  induction n with
  | zero => rw [calls_zero, List.append_nil]
  | succ n ih =>
    have hstep : dropCalls (s ++ calls n ++ ['(', ')']) = dropCalls (s ++ calls n) := by
      rw [dropCalls, List.reverse_append]
      rfl
    rw [calls_succ, ← List.append_assoc, hstep, ih]

theorem dropCalls_of_not_mem {s : List Char} (h : ')' ∉ s) : dropCalls s = s := by
  have hr : ')' ∉ s.reverse := by rwa [List.mem_reverse]
  have hstrip : dropCalls.strip s.reverse = s.reverse := by
    rw [dropCalls.strip]
    intro r hs
    rw [hs] at hr
    simp at hr
  rw [dropCalls, hstrip, List.reverse_reverse]

theorem exists_calls (s : List Char) : ∃ n, s = dropCalls s ++ calls n := by
  have hstrip : ∀ r : List Char, ∃ n, r.reverse = (dropCalls.strip r).reverse ++ calls n := by
    intro r
    induction r using dropCalls.strip.induct with
    | case1 r ih =>
      obtain ⟨n, hn⟩ := ih
      refine ⟨n + 1, ?_⟩
      rw [dropCalls.strip, calls_succ, ← List.append_assoc, ← hn]
      simp
    | case2 r hr =>
      refine ⟨0, ?_⟩
      rw [dropCalls.strip, calls_zero, List.append_nil]
      exact hr
  obtain ⟨n, hn⟩ := hstrip s.reverse
  rw [List.reverse_reverse] at hn
  exact ⟨n, hn⟩

/-- A text that is a word in any case has none but its letters. -/
theorem not_mem_of_alikeAscii {w word : List Char} (h : Text.alikeAscii w word = true) {c : Char}
    (hc : c.toLower ∉ word.map Char.toLower) : c ∉ w := by
  intro hm
  rw [Text.alikeAscii, beq_iff_eq] at h
  rw [← h] at hc
  exact hc (List.mem_map_of_mem hm)

theorem says_iff {word : String} (hw : ')' ∉ word.toList.map Char.toLower) {text : List Char} :
    Says word text ↔ Text.alikeAscii (dropCalls (Text.trim text)) word.toList = true := by
  constructor
  · rintro ⟨w, n, h, ht⟩
    have hparen : ')' ∉ w := not_mem_of_alikeAscii h hw
    rwa [ht, dropCalls_append, dropCalls_of_not_mem hparen]
  · intro h
    obtain ⟨n, hn⟩ := exists_calls (Text.trim text)
    exact ⟨_, n, h, hn⟩

theorem says_help_iff {text : List Char} :
    Says "help" text ↔ wordOf (dropCalls (Text.trim text)) = some .help := by
  rw [says_iff (by decide), wordOf]
  split
  next hhelp => exact iff_of_true hhelp rfl
  next hhelp =>
    refine iff_of_false hhelp ?_
    split <;> simp

theorem leaves_iff {text : List Char} :
    Leaves text ↔ wordOf (dropCalls (Text.trim text)) = some .leave := by
  rw [Leaves, says_iff (by decide), says_iff (by decide), ← Bool.or_eq_true, wordOf]
  split
  next hhelp =>
    -- no text is alike two words
    refine iff_of_false ?_ (by simp)
    rw [Text.alikeAscii, beq_iff_eq] at hhelp
    rw [Text.alikeAscii, Text.alikeAscii, hhelp]
    decide
  next =>
    split
    next hleave => exact iff_of_true hleave rfl
    next hleave => exact iff_of_false hleave (by simp)

instance (text : List Char) : Decidable (Says "help" text) :=
  decidable_of_iff _ says_help_iff.symm

instance (text : List Char) : Decidable (Leaves text) :=
  decidable_of_iff _ leaves_iff.symm

theorem Says.not_blank {word : String} {text : List Char} (h : Says word text)
    (hw : word.toList ≠ []) : Text.trim text ≠ [] := by
  obtain ⟨w, n, halike, ht⟩ := h
  intro hnil
  rw [ht, List.append_eq_nil_iff] at hnil
  rw [Text.alikeAscii, hnil.1, beq_iff_eq] at halike
  exact hw (List.map_eq_nil_iff.1 halike.symm)

/-- Around the letters of a word there are white space and parentheses only. -/
theorem Says.not_mem {word : String} {text : List Char} (h : Says word text) {c : Char}
    (hw : c.toLower ∉ word.toList.map Char.toLower) (hblank : Text.isBlank c = false)
    (hopen : c ≠ '(') (hclose : c ≠ ')') : c ∉ text := by
  obtain ⟨w, n, halike, ht⟩ := h
  have hcalls : c ∉ calls n := by simp [calls, hopen, hclose]
  rw [← Text.mem_trim hblank, ht, List.mem_append, not_or]
  exact ⟨not_mem_of_alikeAscii halike hw, hcalls⟩

theorem Leaves.not_mem_backspace {text : List Char} (h : Leaves text) : '\x08' ∉ text := by
  rcases h with h | h
  · exact h.not_mem (by decide) rfl (by decide) (by decide)
  · exact h.not_mem (by decide) rfl (by decide) (by decide)

/-! ### Lines -/

/-- What a line asks the session to do, where it does not leave. -/
inductive Asks : List Char → List (Action H) → Prop where
  | blank {text : List Char} (h : Text.trim text = []) : Asks text []
  | help {text : List Char} (h : Says "help" text) : Asks text [.help]
  | line {text : List Char} (hne : Text.trim text ≠ []) (hh : ¬Says "help" text)
      (hl : ¬Leaves text) : Asks text [.evaluate [] (String.ofList (Text.trim text))]

theorem exists_asks {text : List Char} (hl : ¬Leaves text) :
    ∃ actions : List (Action H), Asks text actions := by
  by_cases hne : Text.trim text = []
  · exact ⟨_, .blank hne⟩
  · by_cases hh : Says "help" text
    · exact ⟨_, .help hh⟩
    · exact ⟨_, .line hne hh hl⟩

/-- No operation has a word of the prompt for its name. -/
def Wordless (s : Session H) : Prop :=
  ∀ word ∈ ["help", "exit", "quit"], Session.operation? s.operations word = none

theorem Wordless.evaluate {s : Session H} (h : Wordless s) (held : List H.Kind) (line : String) :
    Wordless (s.evaluate held line).session := by
  obtain ⟨b, hs⟩ := s.session_attempt held line
  have hsession : (s.evaluate held line).session = (s.attempt held line).session := rfl
  rw [hsession, hs]
  exact h

theorem Asks.wordless {s : Session H} (hs : Wordless s) {text : List Char}
    {actions : List (Action H)} (h : Asks text actions) : Wordless (s.afterAll actions) := by
  cases h with
  | blank => exact hs
  | help => exact hs
  | line => exact hs.evaluate [] _

theorem exists_alike_of_wordOf {text : List Char} {w : Word} (h : wordOf text = some w) :
    ∃ word ∈ ["help", "exit", "quit"], Text.alikeAscii text word.toList = true := by
  unfold wordOf at h
  split at h
  next hhelp => exact ⟨"help", by simp, hhelp⟩
  next =>
    split at h
    next hleave =>
      rcases Bool.or_eq_true_iff.1 hleave with hexit | hquit
      · exact ⟨"exit", by simp, hexit⟩
      · exact ⟨"quit", by simp, hquit⟩
    next => cases h

/-- Where no operation comes first, a word is the prompt's. -/
theorem Wordless.word?_eq {s : Session H} (hs : Wordless s) (line : List Char) :
    word? s line = wordOf (dropCalls line) := by
  cases hw : wordOf (dropCalls line) with
  | none => simp only [word?, hw]
  | some w =>
    obtain ⟨word, hword, halike⟩ := exists_alike_of_wordOf hw
    have hfold : Text.fold (String.ofList (dropCalls line)).toList = Text.fold word.toList := by
      rw [String.toList_ofList]
      exact Text.fold_eq_of_alikeAscii halike
    have hnone := (Session.operation?_congr s.operations hfold).trans (hs word hword)
    simp only [word?, hw, hnone, Option.isSome_none, Bool.false_eq_true, if_false]

theorem step_of_asks {s : Session H} (hs : Wordless s) {text : List Char}
    {actions : List (Action H)} (h : Asks text actions) :
    step s text = ⟨s.reportAll actions, some (s.afterAll actions)⟩ := by
  cases h with
  | blank h =>
    simp only [step, h, List.isEmpty_nil, if_true, Session.reportAll, Session.afterAll,
      List.foldl_nil]
  | help h =>
    have hne : (Text.trim text).isEmpty = false := by
      simpa using h.not_blank (by decide)
    have hword : word? s (Text.trim text) = some .help :=
      (hs.word?_eq _).trans (says_help_iff.1 h)
    simp [step, hne, hword, Session.reportAll, Session.report, Session.afterAll, Session.after]
  | line hne hh hl =>
    have hne' : (Text.trim text).isEmpty = false := by simpa using hne
    have hword : word? s (Text.trim text) = none := by
      rw [hs.word?_eq]
      rw [says_help_iff] at hh
      rw [leaves_iff] at hl
      cases hw : wordOf (dropCalls (Text.trim text)) with
      | none => rfl
      | some w =>
        cases w with
        | help => exact absurd hw hh
        | leave => exact absurd hw hl
    simp [step, hne', hword, Session.reportAll, Session.report, Session.afterAll, Session.after]

theorem step_of_leaves {s : Session H} (hs : Wordless s) {text : List Char} (h : Leaves text) :
    step s text = ⟨[], none⟩ := by
  have hne : (Text.trim text).isEmpty = false := by
    have hnot : Text.trim text ≠ [] :=
      h.elim (fun h => h.not_blank (by decide)) (fun h => h.not_blank (by decide))
    simpa using hnot
  have hword : word? s (Text.trim text) = some .leave := (hs.word?_eq _).trans (leaves_iff.1 h)
  simp [step, hne, hword]

end Prompt

end HostConsole
