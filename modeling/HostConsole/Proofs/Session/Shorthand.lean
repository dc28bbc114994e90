import HostConsole.Proofs.Session.Naming
import HostConsole.Proofs.Session.Padding

/-! The forms of a call without and with parentheses. A name alone stands for the name with empty
parentheses, and a name with a text behind white space for the name with the text in parentheses.
The first forms can be the name of a variable and the second cannot; apart from that, both are read
as one call. -/

namespace HostConsole

open Call

variable {H : Host}

/-- A name that can be called without parentheses. -/
structure IsToken (n : String) : Prop where
  nonempty : n ≠ ""
  noBlank : ∀ c ∈ n.toList, Text.isBlank c = false
  noParenthesis : '(' ∉ n.toList
  noEquals : '=' ∉ n.toList

/-- A text that is one argument, in parentheses and behind white space alike. -/
structure IsArgumentText (a : String) : Prop where
  nonempty : a ≠ ""
  trimmed : Text.Trimmed a.toList
  unmarked : Unmarked a.toList
  noEquals : '=' ∉ a.toList

/-! ### Reading -/

namespace IsToken

variable {n a w : String}

theorem trimmed (hn : IsToken n) : Text.Trimmed n.toList :=
  Text.trimmed_of_not_blank hn.noBlank

theorem parse_name (hn : IsToken n) : parse n.toList = .ok ⟨n, []⟩ := by
  have hne : n.toList ≠ [] := by simpa using hn.nonempty
  rw [parse_of_not_mem hn.noParenthesis, hn.trimmed, ofBare_name hne hn.noBlank,
    String.ofList_toList]

theorem parse_parentheses (hn : IsToken n) : parse (n ++ "()").toList = .ok ⟨n, []⟩ := by
  have hw : Call.WellFormed ⟨n, []⟩ :=
    ⟨hn.nonempty, hn.trimmed, hn.noParenthesis, by simp, by simp⟩
  have hs : Call.Spells ⟨n, []⟩ ([] ++ n.toList ++ [] ++ '(' :: [] ++ ')' :: []) :=
    .call rfl rfl rfl rfl (by simp) (.inl ⟨rfl, rfl⟩)
  refine parse_of_spells hw ?_
  simpa using hs

/-- White space inside a text is not cut off. -/
theorem trimmed_shorthand (hn : IsToken n) (ha : IsArgumentText a) (w : String) :
    Text.Trimmed (n ++ w ++ a).toList := by
  rw [String.toList_append, String.toList_append]
  exact hn.trimmed.between (by simpa using hn.nonempty) ha.trimmed (by simpa using ha.nonempty) _

theorem parse_shorthand (hn : IsToken n) (ha : IsArgumentText a) (hw : Text.isAllBlank w.toList)
    (hne : w ≠ "") : parse (n ++ w ++ a).toList = .ok ⟨n, [.text a]⟩ := by
  have htrim := hn.trimmed_shorthand ha w
  obtain ⟨c, r, hcr⟩ : ∃ c r, w.toList = c :: r :=
    List.exists_cons_of_ne_nil (by simpa using hne)
  rw [String.toList_append, String.toList_append, hcr] at htrim ⊢
  rw [hcr] at hw
  have hc : Text.isBlank c = true := Text.isAllBlank_iff.1 hw c List.mem_cons_self
  have hr : Text.isAllBlank r := by rwa [Text.isAllBlank_cons hc] at hw
  have hopen : '(' ∉ n.toList ++ c :: r ++ a.toList := by
    simp only [List.mem_append, not_or]
    exact ⟨⟨hn.noParenthesis, (unmarked_of_blank hw).1⟩, ha.unmarked.1⟩
  have hargument : Text.trim (r ++ a.toList) = a.toList := by
    have h := Text.trim_pad hr Text.isAllBlank_nil a.toList
    rwa [List.append_nil, ha.trimmed] at h
  rw [parse_of_not_mem hopen, htrim, List.append_assoc, List.cons_append,
    ofBare_shorthand hn.noBlank hc, hargument, String.ofList_toList, String.ofList_toList]

theorem parse_argument (hn : IsToken n) (ha : IsArgumentText a) :
    parse (n ++ "(" ++ a ++ ")").toList = .ok ⟨n, [.text a]⟩ := by
  have hw : Call.WellFormed ⟨n, [.text a]⟩ := by
    refine ⟨hn.nonempty, hn.trimmed, hn.noParenthesis, ?_, ?_⟩
    · simpa using ha.nonempty
    · simpa using Argument.WellFormed.text ha.trimmed ha.unmarked
  refine parse_of_spells hw ?_
  simpa [Call.Spells, Argument.ofCall] using (Argument.spells_self a).single n

end IsToken

/-! ### Evaluation -/

namespace Session

variable {s : Session H} {held : List H.Kind} {l m : String}

/-- Two texts that come to the same in a session, each as a line and to the right of an equals
sign. -/
structure Interchangeable (s : Session H) (held : List H.Kind) (l m : String) : Prop where
  attempt : s.attempt held l = s.attempt held m
  evaluate : s.evaluate held l = s.evaluate held m
  assigned : ∀ name w : String, '=' ∉ name.toList → '(' ∉ name.toList → Text.isAllBlank w.toList →
    s.attempt held (name ++ "=" ++ w ++ l) = s.attempt held (name ++ "=" ++ w ++ m) ∧
      s.evaluate held (name ++ "=" ++ w ++ l) = s.evaluate held (name ++ "=" ++ w ++ m)

theorem interchangeable_of_expression (hl : '=' ∉ l.toList) (hm : '=' ∉ m.toList)
    (h : s.evaluateExpression held l.toList = s.evaluateExpression held m.toList) :
    s.Interchangeable held l m := by
  have hline : s.attempt held l = s.attempt held m := by
    rw [s.attempt_of_none held (splitAssignment_of_not_mem hl),
      s.attempt_of_none held (splitAssignment_of_not_mem hm), h]
  refine ⟨hline, s.evaluate_congr held hline, fun name w he hp hw => ?_⟩
  have hpad : ∀ right : String, s.attempt held (name ++ "=" ++ w ++ right) =
      s.attempt held (name ++ "=" ++ right) := fun right => by
    have hnil : Text.isAllBlank "".toList := rfl
    have hpad := s.attempt_pad_equals held he hp hnil hw right
    rwa [String.append_empty] at hpad
  have hassign : s.attempt held (name ++ "=" ++ w ++ l) =
      s.attempt held (name ++ "=" ++ w ++ m) := by
    rw [hpad, hpad]
    exact s.attempt_congr held (splitAssignment_equals he hp l) (splitAssignment_equals he hp m) rfl h
  exact ⟨hassign, s.evaluate_congr held hassign⟩

/-- A text that is no variable's name and one that has a parenthesis come to the same if they are
read as the same call. -/
theorem Sound.evaluateExpression_eq_of_parse (hs : s.Sound) (held : List H.Kind)
    {a b : List Char} {c : Call} (ha : parse a = .ok c) (hb : parse b = .ok c)
    (hfree : s.bindings.find? (String.ofList (Text.trim a)) = none) (hopen : '(' ∈ b) :
    s.evaluateExpression held a = s.evaluateExpression held b := by
  rw [s.evaluateExpression_of_call held hfree ((parse_trim a).trans ha),
    s.evaluateExpression_of_call held (hs.find?_of_parenthesis hopen) ((parse_trim b).trans hb)]

/-- A name and the name with empty parentheses come to the same, unless the name is a variable's,
and so do a name with a text behind white space and the name with the text in parentheses, unless
the whole of the former is a variable's name. The same holds to the right of an equals sign. -/
theorem forms_interchangeable (hs : s.Reachable) (held : List H.Kind) {n : String}
    (hn : IsToken n) :
    (s.bindings.find? n = none → s.Interchangeable held n (n ++ "()")) ∧
    ∀ a w : String, IsArgumentText a → Text.isAllBlank w.toList → w ≠ "" →
      s.bindings.find? (n ++ w ++ a) = none →
      s.Interchangeable held (n ++ w ++ a) (n ++ "(" ++ a ++ ")") := by
  constructor
  · intro hfree
    have hequals : '=' ∉ (n ++ "()").toList := by simpa using hn.noEquals
    refine interchangeable_of_expression hn.noEquals hequals ?_
    refine hs.sound.evaluateExpression_eq_of_parse held hn.parse_name hn.parse_parentheses ?_ ?_
    · rwa [hn.trimmed, String.ofList_toList]
    · simp
  · intro a w ha hw hne hfree
    have hshort : '=' ∉ (n ++ w ++ a).toList := by
      simp only [String.toList_append, List.mem_append, not_or]
      exact ⟨⟨hn.noEquals, Text.not_mem_of_blank hw rfl⟩, ha.noEquals⟩
    have hfull : '=' ∉ (n ++ "(" ++ a ++ ")").toList := by
      simpa using ⟨hn.noEquals, ha.noEquals⟩
    refine interchangeable_of_expression hshort hfull ?_
    refine hs.sound.evaluateExpression_eq_of_parse held (hn.parse_shorthand ha hw hne)
      (hn.parse_argument ha) ?_ ?_
    · rwa [hn.trimmed_shorthand ha w, String.ofList_toList]
    · simp

/-- A text for an operation without parameters is refused in either form. -/
theorem forms_interchangeable_count :
    let s : Session (Demo.host Demo.noHost) := Demo.calculating
    let f : Fault := .arityMismatch "Count()" "count" "up to"
    s.Reachable ∧ IsToken "count" ∧ s.bindings.find? "count" = none ∧
      (s.attempt [] "count").result = .ok (some (.int 0)) ∧
      (s.attempt [] ("count" ++ "()")).result = .ok (some (.int 0)) ∧
      IsArgumentText "up to" ∧ Text.isAllBlank "\t ".toList ∧ "\t " ≠ "" ∧
      s.bindings.find? ("count" ++ "\t " ++ "up to") = none ∧
      s.attempt [] ("count" ++ "\t " ++ "up to") = ⟨.error f, s, [], []⟩ ∧
      s.attempt [] ("n " ++ "=" ++ " " ++ ("count" ++ "(" ++ "up to" ++ ")")) =
        ⟨.error f, s, [], []⟩ := by
  intro s f
  have hblack : "count".toList.all (!Text.isBlank ·) = true := by decide
  have hn : IsToken "count" :=
    ⟨by decide, by simpa using List.all_eq_true.1 hblack, by decide, by decide⟩
  have ha : IsArgumentText "up to" := ⟨by decide, by decide, by decide, by decide⟩
  have hw : Text.isAllBlank "\t ".toList := by decide
  have hne : "\t " ≠ "" := by decide
  obtain ⟨hname, htext⟩ := forms_interchangeable Demo.reachable_calculating [] hn
  have hcount : (s.attempt [] "count").result = .ok (some (.int 0)) := by
    rw [s.attempt_of_none [] rfl,
      s.evaluateExpression_of_call [] rfl ((parse_trim _).trans hn.parse_name)]
    rfl
  have hshort : s.attempt [] ("count" ++ "\t " ++ "up to") = ⟨.error f, s, [], []⟩ := by
    rw [s.attempt_of_none [] rfl, s.evaluateExpression_of_call [] rfl
      ((parse_trim _).trans (hn.parse_shorthand ha hw hne))]
    rfl
  have hassign : s.attempt [] ("n " ++ "=" ++ " " ++ ("count" ++ "\t " ++ "up to")) =
      ⟨.error f, s, [], []⟩ := by
    have hsplit : splitAssignment ("n " ++ "=" ++ " " ++ ("count" ++ "\t " ++ "up to")).toList =
        some ("n ".toList, ' ' :: ("count" ++ "\t " ++ "up to").toList) := rfl
    have htrim : Text.trim (' ' :: ("count" ++ "\t " ++ "up to").toList) =
        Text.trim ("count" ++ "\t " ++ "up to").toList := by decide
    rw [s.attempt_assigning [] hsplit (by decide), s.evaluateExpression_congr [] htrim,
      ← s.attempt_of_none [] rfl, hshort]
    rfl
  refine ⟨Demo.reachable_calculating, hn, rfl, hcount, ?_, ha, hw, hne, rfl, hshort, ?_⟩
  · rw [← (hname rfl).attempt]
    exact hcount
  · rw [← ((htext _ _ ha hw hne rfl).assigned "n " " " (by decide) (by decide) (by decide)).1]
    exact hassign

end Session

end HostConsole
