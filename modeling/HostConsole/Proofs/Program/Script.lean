import HostConsole.Proofs.Program.Prompt
import HostConsole.Proofs.Session.Padding

/-! Lines given as arguments and the same lines typed at the prompt. The prompt trims a line and
keeps its own words from the session; a given line is evaluated as it is. White space around a line
does not matter to the session, so ordinary lines come to the same both ways, and only the banner
tells the two apart. -/

namespace HostConsole

/-! ### Arguments -/

namespace Options

/-- Arguments that ask for these options. -/
def arguments (o : Options) : List String :=
  (if o.allMethods then ["--all-methods"] else []) ++ (if o.quiet then ["--quiet"] else []) ++
    o.lines.flatMap (["-c", ·])

theorem read_allMethods (o : Options) (r : List String) :
    read o false ("--all-methods" :: r) = read { o with allMethods := true } false r := by
  rw [read.eq_def]
  rfl

theorem read_quiet (o : Options) (r : List String) :
    read o false ("--quiet" :: r) = read { o with quiet := true } false r := by
  rw [read.eq_def]
  rfl

theorem read_line (o : Options) (line : String) (r : List String) :
    read o false ("-c" :: line :: r) = read { o with lines := o.lines ++ [line] } false r := by
  rw [read]
  rfl

theorem read_lines (o : Options) (lines : List String) :
    read o false (lines.flatMap (["-c", ·])) = .ok (.run { o with lines := o.lines ++ lines }) := by
  induction lines generalizing o with
  | nil => simp [read]
  | cons line lines ih =>
    rw [List.flatMap_cons, List.cons_append, List.cons_append, List.nil_append, read_line, ih,
      List.append_assoc, List.singleton_append]

/-- Options are read back from their arguments, whatever the lines look like. -/
theorem ofArguments_arguments (o : Options) : ofArguments o.arguments = .ok (.run o) := by
  obtain ⟨allMethods, quiet, lines⟩ := o
  have hlines : ∀ all q, read ⟨all, q, []⟩ false (lines.flatMap (["-c", ·])) =
      .ok (.run ⟨all, q, lines⟩) := fun all q => read_lines ⟨all, q, []⟩ lines
  unfold ofArguments arguments none
  cases allMethods with
  | false =>
    cases quiet with
    | false => exact hlines false false
    | true => exact (read_quiet _ _).trans (hlines false true)
  | true =>
    cases quiet with
    | false => exact (read_allMethods _ _).trans (hlines true false)
    | true => exact (read_allMethods _ _).trans ((read_quiet _ _).trans (hlines true true))

end Options

namespace Program

open Prompt

/-! ### Ordinary lines -/

/-- A line that is evaluated at the prompt: it is not blank, and none of the prompt's words. -/
structure Ordinary (line : String) : Prop where
  notBlank : Text.trim line.toList ≠ []
  noHelp : ¬Says "help" line.toList
  stays : ¬Leaves line.toList

/-- What the prompt has of a line that is typed. It takes the backspaces in it into account. -/
def delivered (line : String) : String :=
  String.ofList (Text.withoutBackspaces line.toList)

theorem delivered_of_not_mem {line : String} (h : '\x08' ∉ line.toList) :
    delivered line = line := by
  rw [delivered, withoutBackspaces_of_not_mem h, String.ofList_toList]

/-- What an ordinary line asks for, given or typed. -/
def asked (line : String) : Action (Demo.host Demo.noHost) :=
  .evaluate [] (Text.trimmed line)

theorem Ordinary.handles {typed : String} (h : Ordinary (delivered typed)) :
    Handles (bytes typed) [asked (delivered typed)] := by
  have hlist : (delivered typed).toList = Text.withoutBackspaces typed.toList :=
    String.toList_ofList
  have hread : read (bytes typed) = some (delivered typed).toList := by
    rw [read, fromUTF8?_bytes, hlist]
    rfl
  exact ⟨_, hread, h.stays, .line h.notBlank h.noHelp h.stays⟩

theorem script_eq (quiet : Bool) (s : Console) (lines : List String) :
    script quiet s lines = ⟨0, renderAll quiet (s.reportAll (lines.map asked))⟩ := by
  induction lines generalizing s with
  | nil => rfl
  | cons line lines ih =>
    have hline : s.evaluate [] (Text.trimmed line) = s.evaluate [] line := s.evaluate_trim [] line
    rw [script, ih, List.map_cons, Session.reportAll, renderAll_append]
    show Result.after ⟨0, _⟩ _ = ⟨0, renderAll quiet (s.evaluate [] (Text.trimmed line)).log ++
      renderAll quiet ((s.evaluate [] (Text.trimmed line)).session.reportAll (lines.map asked))⟩
    rw [hline]
    rfl

theorem prompt_eq_script (quiet : Bool) (o : Options) {typed : List String}
    (h : ∀ line ∈ typed, Ordinary (delivered line)) :
    prompt quiet (console o) (typed.map bytes) =
      script quiet (console o) (typed.map delivered) := by
  have hdone : List.Forall₂ Handles (typed.map bytes)
      (typed.map fun line => [asked (delivered line)]) := by
    induction typed with
    | nil => exact .nil
    | cons line typed ih =>
      rw [List.forall_mem_cons] at h
      exact .cons h.1.handles (ih h.2)
  have hprompt : prompt quiet (console o) (typed.map bytes ++ []) = _ :=
    prompt_of_handled (wordless_console o) hdone .input
  rw [List.append_nil, List.append_nil] at hprompt
  have hflat : (typed.map fun line => [asked (delivered line)]).flatten =
      (typed.map delivered).map asked := by
    rw [← List.flatMap_def, List.map_map, List.map_eq_flatMap]
    rfl
  rw [hprompt, script_eq, hflat]

/-! ### The two ways -/

theorem on_after (r : Result) (w : List Written) (st : Stream) :
    (r.after w).on st = Result.on ⟨0, w⟩ st ++ r.on st := by
  simp [Result.after, Result.on]

theorem run_of_lines {arguments : List String} {o : Options}
    (ho : Options.ofArguments arguments = .ok (.run o)) (hl : o.lines ≠ []) (input : List UInt8) :
    run arguments input = script o.quiet (console o) o.lines := by
  simp only [run, start, ho, List.isEmpty_iff, hl, if_false]

theorem banner_console (o : Options) :
    banner (console o) = [⟨.out, "Console: Ship, Calculator\n"⟩,
      ⟨.out, "Type 'help' to list commands, 'exit' to leave.\n"⟩] := by
  have hall : ∀ all : Bool, (console ⟨all, false, []⟩).targetNames = ["Ship", "Calculator"] := by
    intro all
    cases all <;> rfl
  have hnames : (console o).targetNames = ["Ship", "Calculator"] := hall o.allMethods
  rw [banner, hnames]
  rfl

theorem Ordinary.typed_ne_nil {typed : String} (h : Ordinary (delivered typed)) :
    typed.toList ≠ [] := by
  intro hnil
  have hempty : (delivered typed).toList = [] := by
    rw [delivered, String.toList_ofList, hnil]
    rfl
  exact h.notBlank (by rw [hempty]; rfl)

/-- What is typed at the prompt comes to what the delivered lines come to as arguments, behind the
banner. -/
theorem run_typed {o : Options} {given piped : List String}
    (hgiven : Options.ofArguments given = .ok (.run o)) {typed : List String}
    (hlines : typed.map delivered = o.lines)
    (hpiped : Options.ofArguments piped = .ok (.run { o with lines := [] })) (hne : typed ≠ [])
    (hfeed : ∀ line ∈ typed, '\n' ∉ line.toList) (h : ∀ line ∈ typed, Ordinary (delivered line))
    {input : List UInt8}
    (hi : input = feed (typed.map bytes) ∨ input ++ [10] = feed (typed.map bytes))
    (unread : List UInt8) :
    run piped input = (run given unread).after (banner (console o)) := by
  have hinput : byteLines input = typed.map bytes := by
    refine byteLines_of_feed ?_ ?_ hi
    · intro line hl
      obtain ⟨text, ht, rfl⟩ := List.mem_map.1 hl
      exact not_mem_bytes (hfeed text ht)
    · intro line hl
      obtain ⟨text, ht, rfl⟩ := List.mem_map.1 hl
      exact bytes_ne_nil (h text ht).typed_ne_nil
  have hsome : o.lines ≠ [] := fun hnil => hne (List.map_eq_nil_iff.1 (hlines.trans hnil))
  rw [run_of_prompt hpiped rfl, hinput, run_of_lines hgiven hsome, prompt_eq_script _ _ h, hlines]
  rfl

/-- Lines come to the same as arguments and at the prompt, in whatever way the arguments ask for
the same options. The lines are not blank and no words of the prompt, and what is typed is such that
the prompt has these lines: the lines themselves, where there are no backspaces in them. Both ways
end well and write the same, up to the two lines with which the prompt begins. -/
theorem script_as_prompt (all quiet : Bool) {lines typed : List String} (hne : lines ≠ [])
    (hordinary : ∀ line ∈ lines, Ordinary line) (hfeed : ∀ line ∈ typed, '\n' ∉ line.toList)
    (hread : typed.map delivered = lines) {input : List UInt8}
    (hi : input = feed (typed.map bytes) ∨ input ++ [10] = feed (typed.map bytes))
    (unread : List UInt8) :
    (∀ o : Options, Options.ofArguments o.arguments = .ok (.run o)) ∧
    ∀ forGiven forPiped : List String,
      Options.ofArguments forGiven = .ok (.run ⟨all, quiet, lines⟩) →
      Options.ofArguments forPiped = .ok (.run ⟨all, quiet, []⟩) →
      let given := run forGiven unread
      let piped := run forPiped input
      given.code = 0 ∧ piped.code = 0 ∧ piped.on .err = given.on .err ∧
        piped.on .out = "Console: Ship, Calculator\n" ++
          "Type 'help' to list commands, 'exit' to leave.\n" ++ given.on .out := by
  refine ⟨Options.ofArguments_arguments, fun forGiven forPiped hgiven hpiped => ?_⟩
  intro given piped
  have htyped : typed ≠ [] := by
    rintro rfl
    exact hne hread.symm
  have hall : ∀ line ∈ typed, Ordinary (delivered line) := fun line hl =>
    hordinary _ (hread ▸ List.mem_map_of_mem hl)
  have hsame : piped = given.after (banner (console ⟨all, quiet, lines⟩)) :=
    run_typed hgiven hread hpiped htyped hfeed hall hi unread
  have hcode : given.code = 0 := by
    have hscript : given = script quiet (console ⟨all, quiet, lines⟩) lines :=
      run_of_lines hgiven hne unread
    rw [hscript, script_eq]
  refine ⟨hcode, ?_, ?_, ?_⟩
  · rw [hsame]
    exact hcode
  · rw [hsame, on_after, banner_console]
    simp [Result.on]
  · rw [hsame, on_after, banner_console]
    simp [Result.on]

/-- The last line feed is missing here, and the second line has white space around it. The options
are not in their usual order. -/
theorem script_as_prompt_add :
    let lines := ["Count", " Add(1, 2) "]
    let input := bytes "Count" ++ 10 :: bytes " Add(1, 2) "
    let forGiven := ["--command", "Count", "-q", "-c", " Add(1, 2) "]
    let given := run forGiven []
    let piped := run ["--quiet"] input
    (∀ line ∈ lines, Ordinary line ∧ '\n' ∉ line.toList ∧ delivered line = line) ∧
      input ++ [10] = feed (lines.map bytes) ∧
      Options.ofArguments (Options.arguments ⟨false, true, lines⟩) =
        Options.ofArguments forGiven ∧
      given.code = 0 ∧ piped.code = 0 ∧ piped.on .err = given.on .err ∧
      piped.on .out = "Console: Ship, Calculator\n" ++
        "Type 'help' to list commands, 'exit' to leave.\n" ++ given.on .out := by
  intro lines input forGiven given piped
  have hlines : ∀ line ∈ lines, Ordinary line ∧ '\n' ∉ line.toList ∧ delivered line = line := by
    simp only [lines, List.forall_mem_cons, List.not_mem_nil, false_implies, implies_true, and_true]
    exact ⟨⟨⟨by decide, by decide, by decide⟩, by decide, delivered_of_not_mem (by decide)⟩,
      ⟨by decide, by decide, by decide⟩, by decide, delivered_of_not_mem (by decide)⟩
  have hinput : input ++ [10] = feed (lines.map bytes) := by
    simp [input, lines, feed]
  have hread : lines.map delivered = lines :=
    (List.map_congr_left fun line hl => (hlines line hl).2.2).trans (List.map_id lines)
  have hordinary : ∀ line ∈ lines, Ordinary line := fun line hl => (hlines line hl).1
  have hfeed : ∀ line ∈ lines, '\n' ∉ line.toList := fun line hl => (hlines line hl).2.1
  have hgiven : Options.ofArguments forGiven = .ok (.run ⟨false, true, lines⟩) := by
    simp [Options.ofArguments, Options.read, Options.none, forGiven, lines]
  have hpiped : Options.ofArguments ["--quiet"] = .ok (.run ⟨false, true, []⟩) :=
    Options.ofArguments_arguments ⟨false, true, []⟩
  obtain ⟨hspelled, hruns⟩ := script_as_prompt false true (List.cons_ne_nil _ _) hordinary hfeed
    hread (.inr hinput) []
  exact ⟨hlines, hinput, (hspelled _).trans hgiven.symm, hruns forGiven ["--quiet"] hgiven hpiped⟩

end Program

end HostConsole
