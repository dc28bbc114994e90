import HostConsole.Proofs.Program.Input
import HostConsole.Proofs.Program.Words
import HostConsole.Proofs.Session.Registration
import HostConsole.Proofs.Session.Report

/-! The prompt over a whole input. The program has no operation that would take a word away from the
prompt, so what a line asks for does not depend on the lines before it: to list the operations, to
be evaluated, or nothing. Each writes its report at once. The first line that leaves, or that is no
text, stops the program: what has been written by then stays, and what stands behind it is never
looked at. -/

namespace HostConsole.Program

open Prompt

/-! ### Lines of input -/

/-- A line of input as the prompt has it: decoded, and after its backspaces. -/
def read (line : List UInt8) : Option (List Char) :=
  (String.fromUTF8? ⟨line.toArray⟩).map fun text => Text.withoutBackspaces text.toList

theorem withoutBackspaces_of_not_mem {text : List Char} (h : '\x08' ∉ text) :
    Text.withoutBackspaces text = text := by
  rw [Text.withoutBackspaces, if_neg]
  simpa using h

theorem read_of_not_mem {line : List UInt8} {text : String}
    (ht : String.fromUTF8? ⟨line.toArray⟩ = some text) (h : '\x08' ∉ text.toList) :
    read line = some text.toList := by
  rw [read, ht, Option.map_some, withoutBackspaces_of_not_mem h]

/-- A line that the prompt has handled and gone on. -/
def Handles (line : List UInt8) (actions : List (Action (Demo.host Demo.noHost))) : Prop :=
  ∃ text, read line = some text ∧ ¬Leaves text ∧ Asks text actions

/-- At what the prompt stops, with the exit code and what is written last. -/
inductive Stops : List (List UInt8) → Nat → List Written → Prop where
  | input : Stops [] 0 []
  | left {line : List UInt8} {text : List Char} (h : read line = some text) (hl : Leaves text)
      (rest : List (List UInt8)) : Stops (line :: rest) 0 []
  | unreadable {line : List UInt8} (h : read line = none) (rest : List (List UInt8)) :
      Stops (line :: rest) 1 unreadable

theorem Stops.append_leaving {rest : List (List UInt8)} {code : Nat} {last : List Written}
    (h : Stops rest code last) {line : List UInt8} {text : List Char}
    (ht : read line = some text) (hl : Leaves text) (later : List (List UInt8)) :
    Stops (rest ++ line :: later) code last := by
  cases h with
  | input => exact .left ht hl later
  | left h hl' rest => exact .left h hl' _
  | unreadable h rest => exact .unreadable h _

/-- The lines that are handled, up to the first that is not. -/
theorem exists_handled (lines : List (List UInt8)) :
    ∃ done rest actions code last, lines = done ++ rest ∧
      List.Forall₂ Handles done actions ∧ Stops rest code last := by
  induction lines with
  | nil => exact ⟨[], [], [], 0, [], rfl, .nil, .input⟩
  | cons line lines ih =>
    cases hr : read line with
    | none => exact ⟨[], _, [], 1, unreadable, rfl, .nil, .unreadable hr lines⟩
    | some text =>
      by_cases hl : Leaves text
      · exact ⟨[], _, [], 0, [], rfl, .nil, .left hr hl lines⟩
      · obtain ⟨actions, ha⟩ := exists_asks hl
        obtain ⟨done, rest, rows, code, last, rfl, hdone, hstops⟩ := ih
        exact ⟨line :: done, rest, actions :: rows, code, last, rfl,
          .cons ⟨text, hr, hl, ha⟩ hdone, hstops⟩

variable {quiet : Bool} {s : Console}

theorem step_of_read {line : List UInt8} {text : List Char} (h : read line = some text)
    {log : List Entry} {next : Option Console} (hp : Prompt.step s text = ⟨log, next⟩) :
    step quiet s line = ⟨renderAll quiet log, next.elim (.error 0) .ok⟩ := by
  rw [read, Option.map_eq_some_iff] at h
  obtain ⟨typed, hd, rfl⟩ := h
  simp only [step, hd, hp]
  cases next with
  | none => rfl
  | some t => rfl

theorem step_of_unreadable {line : List UInt8} (h : read line = none) :
    step quiet s line = ⟨unreadable, .error 1⟩ := by
  rw [read, Option.map_eq_none_iff] at h
  simp only [step, h]

theorem prompt_of_stops (hs : Wordless s) {rest : List (List UInt8)} {code : Nat}
    {last : List Written} (h : Stops rest code last) : prompt quiet s rest = ⟨code, last⟩ := by
  cases h with
  | input => rfl
  | @left line text h hl =>
    have hstep : step quiet s line = ⟨[], .error 0⟩ := step_of_read h (step_of_leaves hs hl)
    rw [prompt, hstep]
  | unreadable h => rw [prompt, step_of_unreadable h]

/-- A prompt does what its lines ask for, up to the one at which it stops. -/
theorem prompt_of_handled (hs : Wordless s) {done rest : List (List UInt8)}
    {actions : List (List (Action (Demo.host Demo.noHost)))} {code : Nat} {last : List Written}
    (h : List.Forall₂ Handles done actions) (hstops : Stops rest code last) :
    prompt quiet s (done ++ rest) =
      ⟨code, renderAll quiet (s.reportAll actions.flatten) ++ last⟩ := by
  induction h generalizing s with
  | nil => exact prompt_of_stops hs hstops
  | @cons line as done actions hline _ ih =>
    obtain ⟨text, hr, -, ha⟩ := hline
    have hstep : step quiet s line = ⟨renderAll quiet (s.reportAll as), .ok (s.afterAll as)⟩ :=
      step_of_read hr (step_of_asks hs ha)
    rw [List.cons_append, prompt, hstep]
    show (prompt quiet (s.afterAll as) (done ++ rest)).after (renderAll quiet (s.reportAll as)) = _
    rw [ih (ha.wordless hs), Result.after, List.flatten_cons, Session.reportAll_append,
      renderAll_append, List.append_assoc]

/-- The demo's operations are no words of the prompt. -/
theorem wordless_console (o : Options) : Wordless (console o) := by
  have hall : ∀ all : Bool, Wordless (console ⟨all, false, []⟩) := by
    intro all word hword
    simp only [List.mem_cons, List.not_mem_nil, or_false] at hword
    cases all <;> rcases hword with rfl | rfl | rfl <;> rfl
  exact hall o.allMethods

/-! ### What is written -/

/-- Information as it is written: each text on a line of its own, and none if the program is
quiet. -/
def information (quiet : Bool) (texts : List String) : List Written :=
  if quiet then [] else texts.map fun text => ⟨.out, ">" ++ text ++ "\n"⟩

/-- What is written for the outcome of a line: its value in green, or its fault in amber. -/
def conclusion : Except Fault (Option (Demo.host Demo.noHost).Value) → List Written
  | .ok (some v) => [⟨.out, "\x1b[32m" ++ v.text ++ "\x1b[0m\n"⟩]
  | .ok none => []
  | .error f => [⟨.err, "\x1b[33m" ++ f.message ++ "\x1b[0m\n"⟩]

/-- What an action writes. Help is a heading and all operations as they are listed, in the order
in which they are registered. A line that is evaluated has its reports and then its outcome. -/
def shown (quiet : Bool) (s : Console) : Action (Demo.host Demo.noHost) → List Written
  | .help => information quiet ("List of commands:" :: s.operations.map Operation.listing)
  | .evaluate held line =>
    let o := s.attempt held line
    information quiet (o.log.map Entry.text) ++ conclusion o.result
  | .attempt held line => information quiet ((s.attempt held line).log.map Entry.text)
  | .register _ | .change _ _ => []

/-- What actions write one after another. -/
def shownAll (quiet : Bool) (s : Console) : List (Action (Demo.host Demo.noHost)) → List Written
  | [] => []
  | a :: as => shown quiet s a ++ shownAll quiet (s.after a) as

theorem renderAll_attempt (quiet : Bool) (s : Console) (held : List (Demo.Kind Empty))
    (line : String) :
    renderAll quiet (s.attempt held line).log =
      information quiet ((s.attempt held line).log.map Entry.text) := by
  have hlog : ((s.attempt held line).log.map Entry.text).map (⟨.info, ·⟩) =
      (s.attempt held line).log := by
    rw [List.map_map]
    refine (List.map_congr_left fun e he => ?_).trans (List.map_id _)
    rw [Function.comp_apply, ← s.level_of_mem_log held line e he, id]
  exact (congrArg _ hlog).symm.trans (renderAll_infos quiet _)

theorem renderAll_closing (quiet : Bool) {settings : Settings}
    (hs : settings.resultsApart = true)
    (r : Except Fault (Option (Demo.host Demo.noHost).Value)) :
    renderAll quiet (Session.closing settings r) = conclusion r := by
  cases r with
  | error f =>
    rw [Session.closing, renderAll, List.flatMap_singleton, render_error, conclusion]
  | ok v =>
    cases v with
    | none => rfl
    | some v =>
      have hlevel : settings.resultLevel = .result := if_pos hs
      rw [Session.closing, hlevel, renderAll, List.flatMap_singleton, render_result, conclusion]

theorem renderAll_report (quiet : Bool) {s : Console} (hs : s.settings.resultsApart = true)
    (a : Action (Demo.host Demo.noHost)) : renderAll quiet (s.report a) = shown quiet s a := by
  cases a with
  | register | change => rfl
  | help => exact (congrArg _ s.help_eq).trans (renderAll_infos quiet _)
  | attempt held line => exact renderAll_attempt quiet s held line
  | evaluate held line =>
    have hlog : s.report (.evaluate held line) = (s.attempt held line).log ++
        Session.closing s.settings (s.attempt held line).result := rfl
    rw [hlog, renderAll_append, renderAll_attempt, renderAll_closing quiet hs, shown]

/-- The reports of actions are written one behind the other. -/
theorem renderAll_reportAll (quiet : Bool) {s : Console} (hs : s.settings.resultsApart = true)
    (as : List (Action (Demo.host Demo.noHost))) :
    renderAll quiet (s.reportAll as) = shownAll quiet s as := by
  induction as generalizing s with
  | nil => rfl
  | cons a as ih =>
    have hafter : (s.after a).settings.resultsApart = true := by rwa [Session.settings_after]
    rw [Session.reportAll, renderAll_append, renderAll_report quiet hs, ih hafter, shownAll]

/-! ### The program -/

theorem run_of_prompt {arguments : List String} {o : Options}
    (ho : Options.ofArguments arguments = .ok (.run o)) (hl : o.lines = []) (input : List UInt8) :
    run arguments input =
      (prompt o.quiet (console o) (byteLines input)).after (banner (console o)) := by
  simp only [run, start, ho, hl, List.isEmpty_nil, if_true]

/-- How a program that prompts has come to a result: it has handled the lines in `done`, which ask
for `actions`, and has stopped at what is left of its input. -/
structure Serves (o : Options) (input : List UInt8) (r : Result) (done rest : List (List UInt8))
    (actions : List (List (Action (Demo.host Demo.noHost)))) : Prop where
  lines : ∀ line ∈ done ++ rest, 10 ∉ line
  split : feed (done ++ rest) = input ++ lacking input
  handled : List.Forall₂ Handles done actions
  ends : ∃ last, Stops rest r.code last ∧ r.written =
    banner (console o) ++ shownAll o.quiet (console o) actions.flatten ++ last

section

variable {arguments : List String} {o : Options} {input : List UInt8}

/-- What a program that prompts comes to, by what its lines ask for and where it stops. -/
theorem run_of_handled (ho : Options.ofArguments arguments = .ok (.run o)) (hl : o.lines = [])
    {done rest : List (List UInt8)} {actions : List (List (Action (Demo.host Demo.noHost)))}
    {code : Nat} {last : List Written} (hlines : byteLines input = done ++ rest)
    (hdone : List.Forall₂ Handles done actions) (hstops : Stops rest code last) :
    run arguments input =
      ⟨code, banner (console o) ++ shownAll o.quiet (console o) actions.flatten ++ last⟩ := by
  rw [run_of_prompt ho hl, hlines, prompt_of_handled (wordless_console o) hdone hstops,
    renderAll_reportAll o.quiet rfl, Result.after, List.append_assoc]

theorem exists_serves (ho : Options.ofArguments arguments = .ok (.run o)) (hl : o.lines = [])
    (input : List UInt8) :
    ∃ done rest actions, Serves o input (run arguments input) done rest actions := by
  obtain ⟨done, rest, actions, code, last, hsplit, hdone, hstops⟩ :=
    exists_handled (byteLines input)
  have hrun := run_of_handled ho hl hsplit hdone hstops
  refine ⟨done, rest, actions, ?_, ?_, hdone, last, ?_, ?_⟩
  · rw [← hsplit]
    exact not_mem_byteLines input
  · rw [← hsplit]
    exact feed_byteLines input
  · rw [hrun]
    exact hstops
  · rw [hrun]

theorem run_eq_iff (ho : Options.ofArguments arguments = .ok (.run o)) (hl : o.lines = [])
    {r : Result} :
    run arguments input = r ↔ ∃ done rest actions, Serves o input r done rest actions := by
  constructor
  · rintro rfl
    exact exists_serves ho hl input
  · rintro ⟨done, rest, actions, hlines, hsplit, hdone, last, hstops, hwritten⟩
    rw [run_of_handled ho hl (eq_byteLines hlines hsplit).symm hdone hstops, ← hwritten]

end

theorem prompt_append_leaving {quiet : Bool} {s : Console} (hs : Wordless s)
    (lines : List (List UInt8)) {line : List UInt8} {text : List Char}
    (ht : read line = some text) (hl : Leaves text) (later : List (List UInt8)) :
    prompt quiet s (lines ++ line :: later) = prompt quiet s (lines ++ [line]) := by
  obtain ⟨done, rest, actions, code, last, rfl, hdone, hstops⟩ := exists_handled lines
  have hall : ∀ later, prompt quiet s (done ++ rest ++ line :: later) =
      ⟨code, renderAll quiet (s.reportAll actions.flatten) ++ last⟩ := by
    intro later
    rw [List.append_assoc]
    exact prompt_of_handled hs hdone (hstops.append_leaving ht hl later)
  rw [hall later, hall []]

theorem run_append_leaving (arguments : List String) {a line : List UInt8}
    (ha : a = [] ∨ a.getLast? = some 10) (hline : 10 ∉ line) {text : List Char}
    (ht : read line = some text) (hl : Leaves text) (b : List UInt8) :
    run arguments (a ++ line ++ 10 :: b) = run arguments (a ++ line ++ [10]) := by
  have hlines : ∀ b, byteLines (a ++ line ++ 10 :: b) = byteLines a ++ line :: byteLines b := by
    intro b
    rw [List.append_assoc, byteLines_append ha, byteLines_line hline]
  cases ho : Options.ofArguments arguments with
  | error m => simp only [run, start, ho]
  | ok request =>
    cases request with
    | usage => simp only [run, start, ho]
    | run o =>
      by_cases hnone : o.lines = []
      · rw [run_of_prompt ho hnone, run_of_prompt ho hnone, hlines, hlines,
          prompt_append_leaving (wordless_console o) _ ht hl, byteLines]
      · simp only [run, start, ho, List.isEmpty_iff, hnone, if_false]

/-- The prompt is decided by its input up to the line at which it stops. What stands behind a line
that leaves changes nothing, whatever bytes it is. What the program comes to is known from the
lines before the one at which it stops: they have been handled each once and in order, a blank line
asks for nothing, a request for help for the list of operations, and any other line to be
evaluated. What that writes stays, and the exit code says whether a line was no text. -/
theorem run_up_to_stop (arguments : List String) :
    (∀ (a line b : List UInt8) (text : String), (a = [] ∨ a.getLast? = some 10) → 10 ∉ line →
      String.fromUTF8? ⟨line.toArray⟩ = some text → Leaves text.toList →
        run arguments (a ++ line ++ 10 :: b) = run arguments (a ++ line ++ [10])) ∧
    (∀ o input r, Options.ofArguments arguments = .ok (.run o) → o.lines = [] →
      (run arguments input = r ↔ ∃ done rest actions, Serves o input r done rest actions)) ∧
    (∀ (line : List UInt8) (text : String), String.fromUTF8? ⟨line.toArray⟩ = some text →
      '\x08' ∉ text.toList → read line = some text.toList) := by
  refine ⟨?_, ?_, ?_⟩
  · intro a line b text ha hline ht hl
    have hread : read line = some text.toList := read_of_not_mem ht hl.not_mem_backspace
    exact run_append_leaving arguments ha hline hread hl b
  · intro o input r ho hl
    exact run_eq_iff ho hl
  · intro line text ht hb
    exact read_of_not_mem ht hb

/-- A request for help, a blank line and a command are handled before a line that is no text, and
the line behind that is not. -/
theorem run_up_to_stop_quit :
    let line := bytes " Quit()() "
    let a := feed [bytes " HELP() ", [], bytes "Count"]
    String.fromUTF8? ⟨line.toArray⟩ = some " Quit()() " ∧ Leaves " Quit()() ".toList ∧
      run [] (a ++ line ++ [10, 255]) = run [] (a ++ line ++ [10]) ∧
      Options.ofArguments [] = .ok (.run ⟨false, false, []⟩) ∧
      run [] (a ++ 255 :: 10 :: bytes "Count") = ⟨1,
        [⟨.out, "Console: Ship, Calculator\n"⟩,
         ⟨.out, "Type 'help' to list commands, 'exit' to leave.\n"⟩,
         ⟨.out, ">List of commands:\n"⟩, ⟨.out, ">SetSpeed(value : float)\n"⟩,
         ⟨.out, ">GetSpeed\n"⟩, ⟨.out, ">Turn(heading : Heading)\n"⟩, ⟨.out, ">Heading\n"⟩,
         ⟨.out, ">Rename(name : string)\n"⟩, ⟨.out, ">Shields(on : bool)\n"⟩,
         ⟨.out, ">Warp(factor : double, jumps : int)\n"⟩, ⟨.out, ">Status\n"⟩,
         ⟨.out, ">Restore(status : ShipStatus)\n"⟩, ⟨.out, ">Add(a : int, b : int)\n"⟩,
         ⟨.out, ">Mul(a : double, b : double)\n"⟩, ⟨.out, ">Concat(a : string, b : string)\n"⟩,
         ⟨.out, ">Matches(pattern : string, text : string)\n"⟩, ⟨.out, ">Echo(value : any)\n"⟩,
         ⟨.out, ">Count\n"⟩,
         ⟨.out, ">Method invoked: Count()\n"⟩, ⟨.out, "\x1b[32m0\x1b[0m\n"⟩,
         ⟨.err, "Error: stream did not contain valid UTF-8\n\nCaused by:\n    " ++
           "stream did not contain valid UTF-8\n"⟩]⟩ ∧
      read line = some " Quit()() ".toList := by
  intro line a
  have ht : String.fromUTF8? ⟨line.toArray⟩ = some " Quit()() " := fromUTF8?_bytes _
  have hl : Leaves " Quit()() ".toList := .inr ⟨"Quit".toList, 2, by decide, by decide⟩
  have ho : Options.ofArguments [] = .ok (.run ⟨false, false, []⟩) := rfl
  obtain ⟨hbehind, hserves, hread⟩ := run_up_to_stop []
  let s := console ⟨false, false, []⟩
  have hcount : (s.attempt [] "Count").result = .ok (some (.int 0)) ∧
      (s.attempt [] "Count").log = [⟨.info, "Method invoked: Count()"⟩] := by
    have hparse : Call.parse (Text.trim "Count".toList) = .ok ⟨"Count", []⟩ := by
      rw [Call.parse_of_not_mem (by decide)]
      rfl
    rw [s.attempt_of_none [] rfl, s.evaluateExpression_of_call [] rfl hparse]
    exact ⟨rfl, rfl⟩
  have hwritten : shown false s (.evaluate [] "Count") =
      [⟨.out, ">Method invoked: Count()\n"⟩, ⟨.out, "\x1b[32m0\x1b[0m\n"⟩] := by
    have hzero : Value.text (.int 0 : (Demo.host Demo.noHost).Value) = "0" := by
      rw [Value.text, Integer.write, Int32.toInt_zero, Decimal.writeInt, if_neg (by decide),
        Decimal.write]
      rfl
    rw [shown, hcount.1, hcount.2, conclusion, hzero]
    rfl
  have hhelp : Handles (bytes " HELP() ") [.help] :=
    ⟨_, hread _ _ (fromUTF8?_bytes _) (by decide), by decide, .help (by decide)⟩
  have hblank : Handles [] [] :=
    ⟨_, hread _ _ (fromUTF8?_bytes "") (by decide), by decide, .blank rfl⟩
  have hline : Handles (bytes "Count") [.evaluate [] "Count"] :=
    ⟨_, hread _ _ (fromUTF8?_bytes _) (by decide), by decide,
      .line (by decide) (by decide) (by decide)⟩
  have hstops : Stops [[255], bytes "Count"] 1 unreadable := .unreadable rfl _
  refine ⟨ht, hl, ?_, ho, (hserves _ _ _ ho rfl).2 ?_, hread line _ ht (by decide)⟩
  · exact hbehind a line [255] _ (.inr rfl) (not_mem_bytes (by decide)) ht hl
  · refine ⟨[bytes " HELP() ", [], bytes "Count"], [[255], bytes "Count"],
      [[.help], [], [.evaluate [] "Count"]], by decide, rfl,
      .cons hhelp (.cons hblank (.cons hline .nil)), unreadable, hstops, ?_⟩
    change _ = banner s ++ (shown false s .help ++ (shown false s (.evaluate [] "Count") ++ [])) ++
      unreadable
    rw [hwritten]
    rfl

end HostConsole.Program
