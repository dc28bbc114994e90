import HostConsole.Demo.Host
import HostConsole.Options
import HostConsole.Prompt
import HostConsole.Text.Cluster

/-! The demo console as a program: from its arguments and its input to what it
writes and its exit code. -/

namespace HostConsole.Program

inductive Stream where
  | out
  | err
  deriving DecidableEq

/-- A text written to one of the two streams. -/
structure Written where
  stream : Stream
  text : String
  deriving DecidableEq

/-- What a finished program has done. -/
structure Result where
  code : Nat
  written : List Written
  deriving DecidableEq

namespace Result

def on (r : Result) (s : Stream) : String :=
  String.join ((r.written.filter (·.stream = s)).map Written.text)

/-- The result of what comes after some writing. -/
def after (r : Result) (w : List Written) : Result :=
  { r with written := w ++ r.written }

end Result

/-- An entry as it is written: information behind a mark, errors in amber and
results in green. A quiet program leaves information out. -/
def render (quiet : Bool) (e : Entry) : List Written :=
  match e.level with
  | .info => if quiet then [] else [⟨.out, ">" ++ e.text ++ "\n"⟩]
  | .error => [⟨.err, "\x1b[33m" ++ e.text ++ "\x1b[0m\n"⟩]
  | .result => [⟨.out, "\x1b[32m" ++ e.text ++ "\x1b[0m\n"⟩]

def renderAll (quiet : Bool) (log : List Entry) : List Written :=
  log.flatMap (render quiet)

section

variable (quiet : Bool)

theorem render_error (text : String) :
    render quiet ⟨.error, text⟩ = [⟨.err, "\x1b[33m" ++ text ++ "\x1b[0m\n"⟩] :=
  rfl

theorem render_result (text : String) :
    render quiet ⟨.result, text⟩ = [⟨.out, "\x1b[32m" ++ text ++ "\x1b[0m\n"⟩] :=
  rfl

theorem renderAll_append (as bs : List Entry) :
    renderAll quiet (as ++ bs) = renderAll quiet as ++ renderAll quiet bs :=
  List.flatMap_append

/-- Of information a quiet program writes nothing, and any other each text on a line of its own. -/
theorem renderAll_infos (texts : List String) :
    renderAll quiet (texts.map (⟨.info, ·⟩)) =
      if quiet then [] else texts.map fun text => ⟨.out, ">" ++ text ++ "\n"⟩ := by
  rw [renderAll, List.flatMap_map]
  cases quiet with
  | true => simp [render]
  | false => simp [render, List.map_eq_flatMap]

end

abbrev Console : Type :=
  Session (Demo.host Demo.noHost)

def console (o : Options) : Console :=
  (Demo.install (.new ⟨!o.allMethods, true⟩)).2

/-! ### Given lines -/

def script (quiet : Bool) (s : Console) : List String → Result
  | [] => ⟨0, []⟩
  | line :: r =>
    let o := s.evaluate [] line
    (script quiet o.session r).after (renderAll quiet o.log)

/-! ### Lines of standard input -/

def banner (s : Console) : List Written :=
  [⟨.out, "Console: " ++ ", ".intercalate s.targetNames ++ "\n"⟩,
   ⟨.out, "Type 'help' to list commands, 'exit' to leave.\n"⟩]

def unreadable : List Written :=
  let cause := "stream did not contain valid UTF-8"
  [⟨.err, "Error: " ++ cause ++ "\n\nCaused by:\n    " ++ cause ++ "\n"⟩]

/-- The lines of some bytes, without their line feeds. -/
def byteLines : List UInt8 → List (List UInt8)
  | [] => []
  | b :: r =>
    if b = 10 then [] :: byteLines r
    else match byteLines r with
      | [] => [[b]]
      | l :: ls => (b :: l) :: ls

/-- What one line of input leads to: the console to go on with, or the exit code. -/
structure Step where
  written : List Written
  next : Except Nat Console

/-- A line of input at the prompt, after its backspaces. Bytes that are no text end the
program. -/
def step (quiet : Bool) (s : Console) (line : List UInt8) : Step :=
  match String.fromUTF8? ⟨line.toArray⟩ with
  | none => ⟨unreadable, .error 1⟩
  | some text =>
    let p := Prompt.step s (Text.withoutBackspaces text.toList)
    ⟨renderAll quiet p.log, match p.next with
      | some s => .ok s
      | none => .error 0⟩

def prompt (quiet : Bool) (s : Console) : List (List UInt8) → Result
  | [] => ⟨0, []⟩
  | line :: r =>
    let p := step quiet s line
    match p.next with
    | .ok s => (prompt quiet s r).after p.written
    | .error code => ⟨code, p.written⟩

/-! ### The whole program -/

def misuse (m : Options.Misuse) : Result :=
  ⟨1, [⟨.err, m.message ++ "\nRun command-console --help for more information.\n"⟩]⟩

/-- How the program begins: with the prompt after some writing, or with its end. -/
inductive Start where
  | finished (r : Result)
  | prompt (quiet : Bool) (s : Console) (written : List Written)

def start (arguments : List String) : Start :=
  match Options.ofArguments arguments with
  | .error m => .finished (misuse m)
  | .ok .usage => .finished ⟨0, [⟨.out, Options.usage ++ "\n"⟩]⟩
  | .ok (.run o) =>
    let s := console o
    if o.lines.isEmpty then .prompt o.quiet s (banner s)
    else .finished (script o.quiet s o.lines)

def run (arguments : List String) (input : List UInt8) : Result :=
  match start arguments with
  | .finished r => r
  | .prompt quiet s written => (prompt quiet s (byteLines input)).after written

end HostConsole.Program
