import HostConsole.Session.Line

/-! The prompt: one line after another, until one of them leaves. -/

namespace HostConsole.Prompt

variable {H : Host}

/-- The prompt's own words. -/
inductive Word where
  | help
  | leave
  deriving DecidableEq

/-- A text without the empty parentheses at its end, however many. -/
def dropCalls (s : List Char) : List Char :=
  let rec strip : List Char → List Char
    | ')' :: '(' :: r => strip r
    | r => r
  (strip s.reverse).reverse

/-- The prompt's word that a text spells in any case. -/
def wordOf (s : List Char) : Option Word :=
  if Text.alikeAscii s "help".toList then some .help
  else if Text.alikeAscii s "exit".toList || Text.alikeAscii s "quit".toList then some .leave
  else none

/-- The prompt's word on a line. An operation of the same name comes first. -/
def word? (s : Session H) (line : List Char) : Option Word :=
  let text := dropCalls line
  match wordOf text with
  | none => none
  | some w => if (Session.operation? s.operations (String.ofList text)).isSome then none else some w

/-- What a line leads to: a report and the session to go on with, if any. -/
structure Step (H : Host) where
  log : List Entry
  next : Option (Session H)

def step (s : Session H) (line : List Char) : Step H :=
  let text := Text.trim line
  if text.isEmpty then ⟨[], some s⟩
  else
    match word? s text with
    | some .help => ⟨s.help, some s⟩
    | some .leave => ⟨[], none⟩
    | none =>
      let o := s.evaluate [] (String.ofList text)
      ⟨o.log, some o.session⟩

end HostConsole.Prompt
