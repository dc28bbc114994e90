/-! Settings that a pattern can change for a part of itself. -/

namespace HostConsole.Pattern

inductive Setting where
  | ignoreCase
  /-- The ends of lines count as ends of the text. -/
  | multiline
  /-- A dot stands for an end of a line too. -/
  | dotAll
  /-- Carriage returns end lines too. -/
  | returns
  /-- Repetitions prefer few matches, which changes no answer here. -/
  | few
  /-- Characters are read as such, not only in ASCII. -/
  | unicode
  /-- White space and remarks may stand within the pattern. -/
  | spaced
  deriving DecidableEq

def Setting.ofLetter? : Char → Option Setting
  | 'i' => some .ignoreCase
  | 'm' => some .multiline
  | 's' => some .dotAll
  | 'R' => some .returns
  | 'U' => some .few
  | 'u' => some .unicode
  | 'x' => some .spaced
  | _ => none

/-- A setting that is put on or off. -/
structure Change where
  setting : Setting
  on : Bool
  deriving DecidableEq

/-- The settings that are on at some place. -/
structure Settings where
  on : List Setting
  deriving DecidableEq

namespace Settings

def initial : Settings :=
  ⟨[.unicode]⟩

def has (s : Settings) (x : Setting) : Bool :=
  s.on.contains x

def apply (s : Settings) (c : Change) : Settings :=
  ⟨if c.on then c.setting :: s.on else s.on.filter (· ≠ c.setting)⟩

end Settings

end HostConsole.Pattern
