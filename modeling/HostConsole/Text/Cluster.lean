import HostConsole.Text.ClusterRole

/-! Text in clusters, and lines with backspaces in them. A backspace takes back the
cluster before it. -/

namespace HostConsole.Text

/-! ### Clusters -/

namespace ClusterRole

def isBreak (r : ClusterRole) : Bool :=
  r ∈ [.carriageReturn, .lineFeed, .control]

/-- Roles of marks of every kind. -/
def isMark (r : ClusterRole) : Bool :=
  r ∈ [.mark, .linker, .separator]

/-- Two parts of one syllable. -/
def makeSyllable (a b : ClusterRole) : Bool :=
  match a with
  | .leading => b ∈ [.leading, .vowel, .openSyllable, .closedSyllable]
  | .openSyllable | .vowel => b ∈ [.vowel, .trailing]
  | .closedSyllable | .trailing => b = .trailing
  | _ => false

/-- Whether roles, last first, are those of a consonant with marks, a linker among
them. -/
def endTied (before : List ClusterRole) : Bool :=
  let marks := before.takeWhile (· ∈ [.mark, .linker, .joiner])
  marks.contains .linker && (before.drop marks.length).head? = some .consonant

/-- Whether roles, last first, are those of a pictograph with marks and a joiner. -/
def endJoined (before : List ClusterRole) : Bool :=
  match before with
  | .joiner :: r => (r.dropWhile isMark).head? = some .pictograph
  | _ => false

/-- Whether a character goes on with the cluster before it, whose roles are given last
first. -/
def joins (before : List ClusterRole) (next : ClusterRole) : Bool :=
  match before with
  | [] => false
  | last :: _ =>
    if last = .carriageReturn && next = .lineFeed then true
    else if last.isBreak || next.isBreak then false
    else
      last = .prepended || next.isMark || next ∈ [.joiner, .spacingMark] ||
        makeSyllable last next ||
        (next = .consonant && endTied before) ||
        (next = .pictograph && endJoined before) ||
        (next = .regional && (before.takeWhile (· = .regional)).length % 2 = 1)

end ClusterRole

/-- The clusters of a text behind an open one, whose characters and roles are given last
first. -/
def clustersBehind : (chars : List Char) → (roles : List ClusterRole) → List Char →
    List (List Char)
  | [], _, [] => []
  | chars, _, [] => [chars.reverse]
  | chars, roles, c :: r =>
    let role := ClusterRole.ofChar c
    if chars.isEmpty || role.joins roles then clustersBehind (c :: chars) (role :: roles) r
    else chars.reverse :: clustersBehind [c] [role] r

def clusters (text : List Char) : List (List Char) :=
  clustersBehind [] [] text

/-! ### Backspaces -/

/-- The text of a line so far, last character first, and the numbers of bytes of its
clusters, last first. Each number is kept in one byte. -/
structure Typed where
  text : List Char
  sizes : List UInt8

namespace Typed

/-- Characters without the first ones, which take a number of bytes. A character of which only a
part is among these bytes stays. -/
def dropBytes : Nat → List Char → List Char
  | _, [] => []
  | n, c :: r => if c.utf8Size ≤ n then dropBytes (n - c.utf8Size) r else c :: r

def add (t : Typed) (cluster : List Char) : Typed :=
  let size := (cluster.map Char.utf8Size).foldl (· + ·) 0
  ⟨cluster.reverse ++ t.text, .ofNat size :: t.sizes⟩

/-- The last cluster taken back, as far as its number of bytes says. For a cluster of 256 bytes or
more that number is too small, and the end of the cluster alone is taken back. Where the bytes left
to it then end within a character, an editor that cuts its line at bytes stops with an error, of
which there is no account here: the line goes on with that character in it. -/
def takeBack (t : Typed) : Typed :=
  match t.sizes with
  | [] => t
  | n :: r => ⟨dropBytes n.toNat t.text, r⟩

end Typed

/-- A line after its backspaces. -/
def withoutBackspaces (line : List Char) : List Char :=
  if line.contains '\x08' then
    let typed : Typed :=
      (clusters line).foldl (fun t c => if c = ['\x08'] then t.takeBack else t.add c) ⟨[], []⟩
    typed.text.reverse
  else line

end HostConsole.Text
