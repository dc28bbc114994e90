import HostConsole.Pattern.Automaton.Extent

/-! The part of an automaton that reads one of several words, given in bytes. Words with
the same beginning go through the same states, except that the words behind one that
ends take states of their own. -/

namespace HostConsole.Pattern

/-- Words cut into those before, between and behind the empty ones. -/
def betweenEmpty : (words : List (List UInt8)) → List (List (List UInt8))
  | [] => [[]]
  | [] :: r => [] :: betweenEmpty r
  | w :: r =>
    match betweenEmpty r with
    | s :: ss => (w :: s) :: ss
    | [] => [[w]]

/-- Words whose end has been seen at their start count once. -/
def sections (words : List (List UInt8)) : List (List (List UInt8)) :=
  match words with
  | [] :: r => [] :: betweenEmpty (r.dropWhile List.isEmpty)
  | words => betweenEmpty words

/-- The states that read one of some words of at most a given length. -/
def assembleWords : (length : Nat) → (words : List (List UInt8)) → Assembly Unit
  | 0, _ => return
  | length + 1, words => do
    if words.all List.isEmpty then return
    let parts := sections words
    parts.forM fun part => do
      let heads := (part.filterMap List.head?).eraseDups
      heads.forM fun b =>
        assembleWords length <|
          part.filterMap fun w => if w.head? = some b then some w.tail else none
      if heads.length = 1 then Assembly.states 1
      else if 1 < heads.length then Assembly.grow 1 (8 * heads.length)
    Assembly.states 1
    Assembly.links ((parts.filter (!·.isEmpty)).length + (parts.length - 1))

end HostConsole.Pattern
