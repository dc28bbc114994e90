/-! Lines of a text. -/

namespace HostConsole.Text

/-- The lines of a text. A line end at the end of the text begins no new line, and
a carriage return before a line end belongs to it. -/
def lines : List Char → List (List Char)
  | [] => []
  | c :: r =>
    if c = '\n' then [] :: lines r
    else if c = '\r' && r.head? = some '\n' then lines r
    else match lines r with
      | [] => [[c]]
      | l :: ls => (c :: l) :: ls

end HostConsole.Text
