import HostConsole.Program

/-! The executable: standard input read line by line. -/

namespace HostConsole.Program

def write (written : List Written) : IO Unit := do
  for w in written do
    match w.stream with
    | .out => (← IO.getStdout).putStr w.text
    | .err => (← IO.getStderr).putStr w.text
  (← IO.getStdout).flush

/-- The prompt on a stream, with the bytes read but not yet used. -/
partial def serve (input : IO.FS.Stream) (quiet : Bool) (s : Console)
    (pending : List UInt8) : IO UInt32 := do
  match pending.dropWhile (· != 10) with
  | _ :: rest => line (pending.takeWhile (· != 10)) rest
  | [] =>
    let more ← input.read 4096
    if !more.isEmpty then serve input quiet s (pending ++ more.toList)
    else if pending.isEmpty then return 0
    else line pending []
where
  line (bytes rest : List UInt8) : IO UInt32 := do
    let p := step quiet s bytes
    write p.written
    match p.next with
    | .ok s => serve input quiet s rest
    | .error code => return UInt32.ofNat code

end HostConsole.Program

open HostConsole in
def main (arguments : List String) : IO UInt32 := do
  match Program.start arguments with
  | .finished r =>
    Program.write r.written
    return UInt32.ofNat r.code
  | .prompt quiet s written =>
    Program.write written
    Program.serve (← IO.getStdin) quiet s []
