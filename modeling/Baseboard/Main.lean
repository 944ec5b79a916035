import Baseboard.CommandLine.Run
import Baseboard.CommandLine.Transcript

/-! The program: carries out its arguments against a conversation recorded on
standard input. -/
namespace Baseboard.CommandLine

def usage : String :=
  "usage: chassis status|control, mc info, raw or ping, with a host and options"

/-- The lines of a stream, without their ends. -/
partial def readLines (stream : IO.FS.Stream) : IO (List String) := do
  let line ← stream.getLine
  if line.isEmpty then return []
  return (line.trimAsciiEnd).toString :: (← readLines stream)

end Baseboard.CommandLine

open Baseboard Baseboard.CommandLine in
def main (args : List String) : IO UInt32 := do
  match Invocation.parse args with
  | none =>
    IO.eprintln usage
    return 2
  | some invocation =>
    match readTranscript (← readLines (← IO.getStdin)) with
    | none =>
      IO.eprintln "the recorded conversation is not hexadecimal"
      return 2
    | some network =>
      let sequence ← IO.rand 0 (UInt32.size - 1)
      let tag ← IO.rand 0 255
      let report := invocation.run ⟨UInt32.ofNat sequence, UInt8.ofNat tag⟩ network
      report.lines.forM IO.println
      match report.result with
      | .ok () => return 0
      | .error failure =>
        IO.eprintln ("Error: " ++ failure.message)
        return 1
