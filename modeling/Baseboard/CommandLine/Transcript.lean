import Baseboard.Network
import Baseboard.Text.Numeral

/-! Recorded conversations, one line for each frame sent: the datagrams that came
back, in hexadecimal and separated by blanks. -/
namespace Baseboard.CommandLine

def readDatagrams (line : String) : Option (List Bytes) :=
  ((line.splitOn " ").filter (· ≠ "")).mapM fun word => Text.readHex word.toList

/-- The network that answers as recorded, each datagram at once. -/
def readTranscript (lines : List String) : Option Network := do
  let replies ← lines.mapM readDatagrams
  return { script := replies.map fun datagrams =>
    .accepted (datagrams.map fun bytes => ⟨0, false, .datagram bytes⟩) }

end Baseboard.CommandLine
