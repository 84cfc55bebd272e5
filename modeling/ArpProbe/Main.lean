import ArpProbe.Program
import Std.Time.DateTime.Timestamp

/-! The program as a command. It runs on what a process without privileges has of its host: the
clock and the configuration file. Such a process is refused a packet socket. -/

namespace ArpProbe

namespace Host

def configurationFile? (arguments : List String) : Option String :=
  match CommandLine.parse arguments with
  | .ok (.probe r) => some (r.path.getD Settings.standingFile)
  | _ => none

def readFile? (path : String) : IO (Option (String × Octets)) := do
  try return some (path, (← IO.FS.readBinFile path).toList)
  catch _ => return none

def passed (path : String) : List String :=
  let names := path.splitOn "/"
  (List.range names.length).map fun n => String.intercalate "/" (names.take n)

def microseconds : IO Nat := do
  let now ← Std.Time.Timestamp.now
  return now.toMillisecondsSinceUnixEpoch.val.toNat * 1000

def kernel (arguments : List String) : IO Kernel := do
  let file ← (configurationFile? arguments).bindM readFile?
  return {
    wallMicroseconds := ← microseconds
    faults := fun kind => if kind = .packetSocket then [Errno.notPermitted] else []
    users := ⟨1000, 1000, 1000⟩
    capabilities := some ⟨.empty, .empty⟩
    files := file.toList
    emptyDirectories := (file.map fun f => passed f.1).getD [] }

def stuckStatus : Int32 := 101

def run (arguments : List String) : IO UInt32 := do
  let (status, k) := (Program.run programName arguments).run (← kernel arguments)
  (← IO.getStdout).putStr k.standardOutput
  (← IO.getStderr).putStr k.standardError
  return (status.getD stuckStatus).toUInt32

end Host

end ArpProbe

def main (arguments : List String) : IO UInt32 := ArpProbe.Host.run arguments
