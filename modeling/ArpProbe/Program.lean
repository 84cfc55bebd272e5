import ArpProbe.CommandLine.Request
import ArpProbe.Probe
import ArpProbe.Settings

/-! The whole program: from its arguments to what it writes and its exit status. -/

namespace ArpProbe

namespace Program

def versionLine : String := programName ++ " 0.1.0 (https://github.com/e3prom/rArping)\n"

def usageStatus : Int32 := 2

def complain (message : String) : Sys Unit :=
  Sys.print .diagnostic (programName ++ ": " ++ message ++ "\n")

def showUsage (program : String) : Sys Unit :=
  Sys.print .diagnostic (CommandLine.usage program)

def explain (program : String) (quiet : Bool) (e : Error) : Sys Int32 := do
  if e.isInterfaceState then
    if ¬ quiet then Sys.print .report (e.message ++ "\n")
  else
    complain e.message
    if e = .noSuitableDevice then showUsage program
  return e.exitCode

def probe (program : String) (c : Config) : Sys (Option Int32) := do
  Sys.debug c.verbosity .high .config c.account
  match ← (Probe.run c).run with
  | .ok (_, status) => return status
  | .error e => return some (← explain program c.modes.quiet e)

def configure (k : Kernel) (r : CommandLine.Request) : Except Error Config := do
  r.merge (← Settings.load k r.path)

def run (program : String) (arguments : List String) : Sys (Option Int32) := do
  match CommandLine.parse arguments with
  | .error refusal =>
    complain refusal.text
    showUsage program
    return some usageStatus
  | .ok .usage =>
    showUsage program
    return some usageStatus
  | .ok .version =>
    Sys.print .report versionLine
    return some 0
  | .ok (.probe r) =>
    match configure (← get) r with
    | .ok c => probe program c
    | .error e =>
      complain e.message
      return some usageStatus

end Program

end ArpProbe
