import ArpProbe.Descriptors
import ArpProbe.Frame.Report
import ArpProbe.Kernel.Calls
import ArpProbe.Session

/-! A prober: a session on the link of an interface, and what it does at each event. What an
event changes in the session is said apart from the notes it leaves, so that reporting cannot
change the course of a probe. -/

namespace ArpProbe

def programName : String := "rarping"

inductive Note where
  | report (line : String) (flush : Bool) (topic : Topic)
  | failure (topic : Topic) (message : String)
  | detail (detail : Detail) (topic : Topic) (message : String)
  deriving DecidableEq, Repr

namespace Sys

def writeReport (text : String) : ExceptT IoError Sys Unit :=
  onStream StreamFaults.report (print .report text)

def flushReport : ExceptT IoError Sys Unit := onStream StreamFaults.flush (pure ())

def writeDiagnostic (text : String) : ExceptT IoError Sys Unit :=
  onStream StreamFaults.diagnostic (print .diagnostic text)

def writeReports (texts : List String) : ExceptT IoError Sys Unit := do
  texts.forM writeReport
  flushReport

def tell (v : Verbosity) : Note → Sys Unit
  | .report line flush topic => do
    let text := line ++ "\n"
    match ← (if flush then writeReports [text] else writeReport text).run with
    | .ok () => pure ()
    | .error cause => debug v .low topic ("cannot write report: " ++ cause.text)
  | .failure topic message => do
    match ← (writeDiagnostic (programName ++ ": " ++ message ++ "\n")).run with
    | .ok () => pure ()
    | .error cause => debug v .low topic ("cannot write diagnostic: " ++ cause.text)
  | .detail detail topic message => debug v detail topic message

end Sys

/-- The state of a prober. It is stuck once its next frame could not be encoded, or the clock not
be read. -/
structure Prober where
  session : Session
  query : Query
  index : Int32 := 0
  netDown : Bool := false
  stuck : Bool := false
  deriving DecidableEq, Repr, Inhabited

inductive Input where
  | send
  | timer (expirations : UInt64)
  | signal (number : UInt32)
  | receive (arrival : Arrival)
  deriving DecidableEq, Repr

namespace Prober

def fresh (modes : Modes) (count timeout : Int) (endpoint : Endpoint) (q : Query) (index : Int32) :
    Prober where
  session := { modes, count, timeout, endpoint }
  query := q
  index

def frame (p : Prober) : Frame :=
  Frame.probe p.session.endpoint.hardwareType p.session.endpoint.me p.session.endpoint.he
    p.session.modes.advert p.query.source p.query.target

def afterSend (p : Prober) (now : Instant) (length : Nat) (result : Except IoError Nat) :
    Prober × List Note :=
  match result with
  | .ok n =>
    if n = length then
      ({ p with session := p.session.recordSend now },
        [.detail .extensive .packet s!"sent {n} bytes probe for {p.query.target}"])
    else (p, [.detail .low .socket s!"short write: {n} of {length} bytes"])
  | .error cause => (p, [.failure .socket ("sendto: " ++ cause.text)])

def reportNotes (p : Prober) (now : Instant) (f : Frame) (c : PacketClass) : List Note :=
  if p.session.modes.quiet then []
  else [.report (f.report c p.query p.session.endpoint.me (p.session.elapsed now)) true .session]

def afterFailure (p : Prober) (cause : IoError) : Prober × List Note :=
  ({ p with netDown := p.netDown || cause.errno? = some Errno.networkDown },
    [.failure .socket ("recvfrom: " ++ cause.text)])

def afterReceive (p : Prober) (now : Instant) (packet : Octets) (link : LinkInfo) :
    Prober × Verdict × List Note :=
  match Frame.parse packet link p.session.endpoint.me p.query with
  | .error reject =>
    (p, .goOn,
      [.detail .extensive .packet s!"ignored {packet.length} bytes frame: {reject.name}"])
  | .ok f =>
    let (session, verdict) := p.session.accept f link.packetClass
    ({ p with session }, verdict,
      p.reportNotes now f link.packetClass ++
        [.detail .high .session session.counters.text])

def onSignal (number : UInt32) : Verdict × List Note :=
  if SignalChannel.isTermination number then
    (.final, [.detail .medium .signal s!"received signal {number}"])
  else (.goOn, [.report s!"{programName}: unexpected signal: {number}" false .signal])

def halt (p : Prober) : Prober := { p with stuck := true }

def send (v : Verbosity) (p : Prober) : Sys (Prober × Verdict) := do
  match p.frame.encode? with
  | none => return (p.halt, .final)
  | some octets =>
    match ← Sys.clock.run with
    | .error _ => return (p.halt, .final)
    | .ok now =>
      let result ← (Sys.send p.index p.session.endpoint.he octets).run
      let (p, notes) := p.afterSend now octets.length result
      notes.forM (Sys.tell v)
      return (p, .goOn)

def receive (v : Verbosity) (p : Prober) (arrival : Arrival) : Sys (Prober × Verdict) := do
  match ← (Sys.receive arrival).run with
  | .error cause =>
    let (p, notes) := p.afterFailure cause
    notes.forM (Sys.tell v)
    return (p, .goOn)
  | .ok (packet, link) =>
    match ← Sys.clock.run with
    | .error _ => return (p.halt, .final)
    | .ok now =>
      let (p, verdict, notes) := p.afterReceive now packet link
      notes.forM (Sys.tell v)
      return (p, verdict)

def timer (v : Verbosity) (p : Prober) (expirations : UInt64) : Sys (Prober × Verdict) := do
  let (session, verdict) := p.session.expire expirations
  let p := { p with session }
  match verdict with
  | .final => return (p, .final)
  | .goOn => p.send v

def signal (v : Verbosity) (p : Prober) (number : UInt32) : Sys (Prober × Verdict) := do
  let (verdict, notes) := onSignal number
  notes.forM (Sys.tell v)
  return (p, verdict)

def handle (v : Verbosity) (p : Prober) : Input → Sys (Prober × Verdict)
  | .send => p.send v
  | .timer expirations => p.timer v expirations
  | .signal number => p.signal v number
  | .receive arrival => p.receive v arrival

def finish (p : Prober) : ExceptT IoError Sys Int32 := do
  if ¬ p.session.modes.quiet then Sys.writeReports p.session.summaryParts
  return p.session.exitStatus p.session.baseStatus p.netDown

end Prober

end ArpProbe
