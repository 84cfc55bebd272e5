import ArpProbe.Descriptors
import ArpProbe.Error
import ArpProbe.Prober

/-! The loop that waits for signals, the timer and the socket, and lets the prober handle what is
ready, in that order, until an event is final or waiting itself fails. -/

namespace ArpProbe

inductive Ready where
  | signal (reading : Reading UInt32)
  | timer (reading : Reading UInt64)
  | socket (arrival : Arrival)
  deriving DecidableEq, Repr

namespace Ready

def descriptor : Ready → Descriptor
  | signal _ => .signal
  | timer _ => .timer
  | socket _ => .socket

def ofParts (signal : Option (Reading UInt32)) (timer : Option (Reading UInt64))
    (socket : Option Arrival) : List Ready :=
  (signal.map Ready.signal).toList ++ (timer.map Ready.timer).toList ++
    (socket.map Ready.socket).toList

end Ready

namespace EventLoop

def unreadable (v : Verbosity) (p : Prober) (topic : Topic) (descriptor : String)
    (cause : IoError) : Sys (Prober × Verdict) := do
  Sys.tell v (.failure topic ("could not read " ++ descriptor ++ ": " ++ cause.text))
  return (p, .goOn)

def serve (v : Verbosity) (p : Prober) : Ready → Sys (Prober × Verdict)
  | .signal reading => do
    match ← (Sys.readSignal reading).run with
    | .ok number => p.handle v (.signal number)
    | .error cause => unreadable v p .signal "signalfd" cause
  | .timer reading => do
    match ← (Sys.readTimer reading).run with
    | .ok expirations => p.handle v (.timer expirations)
    | .error cause => unreadable v p .timer "timerfd" cause
  | .socket arrival => p.handle v (.receive arrival)

def serveAll (v : Verbosity) (p : Prober) : List Ready → Sys (Prober × Verdict)
  | [] => return (p, .goOn)
  | r :: rs => do
    match ← serve v p r with
    | (p, .goOn) => serveAll v p rs
    | (p, .final) => return (p, .final)

def wake (v : Verbosity) (p : Prober) (w : Wake) : Sys (Prober × Verdict) := do
  modify (·.advance w.delay)
  match w.readiness with
  | .failed e =>
    Sys.record (.call (.poll []) (some e))
    if e = Errno.interrupted || e = Errno.again then return (p, .goOn)
    else
      Sys.tell v (.failure .main ("poll failed: " ++ Errno.text e))
      return (p, .final)
  | .ready signal timer socket =>
    let ready := Ready.ofParts signal timer socket
    Sys.record (.call (.poll (ready.map Ready.descriptor)) none)
    serveAll v p ready

/-- The wake that ends every loop: the termination signal. -/
def lastWake : Wake := ⟨⟨0⟩, .ready (some (.value 15)) none none⟩

def loop (v : Verbosity) (p : Prober) : List Wake → Sys Prober
  | [] => return (← wake v p lastWake).1
  | w :: ws => do
    match ← wake v p w with
    | (p, .goOn) => loop v p ws
    | (p, .final) => return p

def probe (v : Verbosity) (p : Prober) : Sys Prober := do
  match ← p.send v with
  | (p, .goOn) => loop v p (← get).wakes
  | (p, .final) => return p

def arm (v : Verbosity) (interval : Duration) : ExceptT Error Sys Unit := do
  (SignalChannel.route SignalChannel.terminating).adapt (Error.eventLoop "signalfd")
  (Timer.start interval v).adapt (Error.eventLoop "timerfd")

def conclude (p : Prober) : ExceptT Error Sys (Option Int32) := do
  if p.stuck then return none
  let status ← p.finish.adapt (Error.eventLoop "write")
  return some status

def run (v : Verbosity) (p : Prober) (interval : Duration) :
    ExceptT Error Sys (Prober × Option Int32) := do
  arm v interval
  let p ← ExceptT.lift (probe v p)
  return (p, ← conclude p)

end EventLoop

end ArpProbe
