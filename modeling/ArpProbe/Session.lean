import ArpProbe.Clock
import ArpProbe.Frame.Basic

/-! A probe session: what was sent and received, where the next probe goes, and when it is over.
Probes go to the broadcast address until the first answer, then to the station that sent it. -/

namespace ArpProbe

structure Modes where
  dad : Bool := false
  unsolicited : Bool := false
  advert : Bool := false
  broadcastOnly : Bool := false
  quiet : Bool := false
  quitOnReply : Bool := false
  deriving DecidableEq, Repr, Inhabited

structure Endpoint where
  hardwareType : UInt16
  me : Octets
  he : Octets
  deriving DecidableEq, Repr, Inhabited

def Endpoint.ofAddresses? (hardwareType : UInt16) (me broadcast : Octets) : Option Endpoint :=
  if me.length = broadcast.length then some ⟨hardwareType, me, broadcast⟩ else none

structure Counters where
  sent : UInt32 := 0
  broadcastSent : UInt32 := 0
  received : UInt32 := 0
  broadcastReceived : UInt32 := 0
  requestReceived : UInt32 := 0
  deriving DecidableEq, Repr, Inhabited

namespace Counters

def text (c : Counters) : String :=
  s!"sent {c.sent} (broadcast {c.broadcastSent}), received {c.received} " ++
    s!"(broadcast {c.broadcastReceived}, request {c.requestReceived})"

def send (c : Counters) (unicasting : Bool) : Counters :=
  { c with
    sent := c.sent + 1
    broadcastSent := if unicasting then c.broadcastSent else c.broadcastSent + 1 }

def accept (c : Counters) (request : Bool) (pc : PacketClass) : Counters :=
  { c with
    received := c.received + 1
    broadcastReceived := if pc = .host then c.broadcastReceived else c.broadcastReceived + 1
    requestReceived := if request then c.requestReceived + 1 else c.requestReceived }

def breakdown (c : Counters) : List String :=
  let requests := if 0 < c.requestReceived then [s!"{c.requestReceived} request(s)"] else []
  let broadcasts :=
    if 0 < c.broadcastReceived then [s!"{c.broadcastReceived} broadcast(s)"] else []
  match requests ++ broadcasts with
  | [] => []
  | parts => " (" :: parts.intersperse ", " ++ [")"]

end Counters

inductive Verdict where
  | goOn
  | final
  deriving DecidableEq, Repr, Inhabited

/-- The state of a session. The first probe goes out before the timer is armed, so it counts
among the expirations from the start. -/
structure Session where
  modes : Modes
  count : Int
  timeout : Int
  endpoint : Endpoint
  counters : Counters := {}
  lastSend : Option Instant := none
  unicasting : Bool := false
  totalExpires : UInt64 := 1
  deriving DecidableEq, Repr, Inhabited

namespace Session

def elapsed (s : Session) (now : Instant) : Option Duration := s.lastSend.map now.since

def recordSend (s : Session) (sentAt : Instant) : Session :=
  { s with lastSend := some sentAt, counters := s.counters.send s.unicasting }

def expire (s : Session) (expirations : UInt64) : Session × Verdict :=
  let s := { s with totalExpires := s.totalExpires + expirations }
  (s, if 0 < s.count ∧ s.count < s.totalExpires.toNat then .final else .goOn)

def turn (s : Session) (responder : Octets) : Session :=
  if s.modes.broadcastOnly || s.unicasting then s
  else { s with endpoint := { s.endpoint with he := responder }, unicasting := true }

def isAnswered (s : Session) : Bool :=
  (s.timeout ≠ 0 && (s.counters.received.toNat : Int) = s.count) || s.modes.quitOnReply
    || (s.count ≤ 0 && s.counters.received = s.counters.sent)

def accept (s : Session) (f : Frame) (pc : PacketClass) : Session × Verdict :=
  let s := { s with counters := s.counters.accept f.isRequest pc }.turn f.senderHw
  (s, if s.isAnswered then .final else .goOn)

def summaryParts (s : Session) : List String :=
  [s!"Sent {s.counters.sent} probes ({s.counters.broadcastSent} broadcast(s))\n",
    s!"Received {s.counters.received} response(s)"] ++ s.counters.breakdown ++ ["\n"]

def summary (s : Session) : String := String.join s.summaryParts

/-- Zero for success: an address that nobody holds, an announcement, or an answer. -/
def baseStatus (s : Session) : Int32 :=
  if s.modes.dad then (if 0 < s.counters.received then 1 else 0)
  else if s.modes.unsolicited then 0
  else if s.counters.received = 0 then 1 else 0

def exitStatus (s : Session) (base : Int32) (netDown : Bool) : Int32 :=
  let status := if netDown then base ||| 2 else base
  if s.counters.broadcastSent = s.counters.received then status ||| 1 else status

end Session

end ArpProbe
