import ArpProbe.Clock
import ArpProbe.Frame.Basic
import ArpProbe.HardwareAddress

/-! The line that tells of an answer: how it came, who sent it, whom it names beside us, and the
time since the probe in milliseconds with three places. -/

namespace ArpProbe.Frame

def targetText (f : Frame) (q : Query) (me : Octets) : String :=
  let address := if f.targetIp ≠ q.source then s!"for {f.targetIp.text} " else ""
  let hardware :=
    if f.targetHw ≠ me then
      (if f.targetIp ≠ q.source then "" else "for ") ++
        s!"[{HardwareAddress.text f.targetHw}]"
    else ""
  address ++ hardware

def delayText : Option Duration → String
  | some d =>
    let places := String.ofList ((Nat.toDigits 10 (d.microseconds % 1000)).leftpad 3 '0')
    s!" {d.microseconds / 1000}.{places}ms"
  | none => " UNSOLICITED?"

def report (f : Frame) (c : PacketClass) (q : Query) (me : Octets) (elapsed : Option Duration) :
    String :=
  (if c = .host then "Unicast " else "Broadcast ") ++
    (if f.isRequest then "request from " else "reply from ") ++
    s!"{f.senderIp.text} [{HardwareAddress.text f.senderHw}] " ++
    f.targetText q me ++ delayText elapsed

end ArpProbe.Frame
