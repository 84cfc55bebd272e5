import ArpProbe.Frame.Report

/-! The kinds of lines in a report, told by how they begin, and what their ends tell of the time
since the last probe. -/

namespace ArpProbe

namespace ReportLine

variable (start line : String)

def begins : Bool := start.toList.isPrefixOf line.toList

def ends (tail line : String) : Bool := tail.toList.isSuffixOf line.toList

def isAnswer : Bool := begins "Unicast " line || begins "Broadcast " line

def isRequest : Bool := begins "Unicast request " line || begins "Broadcast request " line

def isBroadcast : Bool := begins "Broadcast" line

def kind (broadcast request : Bool) : String :=
  (if broadcast then "Broadcast " else "Unicast ") ++
    if request then "request from " else "reply from "

def unasked : String := " UNSOLICITED?\n"

theorem begins_append (first rest : String) :
    begins start (first ++ rest) = start.toList.isPrefixOf (first.toList ++ rest.toList) := by
  rw [begins, String.toList_append]

theorem ends_append (tail first rest : String) :
    ends tail (first ++ rest) =
      tail.toList.reverse.isPrefixOf (rest.toList.reverse ++ first.toList.reverse) := by
  rw [ends, String.toList_append, List.isSuffixOf, List.reverse_append]

variable (broadcast request : Bool) (rest : String)

theorem isAnswer_kind : isAnswer (kind broadcast request ++ rest) = true := by
  rw [isAnswer, begins_append, begins_append]
  cases broadcast <;> cases request <;> rfl

theorem isRequest_kind : isRequest (kind broadcast request ++ rest) = request := by
  rw [isRequest, begins_append, begins_append]
  cases broadcast <;> cases request <;> rfl

theorem isBroadcast_kind : isBroadcast (kind broadcast request ++ rest) = broadcast := by
  rw [isBroadcast, begins_append]
  cases broadcast <;> cases request <;> rfl

end ReportLine

open ReportLine

namespace Frame

variable (f : Frame) (pc : PacketClass) (q : Query) (me : Octets) (elapsed : Option Duration)

theorem report_kind :
    ∃ rest, f.report pc q me elapsed ++ "\n" = kind (pc ≠ .host) f.isRequest ++ rest := by
  refine ⟨s!"{f.senderIp.text} [{HardwareAddress.text f.senderHw}] " ++
    (f.targetText q me ++ (delayText elapsed ++ "\n")), ?_⟩
  by_cases host : pc = .host <;> simp [report, kind, host, String.append_assoc]

theorem delayText_ends :
    match elapsed with
    | none => delayText elapsed ++ "\n" = unasked
    | some _ => ∃ time, delayText elapsed ++ "\n" = time ++ "ms\n" := by
  cases elapsed with
  | none => rfl
  | some d =>
    let places := String.ofList ((Nat.toDigits 10 (d.microseconds % 1000)).leftpad 3 '0')
    refine ⟨s!" {d.microseconds / 1000}.{places}", ?_⟩
    simp only [delayText, places, String.append_assoc]
    rfl

theorem ends_unasked_iff :
    ends unasked (f.report pc q me elapsed ++ "\n") = true ↔ elapsed = none := by
  have delay := delayText_ends elapsed
  cases elapsed with
  | none =>
    simp only at delay
    rw [report, String.append_assoc, delay, ends_append]
    simp [List.isPrefixOf_iff_prefix]
  | some d =>
    obtain ⟨time, delay⟩ := delay
    rw [report, String.append_assoc, delay, ← String.append_assoc, ends_append]
    constructor
    · intro marked
      cases marked
    · intro none
      cases none

theorem isAnswer_report : isAnswer (f.report pc q me elapsed ++ "\n") = true := by
  obtain ⟨rest, line⟩ := f.report_kind pc q me elapsed
  rw [line, isAnswer_kind]

theorem isRequest_report :
    ReportLine.isRequest (f.report pc q me elapsed ++ "\n") = f.isRequest := by
  obtain ⟨rest, line⟩ := f.report_kind pc q me elapsed
  rw [line, isRequest_kind]

theorem isBroadcast_report :
    isBroadcast (f.report pc q me elapsed ++ "\n") = decide (pc ≠ .host) := by
  obtain ⟨rest, line⟩ := f.report_kind pc q me elapsed
  rw [line, isBroadcast_kind]

end Frame

end ArpProbe
