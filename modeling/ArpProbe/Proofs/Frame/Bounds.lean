import ArpProbe.Proofs.Frame.Encoding
import ArpProbe.Proofs.Frame.Mirror

/-! The bounds of reading and writing. Reading a packet piece by piece, where a piece beyond its end
is no piece at all, always succeeds and is the plain reading, so nothing is read out of range. A
frame between two addresses of one length is written whole and says that length. -/

namespace ArpProbe

namespace Wire

variable {packet : Octets} {i n : Nat}

def octet? (packet : Octets) (i : Nat) : Option UInt8 := packet[i]?

def slice? (packet : Octets) (i n : Nat) : Option Octets :=
  if i + n ≤ packet.length then some (slice packet i n) else none

def word? (packet : Octets) (i : Nat) : Option UInt16 :=
  match slice? packet i 2 with
  | some [hi, lo] => some (octetsWord hi lo)
  | _ => none

def address? (packet : Octets) (i : Nat) : Option Ipv4 :=
  match slice? packet i 4 with
  | some [a, b, c, d] => some ⟨a, b, c, d⟩
  | _ => none

theorem octet?_of_lt (h : i < packet.length) : octet? packet i = some (octetAt packet i) := by
  rw [octet?, octetAt, List.getD_eq_getElem?_getD, List.getElem?_eq_getElem h]
  rfl

theorem slice?_of_le (h : i + n ≤ packet.length) : slice? packet i n = some (slice packet i n) :=
  if_pos h

theorem word?_of_le (h : i + 2 ≤ packet.length) :
    word? packet i = some (UInt16.ofNat (wordAt packet i)) := by
  have two : slice packet i 2 = [octetAt packet i, octetAt packet (i + 1)] := by
    rw [slice_succ (by omega), slice_succ (by omega)]
    rfl
  rw [word?, slice?_of_le h, two, wordAt, ← octetsWord_eq]

theorem address?_of_le (h : i + 4 ≤ packet.length) :
    address? packet i = some (addressAt packet i) := by
  have four : slice packet i 4 = (addressAt packet i).octets := (octets_addressAt h).symm
  rw [address?, slice?_of_le h, four]
  rfl

theorem hardwareLength_of_fault {packet : Octets} {linkType : UInt16} {n : Nat}
    (fine : (header packet).fault? linkType n = none) : (octetAt packet 4).toNat = n := by
  have found := header_finds packet linkType n
  rw [fine] at found
  exact found ((octetAt packet 4).toNat = n, .hardwareLength) (by simp [headerConditions])

end Wire

open Wire

namespace Frame

/-- Reads a packet like `parse`, but every octet only if it is there. -/
def parseWithin? (packet : Octets) (link : LinkInfo) (me : Octets) (q : Query) :
    Option (Except Reject Frame) :=
  if ¬ link.packetClass.isAddressed then some (.error .packetClass)
  else if packet.length < headerLength then some (.error .truncated)
  else do
    let hardwareType ← word? packet 0
    let protocolType ← word? packet 2
    let hardwareLength ← octet? packet 4
    let protocolLength ← octet? packet 5
    let operation ← word? packet 6
    let header : Header := ⟨hardwareType, protocolType, hardwareLength, protocolLength, operation⟩
    match header.fault? link.hardwareType me.length with
    | some reject => some (.error reject)
    | none =>
      let n := hardwareLength.toNat
      if packet.length < frameLength n then some (.error .truncated)
      else do
        let senderHw ← slice? packet 8 n
        let senderIp ← address? packet (8 + n)
        let targetHw ← slice? packet (8 + n + 4) n
        let targetIp ← address? packet (8 + n + 4 + n)
        let frame : Frame :=
          ⟨hardwareType, protocolType, operation, senderHw, senderIp, targetHw, targetIp⟩
        match q.mismatch? me frame with
        | some reject => some (.error reject)
        | none => some (.ok frame)

theorem parseWithin?_eq (packet : Octets) (link : LinkInfo) (me : Octets) (q : Query) :
    parseWithin? packet link me q = some (parse packet link me q) := by
  unfold parseWithin? parse
  by_cases addressed : link.packetClass.isAddressed = true
  · rw [if_neg (not_not_intro addressed), if_neg (not_not_intro addressed)]
    by_cases long : headerLength ≤ packet.length
    · have eight : 8 ≤ packet.length := long
      -- The header is there, so all of it can be read.
      rw [if_neg (Nat.not_lt.mpr long), word?_of_le (by omega), word?_of_le (by omega),
        octet?_of_lt (by omega), octet?_of_lt (by omega), word?_of_le (by omega)]
      simp only [Header.take?_of_long eight, Option.bind_eq_bind, Option.bind_some]
      change (match (Wire.header packet).fault? link.hardwareType me.length with
        | some reject => _
        | none => _) = _
      cases fault : (Wire.header packet).fault? link.hardwareType me.length with
      | some reject => rfl
      | none =>
        have length := hardwareLength_of_fault fault
        simp only [length]
        by_cases enough : frameLength me.length ≤ packet.length
        · -- The addresses end where the frame does.
          have parts := enough
          rw [frameLength, headerLength] at parts
          rw [if_neg (Nat.not_lt.mpr enough), if_neg (Nat.not_lt.mpr enough),
            Header.frame_header enough, slice?_of_le (by omega), address?_of_le (by omega),
            slice?_of_le (by omega), address?_of_le (by omega)]
          simp only [Option.bind_some]
          change (match q.mismatch? me (frame packet me.length) with
            | some reject => some (Except.error reject)
            | none => some (Except.ok (frame packet me.length))) = _
          cases q.mismatch? me (frame packet me.length) <;> rfl
        · rw [if_pos (Nat.not_le.mp enough), if_pos (Nat.not_le.mp enough)]
    · rw [if_pos (Nat.not_le.mp long), Header.take?_of_short (Nat.not_le.mp long)]
  · rw [if_pos addressed, if_pos addressed]

variable {f : Frame}

theorem encode_of_level (level : f.targetHw.length = f.senderHw.length) :
    ∃ octets, f.encode? = some octets ∧ octets.length = 8 + 2 * (4 + f.senderHw.length) ∧
      octets[4]? = some (UInt8.ofNat f.senderHw.length) := by
  refine ⟨f.header ++ f.body, encode_of_target level, ?_, rfl⟩
  rw [List.length_append, length_header, length_body, level, headerLength]
  omega

end Frame

end ArpProbe
