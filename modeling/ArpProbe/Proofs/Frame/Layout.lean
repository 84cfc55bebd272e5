import ArpProbe.Frame.Basic

/-! Where the parts of a frame stand on the wire, counted in octets from its front, and that
decoding finds them there. -/

namespace ArpProbe

theorem toNat_octetsWord (hi lo : UInt8) :
    (octetsWord hi lo).toNat = 256 * hi.toNat + lo.toNat := by
  have low : lo.toNat < 2 ^ 8 := lo.toNat_lt
  have high : hi.toNat < 2 ^ 8 := hi.toNat_lt
  have fits : hi.toNat <<< 8 < 2 ^ 16 := by
    rw [Nat.shiftLeft_eq]
    omega
  rw [octetsWord, UInt16.toNat_or, UInt16.toNat_shiftLeft, UInt8.toNat_toUInt16,
    UInt8.toNat_toUInt16]
  change hi.toNat <<< 8 % 2 ^ 16 ||| lo.toNat = _
  -- The shifted octet and the other have no bit in common, so joining them is adding.
  rw [Nat.mod_eq_of_lt fits, ← Nat.shiftLeft_add_eq_or_of_lt low, Nat.shiftLeft_eq]
  omega

namespace Wire

def octetAt (packet : Octets) (i : Nat) : UInt8 := packet.getD i 0

def wordAt (packet : Octets) (i : Nat) : Nat :=
  256 * (octetAt packet i).toNat + (octetAt packet (i + 1)).toNat

def slice (packet : Octets) (i n : Nat) : Octets := (packet.drop i).take n

def addressAt (packet : Octets) (i : Nat) : Ipv4 :=
  ⟨octetAt packet i, octetAt packet (i + 1), octetAt packet (i + 2), octetAt packet (i + 3)⟩

/-! The addresses behind the header, with `n` octets in a hardware address. -/

def senderHw (packet : Octets) (n : Nat) : Octets := slice packet 8 n

def senderIp (packet : Octets) (n : Nat) : Ipv4 := addressAt packet (8 + n)

def targetHw (packet : Octets) (n : Nat) : Octets := slice packet (8 + n + 4) n

def targetIp (packet : Octets) (n : Nat) : Ipv4 := addressAt packet (8 + n + 4 + n)

def header (packet : Octets) : Header where
  hardwareType := UInt16.ofNat (wordAt packet 0)
  protocolType := UInt16.ofNat (wordAt packet 2)
  hardwareLength := octetAt packet 4
  protocolLength := octetAt packet 5
  operation := UInt16.ofNat (wordAt packet 6)

def frame (packet : Octets) (n : Nat) : Frame where
  hardwareType := UInt16.ofNat (wordAt packet 0)
  protocolType := UInt16.ofNat (wordAt packet 2)
  operation := UInt16.ofNat (wordAt packet 6)
  senderHw := senderHw packet n
  senderIp := senderIp packet n
  targetHw := targetHw packet n
  targetIp := targetIp packet n

theorem wordAt_lt (packet : Octets) (i : Nat) : wordAt packet i < UInt16.size := by
  have high := (octetAt packet i).toNat_lt
  have low := (octetAt packet (i + 1)).toNat_lt
  rw [wordAt, UInt16.size]
  omega

theorem toNat_ofNat_wordAt (packet : Octets) (i : Nat) :
    (UInt16.ofNat (wordAt packet i)).toNat = wordAt packet i := by
  rw [UInt16.toNat_ofNat_of_lt' (wordAt_lt packet i)]

theorem word_eq_iff (packet : Octets) (i : Nat) (w : UInt16) :
    UInt16.ofNat (wordAt packet i) = w ↔ wordAt packet i = w.toNat := by
  rw [← UInt16.toNat_inj, toNat_ofNat_wordAt]

theorem octetsWord_eq (hi lo : UInt8) :
    octetsWord hi lo = UInt16.ofNat (256 * hi.toNat + lo.toNat) := by
  rw [← toNat_octetsWord, UInt16.ofNat_toNat]

end Wire

open Wire

theorem Header.take?_of_short {packet : Octets} (h : packet.length < 8) :
    Header.take? packet = none := by
  unfold Header.take?
  split
  · simp only [List.length_cons] at h
    omega
  · rfl

theorem Header.take?_of_long {packet : Octets} (h : 8 ≤ packet.length) :
    Header.take? packet = some (header packet, packet.drop 8) := by
  match packet, h with
  | h₁ :: h₀ :: p₁ :: p₀ :: hl :: pl :: o₁ :: o₀ :: body, _ =>
    simp only [take?, octetsWord_eq, header, wordAt, octetAt]
    rfl

theorem Ipv4.ofOctets_drop {packet : Octets} {i : Nat} (h : i + 4 ≤ packet.length) :
    Ipv4.ofOctets (packet.drop i) = addressAt packet i := by
  have at_ {j : Nat} (hj : j < packet.length) : packet[j] = octetAt packet j := by
    simp [octetAt, hj]
  rw [List.drop_eq_getElem_cons (show i < packet.length by omega),
    List.drop_eq_getElem_cons (show i + 1 < packet.length by omega),
    List.drop_eq_getElem_cons (show i + 1 + 1 < packet.length by omega),
    List.drop_eq_getElem_cons (show i + 1 + 1 + 1 < packet.length by omega)]
  simp only [ofOctets, at_, addressAt]

theorem Header.frame_header {packet : Octets} {n : Nat} (h : frameLength n ≤ packet.length) :
    (header packet).frame (packet.drop 8) n = Wire.frame packet n := by
  rw [frameLength, headerLength] at h
  have sender : Ipv4.ofOctets ((packet.drop 8).drop n) = senderIp packet n := by
    rw [List.drop_drop, Ipv4.ofOctets_drop (by omega), senderIp]
  have target : Ipv4.ofOctets ((packet.drop 8).drop (2 * n + 4)) = targetIp packet n := by
    rw [List.drop_drop, Ipv4.ofOctets_drop (by omega), targetIp]
    congr 1
    omega
  have hw : ((packet.drop 8).drop (n + 4)).take n = targetHw packet n := by
    rw [List.drop_drop, targetHw, slice, Nat.add_assoc]
  simp only [Header.frame, Wire.frame, header, sender, target, hw, senderHw, slice]

end ArpProbe
