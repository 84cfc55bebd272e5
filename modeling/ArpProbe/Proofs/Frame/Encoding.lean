import ArpProbe.Proofs.Frame.Grammar

/-! Encoding a frame that was read from a packet gives back the octets that it was read from, and
what stands behind these decides nothing. -/

namespace ArpProbe

theorem wordOctets_octetsWord (hi lo : UInt8) : wordOctets (octetsWord hi lo) = [hi, lo] := by
  have low := lo.toNat_lt
  have value := toNat_octetsWord hi lo
  have front : (octetsWord hi lo >>> 8).toUInt8 = hi := by
    rw [← UInt8.toNat_inj, UInt16.toNat_toUInt8, UInt16.toNat_shiftRight, value]
    change (256 * hi.toNat + lo.toNat) >>> 8 % 256 = hi.toNat
    have high := hi.toNat_lt
    rw [Nat.shiftRight_eq_div_pow]
    omega
  have back : (octetsWord hi lo).toUInt8 = lo := by
    rw [← UInt8.toNat_inj, UInt16.toNat_toUInt8, value]
    omega
  rw [wordOctets, front, back]

namespace Wire

variable {packet : Octets} {i m n : Nat}

theorem slice_append (packet : Octets) (i a b : Nat) :
    slice packet i a ++ slice packet (i + a) b = slice packet i (a + b) := by
  rw [slice, slice, slice, List.take_add, List.drop_drop]

theorem length_slice (h : i + m ≤ packet.length) : (slice packet i m).length = m := by
  rw [slice, List.length_take, List.length_drop]
  omega

theorem slice_succ (h : i < packet.length) (m : Nat) :
    slice packet i (m + 1) = octetAt packet i :: slice packet (i + 1) m := by
  have first : packet[i] = octetAt packet i := by simp [octetAt, h]
  rw [slice, List.drop_eq_getElem_cons h, List.take_succ_cons, first, slice]

theorem octets_addressAt (h : i + 4 ≤ packet.length) :
    (addressAt packet i).octets = slice packet i 4 := by
  rw [slice_succ (by omega), slice_succ (by omega), slice_succ (by omega), slice_succ (by omega)]
  rfl

theorem wordOctets_wordAt (h : i + 2 ≤ packet.length) :
    wordOctets (UInt16.ofNat (wordAt packet i)) = slice packet i 2 := by
  rw [wordAt, ← octetsWord_eq, wordOctets_octetsWord, slice_succ (by omega),
    slice_succ (by omega)]
  rfl

theorem header_frame (h : frameLength n ≤ packet.length) (hardware : (octetAt packet 4).toNat = n)
    (protocol : (octetAt packet 5).toNat = 4) : (frame packet n).header = slice packet 0 8 := by
  rw [frameLength, headerLength] at h
  have size : (senderHw packet n).length = n := length_slice (by omega)
  have lengths : [UInt8.ofNat (senderHw packet n).length, 4] = slice packet 4 2 := by
    have four : octetAt packet 5 = 4 := UInt8.toNat_inj.mp protocol
    rw [size, ← hardware, UInt8.ofNat_toNat, slice_succ (by omega), slice_succ (by omega), four]
    rfl
  simp only [Frame.header, frame]
  rw [lengths, wordOctets_wordAt (by omega), wordOctets_wordAt (by omega),
    wordOctets_wordAt (by omega), slice_append packet 0, slice_append packet 0,
    slice_append packet 0]

theorem encode_frame (h : frameLength n ≤ packet.length)
    (hardware : (octetAt packet 4).toNat = n) (protocol : (octetAt packet 5).toNat = 4) :
    (frame packet n).encode? = some (packet.take (frameLength n)) := by
  have front := header_frame h hardware protocol
  rw [frameLength, headerLength] at h
  have sender : (senderHw packet n).length = n := length_slice (by omega)
  have target : (targetHw packet n).length = n := length_slice (by omega)
  have fits : ¬ (frame packet n).targetHw.length < (frame packet n).senderHw.length := by
    change ¬ (targetHw packet n).length < (senderHw packet n).length
    omega
  rw [Frame.encode?, if_neg fits, front]
  congr 1
  -- The five parts stand one behind the other, so they join to one slice from the front.
  calc slice packet 0 8 ++ senderHw packet n ++ (senderIp packet n).octets ++
        (targetHw packet n).take (senderHw packet n).length ++ (targetIp packet n).octets
    _ = slice packet 0 8 ++ slice packet (0 + 8) n ++ slice packet (0 + (8 + n)) 4 ++
        slice packet (0 + (8 + n + 4)) n ++ slice packet (0 + (8 + n + 4 + n)) 4 := by
      rw [sender, List.take_of_length_le (Nat.le_of_eq target), senderIp, targetIp,
        octets_addressAt (by omega), octets_addressAt (by omega), senderHw, targetHw]
      simp only [Nat.zero_add]
    _ = slice packet 0 (8 + n + 4 + n + 4) := by simp only [slice_append]
    _ = packet.take (frameLength n) := by
      rw [slice, List.drop_zero, frameLength, headerLength]
      congr 1
      omega

theorem octetAt_take (h : i < m) : octetAt (packet.take m) i = octetAt packet i := by
  rw [octetAt, octetAt, List.getD_eq_getElem?_getD, List.getD_eq_getElem?_getD,
    List.getElem?_take_of_lt h]

theorem slice_take {l : Nat} (h : i + l ≤ m) : slice (packet.take m) i l = slice packet i l := by
  rw [slice, slice, List.drop_take, List.take_take, Nat.min_eq_left (by omega)]

theorem wordAt_take (h : i + 1 < m) : wordAt (packet.take m) i = wordAt packet i := by
  rw [wordAt, wordAt, octetAt_take (by omega), octetAt_take h]

theorem addressAt_take (h : i + 3 < m) : addressAt (packet.take m) i = addressAt packet i := by
  rw [addressAt, octetAt_take (by omega), octetAt_take (by omega), octetAt_take (by omega),
    octetAt_take h, addressAt]

theorem header_take (h : 8 ≤ m) : header (packet.take m) = header packet := by
  simp only [header]
  rw [wordAt_take (by omega), wordAt_take (by omega), octetAt_take (by omega),
    octetAt_take (by omega), wordAt_take (by omega)]

theorem frame_take : frame (packet.take (frameLength n)) n = frame packet n := by
  rw [frameLength, headerLength]
  simp only [frame, senderHw, senderIp, targetHw, targetIp]
  rw [wordAt_take (by omega), wordAt_take (by omega), wordAt_take (by omega),
    slice_take (by omega), addressAt_take (by omega), slice_take (by omega),
    addressAt_take (by omega)]

end Wire

open Wire

namespace Frame

variable (packet : Octets) (link : LinkInfo) (me : Octets) (q : Query)

theorem parse_take :
    parse (packet.take (frameLength me.length)) link me q = parse packet link me q := by
  by_cases long : frameLength me.length ≤ packet.length
  · have header : 8 ≤ frameLength me.length := by
      rw [frameLength, headerLength]
      omega
    have cut : (packet.take (frameLength me.length)).length = frameLength me.length := by
      rw [List.length_take, Nat.min_eq_left long]
    have frame₁ := Header.frame_header (Nat.le_of_eq cut.symm)
    rw [header_take header, frame_take] at frame₁
    simp only [parse, Header.take?_of_long (cut ▸ header),
      Header.take?_of_long (Nat.le_trans header long), header_take header, cut, Nat.lt_irrefl,
      if_neg (Nat.not_lt.mpr long), frame₁, Header.frame_header long, if_false]
  · rw [List.take_of_length_le (Nat.le_of_not_le long)]

variable {packet link me q} {f : Frame}

/-- A packet that was accepted begins with the encoding of its frame, and any packet that begins so
is accepted as well. -/
theorem encode_parse (accepted : parse packet link me q = .ok f) :
    f.encode? = some (packet.take (8 + 2 * (4 + me.length))) ∧
      8 + 2 * (4 + me.length) ≤ packet.length ∧
      ∀ other : Octets, other.take (8 + 2 * (4 + me.length)) =
        packet.take (8 + 2 * (4 + me.length)) → parse other link me q = .ok f := by
  have found := parse_finds packet link me q
  rw [accepted] at found
  obtain ⟨rfl, met⟩ := found
  have answer := (isAnswer_iff packet link me q).mpr met
  have encoded := encode_frame answer.length answer.hardwareLength answer.protocolLength
  refine ⟨encoded, answer.length, fun other same => ?_⟩
  -- Packets that begin alike are read alike, as each is read like its beginning.
  have along : parse (other.take (frameLength me.length)) link me q =
      parse (packet.take (frameLength me.length)) link me q := congrArg (parse · link me q) same
  rw [parse_take, parse_take] at along
  rw [along, accepted]

theorem encode_parse_padded :
    let packet : Octets := [0, 1, 8, 0, 6, 4, 0, 2, 2, 0, 0, 0, 0, 9, 10, 0, 0, 9,
      2, 0, 0, 0, 0, 1, 10, 0, 0, 1, 7, 7, 7]
    let link : LinkInfo := ⟨.broadcast, 774⟩
    let me : Octets := [2, 0, 0, 0, 0, 1]
    let q : Query := ⟨⟨10, 0, 0, 9⟩, ⟨10, 0, 0, 1⟩, false⟩
    let f : Frame := ⟨1, 0x0800, 2, [2, 0, 0, 0, 0, 9], ⟨10, 0, 0, 9⟩, me, ⟨10, 0, 0, 1⟩⟩
    parse packet link me q = .ok f ∧ f.encode? = some (packet.take 28) ∧
      parse (packet.take 28) link me q = .ok f := by
  intro packet link me q f
  have accepted : parse packet link me q = .ok f := by rfl
  obtain ⟨encoded, _, padded⟩ := encode_parse accepted
  exact ⟨accepted, encoded, padded _ (by decide)⟩

end Frame

end ArpProbe
