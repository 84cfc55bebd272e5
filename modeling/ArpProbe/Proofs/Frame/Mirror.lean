import ArpProbe.Proofs.Frame.Grammar

/-! A frame on its way over a link: what one station encodes another reads as the same frame, and
whether it answers the other's query is all that is left to ask. So a probe is an answer to the
query that mirrors it. -/

namespace ArpProbe

theorem octetsWord_wordOctets (w : UInt16) : octetsWord (w >>> 8).toUInt8 w.toUInt8 = w := by
  have bound := w.toNat_lt
  rw [← UInt16.toNat_inj, toNat_octetsWord, UInt16.toNat_toUInt8, UInt16.toNat_toUInt8,
    UInt16.toNat_shiftRight]
  change 256 * (w.toNat >>> 8 % 256) + w.toNat % 256 = w.toNat
  rw [Nat.shiftRight_eq_div_pow]
  omega

theorem Ipv4.ofOctets_octets (x : Ipv4) (rest : Octets) : ofOctets (x.octets ++ rest) = x := rfl

theorem HardwareType.fits_onWire (t : UInt16) : fits t (onWire t) = true := by
  unfold fits onWire
  by_cases h : t = fddi <;> simp [h]

namespace Query

variable {q : Query} {me : Octets} {f : Frame}

theorem mismatch_eq_none_of_question (asks : q.dad = false) :
    q.mismatch? me f = none ↔
      f.senderIp = q.target ∧ f.targetIp = q.source ∧ f.targetHw = me := by
  rw [mismatch?, if_neg (by simp [asks])]
  by_cases sender : f.senderIp = q.target
  · by_cases target : f.targetIp = q.source <;> simp [sender, target]
  · simp [sender]

theorem mismatch_eq_none_of_test (tests : q.dad = true) :
    q.mismatch? me f = none ↔
      f.senderIp = q.target ∧ f.senderHw ≠ me ∧
        (q.source = ⟨0, 0, 0, 0⟩ ∨ f.targetIp = q.source) := by
  rw [mismatch?, if_pos tests, ← q.source.isUnspecified_iff]
  by_cases sender : f.senderIp = q.target
  · by_cases own : f.senderHw = me
    · simp [sender, own]
    · cases q.source.isUnspecified <;> simp [sender, own]
  · simp [sender]

theorem mismatch_of_own (tests : q.dad = true) (sender : f.senderIp = q.target) :
    q.mismatch? f.senderHw f = some .ownHardware := by
  simp [mismatch?, tests, sender]

end Query

namespace Frame

def body (f : Frame) : Octets := f.senderHw ++ f.senderIp.octets ++ f.targetHw ++ f.targetIp.octets

structure Suits (f : Frame) (linkType : UInt16) (n : Nat) : Prop where
  operation : f.operation = Operation.request ∨ f.operation = Operation.reply
  hardwareType : HardwareType.fits linkType f.hardwareType = true
  protocolType : f.protocolType = protocolIpv4
  sender : f.senderHw.length = n
  target : f.targetHw.length = n
  short : n ≤ 255

variable {f : Frame}

theorem encode_of_target (same : f.targetHw.length = f.senderHw.length) :
    f.encode? = some (f.header ++ f.body) := by
  rw [encode?, if_neg (by omega), ← same, List.take_length, body]
  simp only [List.append_assoc]

theorem take_header (f : Frame) (rest : Octets) :
    Header.take? (f.header ++ rest) = some
      (⟨f.hardwareType, f.protocolType, UInt8.ofNat f.senderHw.length, 4, f.operation⟩, rest) := by
  simp only [header, wordOctets, List.cons_append, List.nil_append, Header.take?,
    octetsWord_wordOctets]

theorem length_header (f : Frame) : f.header.length = headerLength := rfl

theorem length_body (f : Frame) :
    f.body.length = f.senderHw.length + 4 + f.targetHw.length + 4 := by
  simp only [body, List.length_append, Ipv4.octets, List.length_cons, List.length_nil]

theorem frame_body {n : Nat} (sender : f.senderHw.length = n) (target : f.targetHw.length = n)
    (l p : UInt8) :
    Header.frame ⟨f.hardwareType, f.protocolType, l, p, f.operation⟩ f.body n = f := by
  have parts : f.body =
      f.senderHw ++ (f.senderIp.octets ++ (f.targetHw ++ (f.targetIp.octets ++ []))) := by
    simp only [body, List.append_assoc, List.append_nil]
  -- Each part stands where the parts before it have been dropped.
  have second : f.body.drop n = f.senderIp.octets ++ (f.targetHw ++ (f.targetIp.octets ++ [])) := by
    rw [parts, ← sender, List.drop_left]
  have third : f.body.drop (n + 4) = f.targetHw ++ (f.targetIp.octets ++ []) := by
    rw [← List.drop_drop, second]
    rfl
  have last : f.body.drop (2 * n + 4) = f.targetIp.octets ++ [] := by
    rw [show 2 * n + 4 = n + 4 + n by omega, ← List.drop_drop, third, ← target, List.drop_left]
  have first : f.body.take n = f.senderHw := by rw [parts, ← sender, List.take_left]
  have middle : (f.body.drop (n + 4)).take n = f.targetHw := by
    rw [third, ← target, List.take_left]
  simp only [Header.frame]
  rw [first, second, middle, last, Ipv4.ofOctets_octets, Ipv4.ofOctets_octets]

theorem parse_encoded {link : LinkInfo} {me : Octets} (suits : f.Suits link.hardwareType me.length)
    (addressed : link.packetClass.isAddressed = true) (q : Query) :
    parse (f.header ++ f.body) link me q =
      match q.mismatch? me f with
      | some reject => .error reject
      | none => .ok f := by
  have long : ¬ (f.header ++ f.body).length < frameLength me.length := by
    rw [List.length_append, length_header, length_body, suits.sender, suits.target, frameLength]
    omega
  have fine : Header.fault? ⟨f.hardwareType, f.protocolType, UInt8.ofNat f.senderHw.length, 4,
      f.operation⟩ link.hardwareType me.length = none := by
    have known : ¬ (f.operation ≠ Operation.request ∧ f.operation ≠ Operation.reply) := by
      rintro ⟨request, reply⟩
      exact suits.operation.elim request reply
    have length : (UInt8.ofNat f.senderHw.length).toNat = me.length := by
      rw [suits.sender, UInt8.toNat_ofNat_of_lt' (Nat.lt_succ_of_le suits.short)]
    rw [Header.fault?, if_neg known, if_neg (not_not_intro suits.hardwareType),
      if_neg (not_not_intro suits.protocolType), if_neg (not_not_intro rfl),
      if_neg (not_not_intro length)]
  rw [parse, if_neg (not_not_intro addressed), take_header]
  cases compared : q.mismatch? me f <;>
    simp only [fine, if_neg long, frame_body suits.sender suits.target, compared]

theorem probe_suits {hardwareType : UInt16} {me he : Octets} (same : me.length = he.length)
    (short : he.length ≤ 255) (advert : Bool) (src dst : Ipv4) :
    (probe hardwareType me he advert src dst).Suits hardwareType me.length where
  operation := by cases advert <;> simp [probe]
  hardwareType := HardwareType.fits_onWire hardwareType
  protocolType := rfl
  sender := rfl
  target := by cases advert <;> simp [probe, same]
  short := same ▸ short

/-- A probe is an answer to the query that mirrors it, and for whoever tests the address that it
comes from it is a conflict, unless it is their own. -/
theorem probe_mirrored {hardwareType : UInt16} {me he : Octets} (same : me.length = he.length)
    (short : he.length ≤ 255) (advert : Bool) (src dst : Ipv4) :
    let f := probe hardwareType me he advert src dst
    ∃ packet, f.encode? = some packet ∧
      ∀ c : PacketClass, c = .host ∨ c = .broadcast ∨ c = .multicast →
        let link : LinkInfo := ⟨c, hardwareType⟩
        parse packet link (if advert then me else he) ⟨src, dst, false⟩ = .ok f ∧
        ∀ source : Ipv4, source = ⟨0, 0, 0, 0⟩ ∨ source = dst →
          (∀ x : Octets, x ≠ me → x.length = me.length →
            parse packet link x ⟨src, source, true⟩ = .ok f) ∧
          parse packet link me ⟨src, source, true⟩ = .error .ownHardware := by
  intro f
  have suits : f.Suits hardwareType me.length := probe_suits same short advert src dst
  refine ⟨f.header ++ f.body, encode_of_target (suits.target.trans suits.sender.symm), ?_⟩
  intro c addressed link
  have read {x : Octets} (length : x.length = me.length) :=
    @parse_encoded f link x (length ▸ suits) (c.isAddressed_iff.mpr addressed)
  constructor
  · have length : (if advert then me else he).length = me.length := by
      cases advert
      · exact same.symm
      · rfl
    have answer : Query.mismatch? ⟨src, dst, false⟩ (if advert then me else he) f = none :=
      (Query.mismatch_eq_none_of_question rfl).mpr ⟨rfl, rfl, rfl⟩
    rw [read length, answer]
  · intro source known
    constructor
    · intro x other length
      have conflict : Query.mismatch? ⟨src, source, true⟩ x f = none :=
        (Query.mismatch_eq_none_of_test rfl).mpr ⟨rfl, other.symm, known.imp_right Eq.symm⟩
      rw [read length, conflict]
    · have own : Query.mismatch? ⟨src, source, true⟩ me f = some .ownHardware :=
        Query.mismatch_of_own (f := f) rfl rfl
      rw [read rfl, own]

theorem probe_mirrored_fddi :
    let me : Octets := [2, 0, 0, 0, 0, 1]
    let he : Octets := [2, 0, 0, 0, 0, 9]
    let f := probe 774 me he false ⟨10, 0, 0, 1⟩ ⟨10, 0, 0, 9⟩
    let link : LinkInfo := ⟨.multicast, 774⟩
    me.length = he.length ∧ he.length ≤ 255 ∧ f.hardwareType = 1 ∧
      ∃ packet, f.encode? = some packet ∧
        parse packet link he ⟨⟨10, 0, 0, 1⟩, ⟨10, 0, 0, 9⟩, false⟩ = .ok f ∧
        parse packet link he ⟨⟨10, 0, 0, 1⟩, .unspecified, true⟩ = .ok f ∧
        parse packet link me ⟨⟨10, 0, 0, 1⟩, ⟨10, 0, 0, 9⟩, true⟩ = .error .ownHardware := by
  intro me he f link
  obtain ⟨packet, encoded, read⟩ :=
    @probe_mirrored 774 me he rfl (by decide) false ⟨10, 0, 0, 1⟩ ⟨10, 0, 0, 9⟩
  obtain ⟨answer, tests⟩ := read .multicast (.inr (.inr rfl))
  refine ⟨rfl, by decide, by decide, packet, encoded, answer, ?_, ?_⟩
  · exact (tests .unspecified (.inl rfl)).1 he (by decide) rfl
  · exact (tests ⟨10, 0, 0, 9⟩ (.inr rfl)).2

end Frame

end ArpProbe
