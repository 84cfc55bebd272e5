import ArpProbe.Proofs.Frame.FirstFailure
import ArpProbe.Proofs.Frame.Layout

/-! The packets that answer a query, as conditions on their octets. Reading a packet accepts those
that meet all conditions, and gives the reason of the first condition that fails for the rest. -/

namespace ArpProbe

theorem Ipv4.isUnspecified_iff (x : Ipv4) : x.isUnspecified = true ↔ x = ⟨0, 0, 0, 0⟩ :=
  decide_eq_true_iff

theorem PacketClass.isAddressed_iff (c : PacketClass) :
    c.isAddressed = true ↔ c = .host ∨ c = .broadcast ∨ c = .multicast := by
  cases c <;> simp [isAddressed]

theorem HardwareType.fits_iff (link frame : UInt16) :
    fits link frame = true ↔ frame.toNat = link.toNat ∨ link.toNat = 774 ∧ frame.toNat = 1 := by
  simp only [fits, fddi, ethernet, Bool.or_eq_true, Bool.and_eq_true, decide_eq_true_eq,
    ← UInt16.toNat_inj]
  rfl

namespace Wire

def headerConditions (packet : Octets) (linkType : UInt16) (n : Nat) : List Condition :=
  [(wordAt packet 6 = 1 ∨ wordAt packet 6 = 2, .operation),
    (wordAt packet 0 = linkType.toNat ∨ linkType.toNat = 774 ∧ wordAt packet 0 = 1, .hardwareType),
    (wordAt packet 2 = 0x0800, .protocolType),
    ((octetAt packet 5).toNat = 4, .protocolLength),
    ((octetAt packet 4).toNat = n, .hardwareLength)]

def answerConditions (packet : Octets) (me : Octets) (q : Query) : List Condition :=
  let n := me.length
  if q.dad then
    [(senderIp packet n = q.target, .senderAddress),
      (senderHw packet n ≠ me, .ownHardware),
      (q.source = ⟨0, 0, 0, 0⟩ ∨ targetIp packet n = q.source, .targetAddress)]
  else
    [(senderIp packet n = q.target, .senderAddress),
      (targetIp packet n = q.source, .targetAddress),
      (targetHw packet n = me, .targetHardware)]

def conditions (packet : Octets) (link : LinkInfo) (me : Octets) (q : Query) : List Condition :=
  [(link.packetClass = .host ∨ link.packetClass = .broadcast ∨ link.packetClass = .multicast,
      .packetClass),
    (8 ≤ packet.length, .truncated)] ++
  (headerConditions packet link.hardwareType me.length ++
    ((8 + 2 * (4 + me.length) ≤ packet.length, .truncated) :: answerConditions packet me q))

theorem header_finds (packet : Octets) (linkType : UInt16) (n : Nat) :
    Finds (headerConditions packet linkType n) ((header packet).fault? linkType n) := by
  unfold headerConditions Header.fault?
  refine .check ?_ (.check ?_ (.check ?_ (.check ?_ (.check ?_ .nil))))
  · simp only [header, word_eq_iff, Operation.request, Operation.reply, ne_eq, not_or]
    rfl
  · rw [HardwareType.fits_iff, header, toNat_ofNat_wordAt]
  · simp only [header, ne_eq, word_eq_iff]
    rfl
  · simp only [header, ne_eq, ← UInt8.toNat_inj]
    rfl
  · rfl

theorem answer_finds (packet me : Octets) (q : Query) :
    Finds (answerConditions packet me q) (q.mismatch? me (frame packet me.length)) := by
  unfold answerConditions Query.mismatch?
  split
  · refine .check Iff.rfl (.check ?_ (.check ?_ .nil))
    · exact Classical.not_not.symm
    · rw [not_or, Ipv4.isUnspecified_iff]
      rfl
  · exact .check Iff.rfl (.check Iff.rfl (.check Iff.rfl .nil))

variable (packet : Octets) (link : LinkInfo) (me : Octets) (q : Query)

theorem parse_finds :
    match Frame.parse packet link me q with
    | .ok f => f = frame packet me.length ∧ Finds (conditions packet link me q) none
    | .error r => Finds (conditions packet link me q) (some r) := by
  have class_iff := link.packetClass.isAddressed_iff
  unfold conditions Frame.parse
  -- Whatever has held so far stands before the condition that is looked at next.
  by_cases addressed : link.packetClass.isAddressed = true
  · rw [if_neg (not_not_intro addressed)]
    by_cases long : 8 ≤ packet.length
    · have sofar : Finds [(link.packetClass = .host ∨ link.packetClass = .broadcast ∨
          link.packetClass = .multicast, .packetClass), (8 ≤ packet.length, .truncated)] none :=
        .pass (class_iff.mp addressed) (.pass long .nil)
      simp only [Header.take?_of_long long]
      have found := header_finds packet link.hardwareType me.length
      cases hf : (header packet).fault? link.hardwareType me.length with
      | some r =>
        rw [hf] at found
        exact sofar.after (found.before _)
      | none =>
        rw [hf] at found
        by_cases enough : frameLength me.length ≤ packet.length
        · simp only [if_neg (Nat.not_lt.mpr enough), Header.frame_header enough]
          have answer := answer_finds packet me q
          cases ha : q.mismatch? me (frame packet me.length) <;> rw [ha] at answer
          · exact ⟨rfl, sofar.after (found.after (.pass enough answer))⟩
          · exact sofar.after (found.after (.pass enough answer))
        · simp only [if_pos (Nat.not_le.mp enough)]
          exact sofar.after (found.after (.stop enough))
    · simp only [Header.take?_of_short (Nat.not_le.mp long)]
      exact .pass (class_iff.mp addressed) (.stop long)
  · rw [if_pos addressed]
    exact .stop (mt class_iff.mpr addressed)

structure IsAnswer : Prop where
  addressed : link.packetClass = .host ∨ link.packetClass = .broadcast ∨
    link.packetClass = .multicast
  header : 8 ≤ packet.length
  operation : wordAt packet 6 = 1 ∨ wordAt packet 6 = 2
  hardwareType : wordAt packet 0 = link.hardwareType.toNat ∨
    link.hardwareType.toNat = 774 ∧ wordAt packet 0 = 1
  protocolType : wordAt packet 2 = 0x0800
  protocolLength : (octetAt packet 5).toNat = 4
  hardwareLength : (octetAt packet 4).toNat = me.length
  length : 8 + 2 * (4 + me.length) ≤ packet.length
  sender : senderIp packet me.length = q.target
  target : q.dad = false → targetIp packet me.length = q.source ∧ targetHw packet me.length = me
  other : q.dad = true → senderHw packet me.length ≠ me ∧
    (q.source = ⟨0, 0, 0, 0⟩ ∨ targetIp packet me.length = q.source)

theorem answer_iff :
    (∀ c ∈ answerConditions packet me q, c.1) ↔
      senderIp packet me.length = q.target ∧
      (q.dad = false → targetIp packet me.length = q.source ∧ targetHw packet me.length = me) ∧
      (q.dad = true → senderHw packet me.length ≠ me ∧
        (q.source = ⟨0, 0, 0, 0⟩ ∨ targetIp packet me.length = q.source)) := by
  unfold answerConditions
  cases q.dad <;> simp

theorem isAnswer_iff :
    IsAnswer packet link me q ↔ ∀ c ∈ conditions packet link me q, c.1 := by
  unfold conditions headerConditions
  simp only [List.forall_mem_append, List.forall_mem_cons, List.not_mem_nil, false_implies,
    implies_true, and_true, answer_iff]
  constructor
  · intro h
    exact ⟨⟨h.addressed, h.header⟩, ⟨h.operation, h.hardwareType, h.protocolType,
      h.protocolLength, h.hardwareLength⟩, h.length, h.sender, h.target, h.other⟩
  · rintro ⟨⟨addressed, header⟩, ⟨operation, hardwareType, protocolType, protocolLength,
      hardwareLength⟩, length, sender, target, other⟩
    exact ⟨addressed, header, operation, hardwareType, protocolType, protocolLength,
      hardwareLength, length, sender, target, other⟩

theorem parse_exact :
    (∀ f, Frame.parse packet link me q = .ok f ↔
      IsAnswer packet link me q ∧ f = frame packet me.length) ∧
    ∀ r, Frame.parse packet link me q = .error r ↔
      FirstFails (conditions packet link me q) r := by
  have found := parse_finds packet link me q
  rw [isAnswer_iff]
  cases hp : Frame.parse packet link me q with
  | ok f₀ =>
    rw [hp] at found
    obtain ⟨rfl, all⟩ := found
    refine ⟨fun f => ⟨?_, ?_⟩, fun r => ⟨?_, ?_⟩⟩
    · rintro ⟨⟩
      exact ⟨all, rfl⟩
    · rintro ⟨_, rfl⟩
      rfl
    · rintro ⟨⟩
    · intro first
      exact absurd all first.not_all
  | error r₀ =>
    rw [hp] at found
    refine ⟨fun f => ⟨?_, ?_⟩, fun r => ⟨?_, ?_⟩⟩
    · rintro ⟨⟩
    · rintro ⟨all, _⟩
      exact absurd all (FirstFails.not_all found)
    · rintro ⟨⟩
      exact found
    · intro first
      rw [firstFails_unique first found]

end Wire

end ArpProbe
