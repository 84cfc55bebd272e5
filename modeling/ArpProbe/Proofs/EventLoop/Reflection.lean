import ArpProbe.Proofs.EventLoop.Onward
import ArpProbe.Proofs.Frame.Mirror
import ArpProbe.Proofs.Prober.Lengths

/-! Frames that come back to the prober that sent them. Whether such a frame is an answer is
settled when it is sent, by the query, the mode and the destination, and no probe for duplicates
answers itself. -/

namespace ArpProbe

def Event.handed? : Event → Option (Octets × Octets)
  | call (.send _ destination frame) _ => some (destination, frame)
  | _ => none

namespace Prober

variable {p q : Prober}

/-- The frame of the prober would answer its own query: it announces an address, and it does so in a
reply or went to the prober's own hardware address. -/
def AnswersItself (p : Prober) : Prop :=
  p.query.dad = false ∧ p.query.source = p.query.target ∧
    (p.session.modes.advert = true ∨ p.session.endpoint.he = p.session.endpoint.me)

theorem targetHw_frame : p.frame.targetHw = p.session.endpoint.me ↔
    p.session.modes.advert = true ∨ p.session.endpoint.he = p.session.endpoint.me := by
  unfold frame Frame.probe
  cases p.session.modes.advert <;> simp

theorem mismatch_frame_eq_none :
    p.query.mismatch? p.session.endpoint.me p.frame = none ↔ p.AnswersItself := by
  unfold AnswersItself
  cases probing : p.query.dad with
  | true =>
    have own : p.frame.senderHw = p.session.endpoint.me := rfl
    rw [Query.mismatch_eq_none_of_test probing]
    simp [own]
  | false =>
    have sender : p.frame.senderIp = p.query.source := rfl
    have target : p.frame.targetIp = p.query.target := rfl
    rw [Query.mismatch_eq_none_of_question probing, targetHw_frame, sender, target]
    constructor
    · rintro ⟨same, -, own⟩
      exact ⟨rfl, same, own⟩
    · rintro ⟨-, same, own⟩
      exact ⟨same, same.symm, own⟩

theorem afterReceive_frame (sameMe : q.session.endpoint.me = p.session.endpoint.me)
    (sameQuery : q.query = p.query) (level : p.session.endpoint.IsLevel)
    (short : p.session.endpoint.me.length ≤ 255) (now : Instant) {c : PacketClass}
    (addressed : c.isAddressed = true) :
    let link : LinkInfo := ⟨c, p.session.endpoint.hardwareType⟩
    let after := q.afterReceive now (p.frame.header ++ p.frame.body) link
    let taken := q.session.accept p.frame c
    (p.AnswersItself → (after.1, after.2.1) = ({ q with session := taken.1 }, taken.2)) ∧
      (¬ p.AnswersItself → (after.1, after.2.1) = (q, .goOn)) := by
  intro link after taken
  have suits : p.frame.Suits link.hardwareType p.session.endpoint.me.length :=
    Frame.probe_suits level.symm (level ▸ short) _ _ _
  have read := Frame.parse_encoded suits addressed p.query
  constructor
  · intro answers
    rw [mismatch_frame_eq_none.mpr answers] at read
    unfold after afterReceive
    rw [sameMe, sameQuery, read]
  · intro fails
    rcases found : p.query.mismatch? p.session.endpoint.me p.frame with _ | reject
    · exact absurd (mismatch_frame_eq_none.mp found) fails
    · rw [found] at read
      unfold after afterReceive
      rw [sameMe, sameQuery, read]

theorem send_hands (v : Verbosity) (k : Kernel) {octets : Octets}
    (encoded : p.frame.encode? = some octets) :
    (k.since ((p.send v).run k).2).filterMap Event.handed? =
      if (k.takeFault .clock).1 = none then [(p.session.endpoint.he, octets)] else [] := by
  have fault := k.events_takeFault .clock
  rw [send_run, encoded]
  rcases clock : k.takeFault .clock with ⟨_ | e, k₁⟩ <;> rw [clock] at fault
  · simp only [Sys.run_send]
    cases (k₁.sends.headD .complete).written octets with
    | ok n =>
      rw [Kernel.since_of_append (g := p.attempt octets (.ok n))]
      · rfl
      · rw [events_told, ← fault]
        exact List.append_assoc ..
    | error e =>
      rw [Kernel.since_of_append (g := p.attempt octets (.error e))]
      · rfl
      · rw [events_told, ← fault]
        rfl
  · have nothing : k₁.events = k.events ++ [] := fault.trans (List.append_nil _).symm
    dsimp only
    rw [Kernel.since_of_append nothing]
    rfl

/-- The frame of a prober can come back at any later time. If it answers itself it is taken for an
answer then, and else it is turned away and changes nothing. -/
theorem receive_reflected (p : Prober) (v : Verbosity) (k : Kernel)
    (level : p.session.endpoint.he.length = p.session.endpoint.me.length)
    (short : p.session.endpoint.me.length ≤ 255) :
    ∃ octets, p.frame.encode? = some octets ∧
      (k.since ((p.send v).run k).2).filterMap Event.handed? =
        (if (k.takeFault .clock).1 = none then [(p.session.endpoint.he, octets)] else []) ∧
      ∀ steps k' c, c = .host ∨ c = .broadcast ∨ c = .multicast →
        (k'.takeFault .clock).1 = none →
        let q := ((EventLoop.carryOn v p (.handle .send :: steps)).run k).1
        let link : LinkInfo := ⟨c, p.session.endpoint.hardwareType⟩
        let got := ((q.receive v (.frame octets link)).run k').1
        let taken := q.session.accept p.frame c
        (p.AnswersItself → got = ({ q with session := taken.1 }, taken.2)) ∧
          (¬ p.AnswersItself → got = (q, .goOn)) := by
  have suits : p.frame.Suits p.session.endpoint.hardwareType p.session.endpoint.me.length :=
    Frame.probe_suits level.symm (level ▸ short) _ _ _
  have encoded : p.frame.encode? = some (p.frame.header ++ p.frame.body) :=
    Frame.encode_of_target (suits.target.trans suits.sender.symm)
  refine ⟨_, encoded, send_hands v k encoded, ?_⟩
  intro steps k' c addressed fine q link got taken
  obtain ⟨g, _, moves⟩ := EventLoop.carryOn_leads v p (.handle .send :: steps) k
  have whole : (p.frame.header ++ p.frame.body).take Sys.receiveCapacity =
      p.frame.header ++ p.frame.body := by
    apply List.take_of_length_le
    rw [List.length_append, Frame.length_header, Frame.length_body, suits.sender, suits.target,
      headerLength, Sys.receiveCapacity]
    omega
  obtain ⟨faults, received⟩ := receive_frame_run v q k' (p.frame.header ++ p.frame.body) link
  rw [if_pos fine, whole] at received
  have same : got = _ := congrArg Prod.fst received
  rw [same]
  exact afterReceive_frame moves.sameMe moves.sameQuery level short _
    (c.isAddressed_iff.mpr addressed)

theorem receive_reflected_announcement :
    let me : Octets := [2, 0, 0, 0, 0, 1]
    let address : Ipv4 := ⟨192, 0, 2, 5⟩
    let modes : Modes := { unsolicited := true, advert := true }
    let p : Prober := .fresh modes 0 0 ⟨1, me, List.replicate 6 255⟩ ⟨address, address, false⟩ 2
    let sent := (EventLoop.carryOn {} p [.handle .send]).run {}
    p.session.endpoint.he.length = p.session.endpoint.me.length ∧
      p.session.endpoint.me.length ≤ 255 ∧ ∃ octets, p.frame.encode? = some octets ∧
        let got := ((sent.1.receive {} (.frame octets ⟨.broadcast, 1⟩)).run sent.2).1
        got.1.session.counters.received = 1 ∧ got.1.session.endpoint.he = me := by
  intro me address modes p sent
  obtain ⟨octets, encoded, _, returns⟩ := receive_reflected p {} {} rfl (by decide)
  have answers : p.AnswersItself := ⟨rfl, rfl, .inl rfl⟩
  have fine : (sent.2.takeFault .clock).1 = none := by decide +kernel
  obtain ⟨taken, _⟩ := returns [] sent.2 .broadcast (.inr (.inl rfl)) fine
  refine ⟨rfl, by decide, octets, encoded, ?_⟩
  have got : ((sent.1.receive {} (.frame octets ⟨.broadcast, 1⟩)).run sent.2).1 = _ :=
    taken answers
  dsimp only
  rw [got]
  decide +kernel

end Prober

end ArpProbe
