import ArpProbe.Proofs.EventLoop.Onward
import ArpProbe.Proofs.Prober.Destination

/-! The frames that a probe sends: each to the station that the history so far points to, and each
with the words that this destination asks for. -/

namespace ArpProbe

theorem Prober.Aims.fresh (modes : Modes) (count timeout : Int) (start : Endpoint) (q : Query)
    (index : Int32) : Aims modes start q [] (.fresh modes count timeout start q index) where
  sameModes := rfl
  sameQuery := rfl
  endpoint := by
    rw [History.destination]
    split <;> rfl
  unicasting := by cases h : modes.broadcastOnly <;> rfl

namespace EventLoop

/-- Whatever a fresh prober goes through, in any order: each frame went to the broadcast address, or
to the sender of the first answer before it unless broadcasts only were asked for, and said so. And
from any time to any later one the prober turned at most once, from the first destination. -/
theorem transmissions_directed (v : Verbosity) (modes : Modes) (count timeout : Int)
    (hardwareType : UInt16) (me broadcast : Octets) (q : Query) (index : Int32)
    (earlier later : List Step) (k : Kernel) :
    let fresh := Prober.fresh modes count timeout ⟨hardwareType, me, broadcast⟩ q index
    let now := (carryOn v fresh earlier).run k
    let next := (carryOn v fresh (earlier ++ later)).run k
    (∀ (before : History) i destination frame failure after,
      k.since now.2 = before ++ .call (.send i destination frame) failure :: after →
        destination = (if modes.broadcastOnly then broadcast
          else (before.responder? me q).getD broadcast) ∧
        Frame.encode?
          { hardwareType := HardwareType.onWire hardwareType
            protocolType := 0x0800
            operation := if modes.advert then Operation.reply else Operation.request
            senderHw := me
            senderIp := q.source
            targetHw := if modes.advert then me else destination
            targetIp := q.target } = some frame) ∧
      now.1.TurnsOnce next.1 := by
  intro fresh now next
  constructor
  · obtain ⟨g, recorded, moves⟩ := carryOn_leads v fresh earlier k
    have start := Prober.Aims.fresh modes count timeout ⟨hardwareType, me, broadcast⟩ q index
    have nothing : History.IsDirected modes ⟨hardwareType, me, broadcast⟩ q [] := by
      intro before e after split
      simp at split
    obtain ⟨directed, _⟩ := moves.isDirected start nothing rfl
    -- Whatever was sent stands in the record of the moves, and these kept it directed throughout.
    rw [Kernel.since_of_append recorded]
    intro before i destination frame failure after split
    exact directed before _ after split
  · obtain ⟨_, _, moves⟩ := carryOn_leads v now.1 later now.2
    have on : next = (carryOn v now.1 later).run now.2 := carryOn_append v fresh earlier later k
    rw [on]
    exact moves.turnsOnce

theorem transmissions_directed_turned :
    let me : Octets := [2, 0, 0, 0, 0, 1]
    let peer : Octets := [2, 0, 0, 0, 0, 9]
    let broadcast : Octets := List.replicate 6 255
    let q : Query := ⟨⟨10, 0, 0, 9⟩, ⟨10, 0, 0, 1⟩, false⟩
    let answer : Octets := [0, 1, 8, 0, 6, 4, 0, 2] ++ peer ++ [10, 0, 0, 9] ++ me ++ [10, 0, 0, 1]
    let probe : Octets := [0, 1, 8, 0, 6, 4, 0, 1] ++ me ++ [10, 0, 0, 1] ++ peer ++ [10, 0, 0, 9]
    let fresh := Prober.fresh { quiet := true } 3 0 ⟨1, me, broadcast⟩ q 2
    let steps : List Step :=
      [.handle .send, .handle (.receive (.frame answer ⟨.host, 1⟩)), .handle (.timer 1)]
    let h := Kernel.since {} ((carryOn {} fresh steps).run {}).2
    ∃ before after, h = before ++ .call (.send 2 peer probe) none :: after ∧
      peer = (History.responder? me q before).getD broadcast ∧
      Frame.encode? ⟨1, 0x0800, 1, me, q.source, peer, q.target⟩ = some probe := by
  intro me peer broadcast q answer probe fresh steps h
  have split : h = h.take 4 ++ .call (.send 2 peer probe) none :: h.drop 5 := by decide +kernel
  obtain ⟨sent, _⟩ := transmissions_directed {} { quiet := true } 3 0 1 me broadcast q 2 steps [] {}
  obtain ⟨directed, encoded⟩ := sent (h.take 4) 2 peer probe none (h.drop 5) split
  exact ⟨h.take 4, h.drop 5, split, directed, encoded⟩

end EventLoop

end ArpProbe
