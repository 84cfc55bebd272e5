import ArpProbe.Proofs.EventLoop.Entries
import ArpProbe.Proofs.Prober.Constants

/-! What leaves a prober as it was: a frame that did not go out whole, a packet that is no answer, a
reception that failed. The time of the last probe is that of the last frame that did go out whole.
-/

namespace ArpProbe

namespace Prober

variable (v : Verbosity) (p : Prober) (k : Kernel)

theorem take_asks (s : Step) :
    ((s.take v p).run k).1.1.session.endpoint.me = p.session.endpoint.me ∧
      ((s.take v p).run k).1.1.query = p.query := by
  obtain ⟨_, _, moves⟩ := p.take_leads v k s
  exact ⟨moves.sameMe, moves.sameQuery⟩

theorem afterSend_of_incomplete (now : Instant) {length : Nat} {result : Except IoError Nat}
    (incomplete : result ≠ .ok length) : (p.afterSend now length result).1 = p := by
  rcases result with cause | n
  · rfl
  · have short : n ≠ length := fun same => incomplete (same ▸ rfl)
    rw [afterSend, if_neg short]

theorem afterFailure_of_up {e : Errno} (up : e ≠ Errno.networkDown) :
    (p.afterFailure (.system e)).1 = p := by
  simp [afterFailure, IoError.errno?, up]

theorem send_incomplete
    (incomplete : ∀ octets, p.frame.encode? = some octets →
      (k.sends.headD .complete).written octets ≠ .ok octets.length) :
    ((p.send v).run k).1.1.session = p.session := by
  obtain ⟨faults, stuck | ⟨octets, encoded, sends⟩⟩ := send_cases v p k
  · rw [stuck]
    rfl
  · have failed := incomplete octets encoded
    rw [sends]
    simp only
    cases written : (k.sends.headD .complete).written octets with
    | ok n =>
      rw [written] at failed
      exact congrArg session (p.afterSend_of_incomplete _ fun same => failed (by cases same; rfl))
    | error e => rfl

theorem timer_incomplete
    (incomplete : ∀ octets, p.frame.encode? = some octets →
      (k.sends.headD .complete).written octets ≠ .ok octets.length) (expirations : UInt64) :
    ((p.timer v expirations).run k).1.1.session = (p.session.expire expirations).1 := by
  rcases timer_cases v p k expirations with ⟨_, sends⟩ | ⟨_, ends⟩
  · rw [sends]
    exact send_incomplete v _ k incomplete
  · rw [ends]

/-- Between two states the session has come to remember the time of the first if a whole frame went
out, and else what it remembered before. -/
def Remembers (p : Prober) (k : Kernel) (p' : Prober) (k' : Kernel) : Prop :=
  p'.session.lastSend =
    if (k.since k').any Event.isProbe then some k.monotonic else p.session.lastSend

theorem take_remembers (s : Step) :
    p.Remembers k ((s.take v p).run k).1.1 ((s.take v p).run k).2 := by
  rw [Remembers, take_enters v p k s, Session.lastSend_replay, Occasion.lastSent?_entries]
  split <;> rfl

structure Overlooks (went : (Prober × Verdict) × Kernel) : Prop where
  same : went.1 = (p, .goOn)
  report : k.reportSince went.2 = ""
  transmissions : (k.since went.2).filterMap Event.transmission? = []

variable {p}

theorem overlooks_told {p' : Prober} (same : p' = p) {k k' : Kernel} {g : History}
    {notes : List Note} (recorded : k'.events = k.events ++ g)
    (unsent : g.filterMap Event.transmission? = []) (written : k'.output = k.output)
    (silent : ∀ n ∈ notes, n.reportText? = none) :
    p.Overlooks k ((p', .goOn), k'.told v notes) where
  same := by rw [same]
  report := by
    have told := k'.writes_told_silent v silent
    exact ((Kernel.Writes.chains _).trans (.still written) told).reportSince_eq_empty
  transmissions := by
    have told := (events_told v k' notes).trans recorded
    rw [Kernel.since_of_append told, unsent]

theorem overlooks_failed {e : Errno} (up : e ≠ Errno.networkDown) :
    p.Overlooks k ((p.receive v (.failed e)).run k) := by
  rw [receive_run]
  refine overlooks_told v (p.afterFailure_of_up up) (g := [.call .receive (some e)]) rfl rfl rfl ?_
  exact List.forall_mem_singleton.mpr rfl

theorem overlooks_rejected {octets : Octets} {link : LinkInfo} {reject : Reject}
    (rejected : Frame.parse (octets.take Sys.receiveCapacity) link p.session.endpoint.me p.query =
      .error reject) (reads : k.circumstances.fault? .clock = none) :
    p.Overlooks k ((p.receive v (.frame octets link)).run k) := by
  rw [k.fault?_circumstances] at reads
  obtain ⟨faults, received⟩ := receive_frame_run v p k octets link
  rw [received, if_pos reads]
  simp only [afterReceive, rejected]
  refine overlooks_told v rfl (g := (Arrival.frame octets link).record) rfl rfl rfl ?_
  exact List.forall_mem_singleton.mpr rfl

end Prober

end ArpProbe
