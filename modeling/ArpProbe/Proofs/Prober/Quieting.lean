import ArpProbe.Proofs.Prober.Moves

/-! Probers that differ in whether they report. On kernels that differ in text alone, however
streams fail and whatever else is told, an event takes both to states that differ in nothing more.
-/

namespace ArpProbe

namespace Kernel

namespace SameButText

theorem symm {k k' : Kernel} (h : SameButText k k') : SameButText k' k := by
  obtain ⟨_, _, _, rfl⟩ := h
  exact ⟨k.output, k.streams, k.laterStreams, rfl⟩

variable {k₁ k₂ : Kernel} (same : SameButText k₁ k₂)
include same

theorem told (v₁ v₂ : Verbosity) (notes₁ notes₂ : List Note) :
    SameButText (k₁.told v₁ notes₁) (k₂.told v₂ notes₂) :=
  chains.trans (k₁.sameButText_told v₁ notes₁).symm
    (chains.trans same (k₂.sameButText_told v₂ notes₂))

theorem monotonic : k₂.monotonic = k₁.monotonic := by
  obtain ⟨_, _, _, rfl⟩ := same
  rfl

theorem takeFault (kind : CallKind) :
    (k₂.takeFault kind).1 = (k₁.takeFault kind).1 ∧
      SameButText (k₁.takeFault kind).2 (k₂.takeFault kind).2 := by
  obtain ⟨output, streams, laterStreams, rfl⟩ := same
  unfold Kernel.takeFault
  simp only
  cases k₁.faults kind with
  | nil => exact ⟨rfl, output, streams, laterStreams, rfl⟩
  | cons e es => exact ⟨rfl, output, streams, laterStreams, rfl⟩

theorem record (e : Event) : SameButText (k₁.record e) (k₂.record e) := by
  obtain ⟨output, streams, laterStreams, rfl⟩ := same
  exact ⟨output, streams, laterStreams, rfl⟩

theorem send (index : Int32) (destination frame : Octets) :
    let sent (k : Kernel) := (Sys.send index destination frame).run.run k
    (sent k₂).1 = (sent k₁).1 ∧ SameButText (sent k₁).2 (sent k₂).2 := by
  obtain ⟨output, streams, laterStreams, rfl⟩ := same
  simp only [Sys.run_send]
  cases (k₁.sends.headD .complete).written frame with
  | ok n => exact ⟨rfl, output, streams, laterStreams, rfl⟩
  | error e => exact ⟨rfl, output, streams, laterStreams, rfl⟩

end SameButText

end Kernel

open Kernel (SameButText)

def Session.quieted (s : Session) (quiet : Bool) : Session :=
  { s with modes := { s.modes with quiet } }

theorem Session.accept_quieted (s : Session) (quiet : Bool) (f : Frame) (pc : PacketClass) :
    (s.quieted quiet).accept f pc = ((s.accept f pc).1.quieted quiet, (s.accept f pc).2) := by
  unfold accept turn quieted
  simp only
  split <;> rfl

namespace Prober

def quieted (p : Prober) (quiet : Bool) : Prober := { p with session := p.session.quieted quiet }

/-- What became of one prober is what became of the other, but for text and whether there is any. -/
structure Parallel {α : Type} (quiet : Bool) (first second : (Prober × α) × Kernel) : Prop where
  prober : second.1.1 = first.1.1.quieted quiet
  verdict : second.1.2 = first.1.2
  kernel : first.2.SameButText second.2

theorem Parallel.status {α : Type} {quiet : Bool} {first second : (Prober × α) × Kernel}
    (parallel : Parallel quiet first second) : second.1.1.status = first.1.1.status := by
  rw [parallel.prober]
  rfl

variable (v₁ v₂ : Verbosity) (p : Prober) (quiet : Bool)

theorem afterSend_quieted (now : Instant) (length : Nat) (result : Except IoError Nat) :
    ((p.quieted quiet).afterSend now length result).1 =
      (p.afterSend now length result).1.quieted quiet := by
  rcases result with _ | n
  · rfl
  · unfold afterSend
    simp only
    split <;> rfl

theorem afterReceive_quieted (now : Instant) (packet : Octets) (link : LinkInfo) :
    let first := p.afterReceive now packet link
    let second := (p.quieted quiet).afterReceive now packet link
    second.1 = first.1.quieted quiet ∧ second.2.1 = first.2.1 := by
  unfold afterReceive
  have reading : Frame.parse packet link (p.quieted quiet).session.endpoint.me
      (p.quieted quiet).query = Frame.parse packet link p.session.endpoint.me p.query := rfl
  rw [reading]
  cases Frame.parse packet link p.session.endpoint.me p.query with
  | error reject => exact ⟨rfl, rfl⟩
  | ok f =>
    have accepted := p.session.accept_quieted quiet f link.packetClass
    simp only [quieted, accepted, and_self]

variable {k₁ k₂ : Kernel} (same : k₁.SameButText k₂)
include same

theorem send_parallel :
    Parallel quiet ((p.send v₁).run k₁) (((p.quieted quiet).send v₂).run k₂) := by
  rw [send_run, send_run]
  have frame : (p.quieted quiet).frame = p.frame := rfl
  rw [frame]
  cases p.frame.encode? with
  | none => exact ⟨rfl, rfl, same⟩
  | some octets =>
    obtain ⟨fault, later⟩ := same.takeFault .clock
    rcases h₁ : k₁.takeFault .clock with ⟨_ | e, k₁'⟩ <;>
      rcases h₂ : k₂.takeFault .clock with ⟨_ | e', k₂'⟩ <;> rw [h₁, h₂] at fault later
    · obtain ⟨result, sent⟩ := later.send p.index p.session.endpoint.he octets
      have clock : k₂'.monotonic = k₁'.monotonic := later.monotonic
      refine ⟨(p.afterSend_quieted quiet k₂'.monotonic octets.length _).trans ?_, rfl,
        sent.told v₁ v₂ _ _⟩
      exact congrArg (·.1.quieted quiet) (congr (congrArg (p.afterSend · _) clock) result)
    · cases fault
    · cases fault
    · exact ⟨rfl, rfl, later⟩

theorem receive_parallel (arrival : Arrival) :
    Parallel quiet ((p.receive v₁ arrival).run k₁)
      (((p.quieted quiet).receive v₂ arrival).run k₂) := by
  rw [receive_run, receive_run]
  cases arrival with
  | failed e => exact ⟨rfl, rfl, (same.record _).told v₁ v₂ _ _⟩
  | frame octets link =>
    let packet := octets.take Sys.receiveCapacity
    let taken (k : Kernel) := (k.record (.call .receive none)).record (.taken packet link)
    have recorded : (taken k₁).SameButText (taken k₂) := (same.record _).record _
    obtain ⟨fault, later⟩ := recorded.takeFault .clock
    simp only
    rcases h₁ : (taken k₁).takeFault .clock with ⟨_ | e, k₁'⟩ <;>
      rcases h₂ : (taken k₂).takeFault .clock with ⟨_ | e', k₂'⟩ <;> rw [h₁, h₂] at fault later
    · have clock : k₂'.monotonic = k₁'.monotonic := later.monotonic
      obtain ⟨prober, verdict⟩ := p.afterReceive_quieted quiet k₁'.monotonic packet link
      simp only
      rw [clock]
      exact ⟨prober, verdict, later.told v₁ v₂ _ _⟩
    · cases fault
    · cases fault
    · exact ⟨rfl, rfl, later⟩

theorem timer_parallel (expirations : UInt64) :
    Parallel quiet ((p.timer v₁ expirations).run k₁)
      (((p.quieted quiet).timer v₂ expirations).run k₂) := by
  rw [timer_run, timer_run]
  have expired : (p.quieted quiet).session.expire expirations =
    ((p.session.expire expirations).1.quieted quiet, (p.session.expire expirations).2) := rfl
  rw [expired]
  rcases p.session.expire expirations with ⟨session, _ | _⟩
  · exact send_parallel v₁ v₂ { p with session } quiet same
  · exact ⟨rfl, rfl, same⟩

theorem handle_parallel (input : Input) :
    Parallel quiet ((p.handle v₁ input).run k₁) (((p.quieted quiet).handle v₂ input).run k₂) := by
  cases input with
  | send => exact send_parallel v₁ v₂ p quiet same
  | timer expirations => exact timer_parallel v₁ v₂ p quiet same expirations
  | signal number => exact ⟨rfl, rfl, same.told v₁ v₂ _ _⟩
  | receive arrival => exact receive_parallel v₁ v₂ p quiet same arrival

end Prober

end ArpProbe
