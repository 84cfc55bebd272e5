import ArpProbe.Proofs.Kernel.Aside
import ArpProbe.Proofs.Prober.History

/-! What the prober does at each event, with the kernel that it leaves. The notes on an event are
told last, so they only change text. -/

namespace ArpProbe

def Kernel.told (k : Kernel) (v : Verbosity) (notes : List Note) : Kernel :=
  ((notes.forM (Sys.tell v)).run k).2

theorem Kernel.sameButText_told (k : Kernel) (v : Verbosity) (notes : List Note) :
    k.SameButText (k.told v notes) := Sys.within_tellAll v notes k

def Arrival.record : Arrival → History
  | failed e => [.call .receive (some e)]
  | frame octets link => [.call .receive none, .taken (octets.take Sys.receiveCapacity) link]

namespace Prober

variable (v : Verbosity) (p : Prober) (k : Kernel)

theorem send_run :
    (p.send v).run k =
      match p.frame.encode? with
      | none => ((p.halt, .final), k)
      | some octets =>
        match k.takeFault .clock with
        | (some _, k) => ((p.halt, .final), k)
        | (none, k) =>
          let (result, k') := (Sys.send p.index p.session.endpoint.he octets).run.run k
          let (p, notes) := p.afterSend k.monotonic octets.length result
          ((p, .goOn), k'.told v notes) := by
  unfold send
  cases p.frame.encode? with
  | none => rfl
  | some octets =>
    simp only [Sys.run_bind, Sys.run_clock]
    rcases k.takeFault .clock with ⟨_ | _, k'⟩ <;> rfl

def attempt (p : Prober) (octets : Octets) : Except Errno Nat → History
  | .ok n => [.call (.send p.index p.session.endpoint.he octets) none, .written octets n]
  | .error e => [.call (.send p.index p.session.endpoint.he octets) (some e)]

theorem send_cases :
    ∃ faults, (p.send v).run k = ((p.halt, .final), { k with faults }) ∨
      ∃ octets, p.frame.encode? = some octets ∧
        let result := (k.sends.headD .complete).written octets
        let after := p.afterSend k.monotonic octets.length (result.mapError .system)
        let events := k.events ++ p.attempt octets result
        (p.send v).run k =
          ((after.1, .goOn), { k with faults, events, sends := k.sends.tail }.told v after.2) := by
  rw [send_run]
  cases p.frame.encode? with
  | none => exact ⟨k.faults, .inl rfl⟩
  | some octets =>
    obtain ⟨faults, left⟩ := Sys.takeFault_leaves k .clock
    refine ⟨faults, ?_⟩
    rcases h : k.takeFault .clock with ⟨_ | e, k₁⟩ <;> rw [h] at left <;> cases left
    · refine .inr ⟨octets, rfl, ?_⟩
      simp only [Sys.run_send]
      cases (k.sends.headD .complete).written octets with
      | ok n => simp only [Kernel.record, List.append_assoc]; rfl
      | error e => rfl
    · exact .inl rfl

theorem wakes_send : ((p.send v).run k).2.wakes = k.wakes := by
  obtain ⟨faults, stuck | ⟨octets, _, sends⟩⟩ := send_cases v p k
  · rw [stuck]
  · rw [sends, (Kernel.sameButText_told _ _ _).wakes]

theorem receive_run (arrival : Arrival) :
    (p.receive v arrival).run k =
      match arrival with
      | .failed e =>
        let (p, notes) := p.afterFailure (.system e)
        ((p, .goOn), (k.record (.call .receive (some e))).told v notes)
      | .frame octets link =>
        let packet := octets.take Sys.receiveCapacity
        match ((k.record (.call .receive none)).record (.taken packet link)).takeFault .clock with
        | (some _, k) => ((p.halt, .final), k)
        | (none, k) =>
          let (p, verdict, notes) := p.afterReceive k.monotonic packet link
          ((p, verdict), k.told v notes) := by
  cases arrival with
  | failed e => rfl
  | frame octets link =>
    unfold receive
    simp only [Sys.run_bind, Sys.run_receive_frame, Sys.run_clock]
    rcases Kernel.takeFault _ .clock with ⟨_ | _, k'⟩ <;> rfl

theorem receive_frame_run (octets : Octets) (link : LinkInfo) :
    let after := p.afterReceive k.monotonic (octets.take Sys.receiveCapacity) link
    let events := k.events ++ (Arrival.frame octets link).record
    ∃ faults, (p.receive v (.frame octets link)).run k =
      if (k.takeFault .clock).1 = none then
        ((after.1, after.2.1), { k with faults, events }.told v after.2.2)
      else ((p.halt, .final), { k with faults, events }) := by
  intro after events
  let taken := (k.record (.call .receive none)).record
    (.taken (octets.take Sys.receiveCapacity) link)
  have same : taken = { k with events } := congrArg (fun x => { k with events := x })
    (List.append_assoc ..)
  have met : (k.takeFault .clock).1 = (taken.takeFault .clock).1 := Kernel.takeFault_congr rfl
  obtain ⟨faults, left⟩ := Sys.takeFault_leaves taken .clock
  refine ⟨faults, ?_⟩
  rw [receive_run, met]
  simp only
  rcases h : taken.takeFault .clock with ⟨_ | e, k₁⟩ <;> rw [h, same] at left <;> cases left
  · rfl
  · rfl

theorem receive_frame_cases (octets : Octets) (link : LinkInfo) :
    let after := p.afterReceive k.monotonic (octets.take Sys.receiveCapacity) link
    let events := k.events ++ (Arrival.frame octets link).record
    ∃ faults,
      (p.receive v (.frame octets link)).run k = ((p.halt, .final), { k with faults, events }) ∨
        (p.receive v (.frame octets link)).run k =
          ((after.1, after.2.1), { k with faults, events }.told v after.2.2) := by
  intro after events
  obtain ⟨faults, received⟩ := receive_frame_run v p k octets link
  rw [received]
  split
  · exact ⟨faults, .inr rfl⟩
  · exact ⟨faults, .inl rfl⟩

theorem receive_keeps {α : Type} {f : Session → α} (each : ∀ now packet link,
    f (p.afterReceive now packet link).1.session = f p.session) (arrival : Arrival) :
    f ((p.receive v arrival).run k).1.1.session = f p.session := by
  cases arrival with
  | failed e => rfl
  | frame octets link =>
    obtain ⟨faults, stuck | received⟩ := receive_frame_cases v p k octets link
    · rw [stuck]
      rfl
    · rw [received]
      exact each k.monotonic _ link

theorem afterSend_keeps {α : Type} {f : Session → α} {now : Instant}
    (each : f (p.session.recordSend now) = f p.session) (length : Nat)
    (result : Except IoError Nat) : f (p.afterSend now length result).1.session = f p.session := by
  rcases result with cause | n
  · rfl
  · rw [afterSend]
    split
    · exact each
    · rfl

theorem send_keeps {α : Type} {f : Session → α}
    (each : ∀ now, f (p.session.recordSend now) = f p.session) :
    f ((p.send v).run k).1.1.session = f p.session := by
  obtain ⟨faults, stuck | ⟨octets, _, sends⟩⟩ := send_cases v p k
  · rw [stuck]
    rfl
  · rw [sends]
    exact p.afterSend_keeps (each k.monotonic) octets.length _

theorem timer_run (expirations : UInt64) :
    (p.timer v expirations).run k =
      match p.session.expire expirations with
      | (session, .final) => (({ p with session }, .final), k)
      | (session, .goOn) => ({ p with session }.send v).run k := by
  unfold timer
  rcases p.session.expire expirations with ⟨s, _ | _⟩ <;> rfl

theorem timer_cases (expirations : UInt64) :
    let verdict := (p.session.expire expirations).2
    let expired := { p with session := (p.session.expire expirations).1 }
    (verdict = .goOn ∧ (p.timer v expirations).run k = (expired.send v).run k) ∨
      (verdict = .final ∧ (p.timer v expirations).run k = ((expired, .final), k)) := by
  rw [timer_run]
  rcases p.session.expire expirations with ⟨session, _ | _⟩
  · exact .inl ⟨rfl, rfl⟩
  · exact .inr ⟨rfl, rfl⟩

@[simp]
theorem stuck_afterSend (now : Instant) (length : Nat) (result : Except IoError Nat) :
    (p.afterSend now length result).1.stuck = p.stuck := by
  rcases result with _ | n
  · rfl
  · rw [afterSend]
    split <;> rfl

@[simp]
theorem stuck_afterReceive (now : Instant) (packet : Octets) (link : LinkInfo) :
    (p.afterReceive now packet link).1.stuck = p.stuck := by
  unfold afterReceive
  split <;> rfl

def status : Int32 := p.session.exitStatus p.session.baseStatus p.netDown

theorem finish_run :
    p.finish.run.run k =
      if p.session.modes.quiet then (.ok p.status, k)
      else
        let (result, k') := (Sys.writeReports p.session.summaryParts).run.run k
        (result.map fun _ => p.status, k') := by
  unfold finish
  cases p.session.modes.quiet with
  | true => rfl
  | false =>
    simp only [Bool.false_eq_true, not_false_eq_true, if_true, if_false, Sys.run_except_bind]
    rcases (Sys.writeReports p.session.summaryParts).run.run k with ⟨_ | _, k'⟩ <;> rfl

theorem finish_ok {p : Prober} {k k' : Kernel} {status : Int32}
    (h : p.finish.run.run k = (.ok status, k')) : status = p.status := by
  rw [finish_run] at h
  split at h
  · cases h
    rfl
  · rcases hw : (Sys.writeReports p.session.summaryParts).run.run k with ⟨_ | _, k₁⟩ <;>
      rw [hw] at h <;> cases h
    rfl

def Reports : Prop :=
  p.session.modes.quiet = true ∨
    ((Sys.writeReports p.session.summaryParts).run.run k).1 = .ok ()

theorem finish_cases :
    p.Reports k ∧ (p.finish.run.run k).1 = .ok p.status ∨
      ¬ p.Reports k ∧ ∃ cause, (p.finish.run.run k).1 = .error cause := by
  unfold Reports
  rw [finish_run]
  cases p.session.modes.quiet with
  | true => exact .inl ⟨.inl rfl, rfl⟩
  | false =>
    simp only [Bool.false_eq_true, if_false, false_or]
    rcases (Sys.writeReports p.session.summaryParts).run.run k with ⟨cause | ⟨⟩, k'⟩
    · exact .inr ⟨by simp, cause, rfl⟩
    · exact .inl ⟨rfl, rfl⟩

variable {p k}

theorem finish_of_reports (reports : p.Reports k) : (p.finish.run.run k).1 = .ok p.status := by
  rcases p.finish_cases k with ⟨_, value⟩ | ⟨silent, _⟩
  · exact value
  · exact absurd reports silent

end Prober

end ArpProbe
