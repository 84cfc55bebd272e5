import ArpProbe.Proofs.EventLoop.Status
import ArpProbe.Proofs.Probe.Failures

/-! When a probe for duplicates ends with the status that says that the address is free: when the
link resolves no addresses, or when probes were sent, all was well and nobody answered. -/

namespace ArpProbe

def Error.TellsNoArp (e : Error) : Prop :=
  (∃ name dad, e = .notArpable name dad) ∨ ∃ name dad, e = .noLinkAddress name dad

theorem Error.exitCode_eq_zero {e : Error} (h : e.Keeps true) : e.exitCode = 0 ↔ e.TellsNoArp := by
  unfold TellsNoArp exitCode
  cases e <;> simp_all [Keeps]

namespace EventLoop

def statusOf : Except Error (Prober × Option Int32) → Option Int32
  | .ok (_, status) => status
  | .error e => some e.exitCode

/-- With channel and timer at hand, the loop ends well: something was sent, nobody answered, the
network stayed up, and what there is to report could be written. -/
structure FindsFree (v : Verbosity) (p : Prober) (k : Kernel) : Prop where
  going : ((probe v p).run k).1.stuck = false
  reported : p.session.modes.quiet = true ∨
    ((Sys.writeReports ((probe v p).run k).1.session.summaryParts).run.run
      ((probe v p).run k).2).1 = .ok ()
  sent : 0 < (k.since ((probe v p).run k).2).probes
  unanswered : (k.since ((probe v p).run k).2).answers p.session.endpoint.me p.query = 0
  up : (k.since ((probe v p).run k).2).networkDown = false

theorem statusOf_conclude (p : Prober) (k : Kernel) :
    statusOf (((conclude p).run.run k).1.map (p, ·)) = some 0 ↔
      p.stuck = false ∧ p.Reports k ∧ p.status = 0 := by
  rw [conclude_run]
  cases p.stuck with
  | true => simp [statusOf, Except.map]
  | false =>
    simp only [Bool.false_eq_true, if_false, true_and]
    rcases p.finish_cases k with ⟨reports, value⟩ | ⟨silent, cause, value⟩
    · rw [value]
      change some p.status = some 0 ↔ _
      simp [reports]
    · rw [value]
      change some (Error.eventLoop "write" cause).exitCode = some 0 ↔ _
      simp [silent, Error.exitCode]

theorem statusOf_run (v : Verbosity) (p : Prober) (interval : Duration) (k : Kernel) :
    statusOf ((run v p interval).run.run k).1 = some 0 ↔
      ∃ k₁, (arm v interval).run.run k = (.ok (), k₁) ∧
        let ended := (probe v p).run k₁
        ended.1.stuck = false ∧ ended.1.Reports ended.2 ∧ ended.1.status = 0 := by
  have raised := arm_raises v interval k
  rw [run_run]
  rcases h : (arm v interval).run.run k with ⟨e | ⟨⟩, k₁⟩ <;> rw [h] at raised
  · obtain ⟨call, cause, rfl⟩ := raised e rfl
    refine iff_of_false (by simp [statusOf, Error.exitCode]) ?_
    rintro ⟨_, ⟨⟩, _⟩
  · simp only [statusOf_conclude]
    constructor
    · intro ends
      exact ⟨k₁, rfl, ends⟩
    · rintro ⟨_, ⟨⟩, ends⟩
      exact ends

theorem findsFree_iff {v : Verbosity} {p : Prober} {k : Kernel}
    (fresh : Account p.session.modes p.session.endpoint.me p.query [] p)
    (dad : p.session.modes.dad = true)
    (sends : (k.since ((probe v p).run k).2).probes < UInt32.size)
    (receptions : (k.since ((probe v p).run k).2).receptions < UInt32.size) :
    FindsFree v p k ↔
      let ended := (probe v p).run k
      ended.1.stuck = false ∧ ended.1.Reports ended.2 ∧ ended.1.status = 0 := by
  have account := (Accounted.probe v p k).account fresh
  have few := Nat.lt_of_le_of_lt
    (History.answers_le_receptions p.session.endpoint.me p.query _) receptions
  constructor
  · intro free
    have a := account free.going
    refine ⟨free.going, ?_, (a.status_eq_zero dad sends few).mpr
      ⟨free.sent, free.unanswered, free.up⟩⟩
    rw [Prober.Reports, a.sameModes]
    exact free.reported
  · rintro ⟨going, reports, status⟩
    have a := account going
    rw [Prober.Reports, a.sameModes] at reports
    obtain ⟨sent, unanswered, up⟩ := (a.status_eq_zero dad sends few).mp status
    exact ⟨going, reports, sent, unanswered, up⟩

end EventLoop

namespace Probe

variable (c : Config) (k : Kernel)

theorem run_run :
    (run c).run.run k =
      match (setUp c).run.run k with
      | (.error e, k) => (.error e, k)
      | (.ok p, k) => (EventLoop.run c.verbosity p (.ofSeconds c.interval)).run.run k := by
  unfold run
  rw [Sys.run_except_bind]
  rcases (setUp c).run.run k with ⟨_ | _, k₁⟩ <;> rfl

def status : Option Int32 := EventLoop.statusOf ((run c).run.run k).1

def history : History :=
  match (setUp c).run.run k with
  | (.ok _, k₁) => k₁.since ((run c).run.run k).2
  | (.error _, _) => []

theorem loop_le_history {p : Prober} {k₁ k₂ : Kernel} (ready : (setUp c).run.run k = (.ok p, k₁))
    (armed : (EventLoop.arm c.verbosity (.ofSeconds c.interval)).run.run k₁ = (.ok (), k₂)) :
    let h := k₂.since ((EventLoop.probe c.verbosity p).run k₂).2
    h.probes ≤ (history c k).probes ∧ h.receptions ≤ (history c k).receptions := by
  have off := EventLoop.within_arm c.verbosity (.ofSeconds c.interval) k₁
  rw [armed] at off
  obtain ⟨g, eg, _⟩ := off.events
  obtain ⟨h, eh, _⟩ := Accounted.probe c.verbosity p k₂
  have ended := EventLoop.within_conclude ((EventLoop.probe c.verbosity p).run k₂).1
    ((EventLoop.probe c.verbosity p).run k₂).2
  have whole : history c k = g ++ h := by
    rw [history, ready]
    refine Kernel.since_of_append ?_
    rw [run_run, ready]
    simp only [EventLoop.run_run, armed]
    rw [ended.events, eh, eg, List.append_assoc]
  rw [Kernel.since_of_append eh, whole, History.probes_append, History.receptions_append]
  exact ⟨Nat.le_add_left .., Nat.le_add_left ..⟩

/-- A probe for duplicates says that the address is free just when the link does not resolve
addresses, or the loop found nobody. -/
theorem dad_status (dad : c.modes.dad = true) (sends : (history c k).probes < UInt32.size)
    (receptions : (history c k).receptions < UInt32.size) :
    status c k = some 0 ↔
      (∃ e k₁, (setUp c).run.run k = (.error e, k₁) ∧ e.TellsNoArp) ∨
      ∃ p k₁ k₂, (setUp c).run.run k = (.ok p, k₁) ∧
        (EventLoop.arm c.verbosity (.ofSeconds c.interval)).run.run k₁ = (.ok (), k₂) ∧
        EventLoop.FindsFree c.verbosity p k₂ := by
  have may := setUp_returns c k
  rw [status, run_run]
  rcases ready : (setUp c).run.run k with ⟨e | p, k₁⟩ <;> rw [ready] at may
  · have code := Error.exitCode_eq_zero (show e.Keeps true from dad ▸ may)
    constructor
    · intro h
      exact .inl ⟨e, k₁, rfl, code.mp (by simpa [EventLoop.statusOf] using h)⟩
    · rintro (⟨_, _, ⟨⟩, tells⟩ | ⟨_, _, _, ⟨⟩, _⟩)
      simpa [EventLoop.statusOf] using code.mpr tells
  · obtain ⟨endpoint, q, index, rfl⟩ := may
    simp only [EventLoop.statusOf_run]
    have fresh := Account.fresh c.modes c.count c.timeout endpoint q index
    -- The bounds on the whole history are bounds on what the loop alone sent and received.
    constructor
    · rintro ⟨k₂, armed, ends⟩
      obtain ⟨fewer, less⟩ := loop_le_history c k ready armed
      have free := (EventLoop.findsFree_iff fresh dad (Nat.lt_of_le_of_lt fewer sends)
        (Nat.lt_of_le_of_lt less receptions)).mpr ends
      exact .inr ⟨_, k₁, k₂, rfl, armed, free⟩
    · rintro (⟨_, _, ⟨⟩, _⟩ | ⟨_, _, k₂, ⟨⟩, armed, free⟩)
      obtain ⟨fewer, less⟩ := loop_le_history c k ready armed
      exact ⟨k₂, armed, (EventLoop.findsFree_iff fresh dad (Nat.lt_of_le_of_lt fewer sends)
        (Nat.lt_of_le_of_lt less receptions)).mp free⟩

theorem dad_status_free :
    let c : Config :=
      { target := "10.0.0.9", interface := some "eth0", modes := { dad := true, quiet := true }
        count := 1, discovery := [.ioctl] }
    let eth0 : InterfaceEntry :=
      { InterfaceEntry.blank with name := some [101, 116, 104, 48], index := 2, flags := 0x43 }
    let k : Kernel :=
      { interfaces := [eth0], wakes := [⟨⟨1000000⟩, .ready none (some (.value 1)) none⟩] }
    c.modes.dad = true ∧ (history c k).probes < UInt32.size ∧
      (history c k).receptions < UInt32.size ∧ status c k = some 0 ∧
      ∃ p k₁ k₂, (setUp c).run.run k = (.ok p, k₁) ∧
        (EventLoop.arm c.verbosity (.ofSeconds c.interval)).run.run k₁ = (.ok (), k₂) ∧
        EventLoop.FindsFree c.verbosity p k₂ := by
  intro c eth0 k
  have ready : ((setUp c).run.run k).1.isOk = true := by decide +kernel
  have sends : (history c k).probes < UInt32.size := by decide +kernel
  have receptions : (history c k).receptions < UInt32.size := by decide +kernel
  have free : status c k = some 0 := by decide +kernel
  refine ⟨rfl, sends, receptions, free, ?_⟩
  rcases (dad_status c k rfl sends receptions).mp free with ⟨e, k₁, failed, _⟩ | found
  · rw [failed] at ready
    cases ready
  · exact found

end Probe

end ArpProbe
