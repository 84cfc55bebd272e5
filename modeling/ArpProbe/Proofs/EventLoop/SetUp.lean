import ArpProbe.Proofs.Kernel.Writing

/-! What comes before the steps of the loop and what comes after them: signals and a timer are
needed to begin, and a run ends with the summary and a status. -/

namespace ArpProbe.EventLoop

variable (v : Verbosity)

/-- How the set-up comes out: the signals that end a program become events that can be read, then
the timer is started. -/
inductive SetsUp (interval : Duration) (k : Kernel) : Option Error → Kernel → Prop
  | unopened {cause : IoError} {k₁ : Kernel}
    (failed : (SignalChannel.route [2, 3, 15]).run.run k = (.error cause, k₁)) :
    SetsUp interval k (some (.eventLoop "signalfd" cause)) k₁
  | unstarted {cause : IoError} {k₁ k₂ : Kernel}
    (opened : (SignalChannel.route [2, 3, 15]).run.run k = (.ok (), k₁))
    (failed : (Timer.start interval v).run.run k₁ = (.error cause, k₂)) :
    SetsUp interval k (some (.eventLoop "timerfd" cause)) k₂
  | done {k₁ k₂ : Kernel} (opened : (SignalChannel.route [2, 3, 15]).run.run k = (.ok (), k₁))
    (started : (Timer.start interval v).run.run k₁ = (.ok (), k₂)) : SetsUp interval k none k₂

def setUpCalls (interval : Duration) (now : Instant) : List Call :=
  let period := TimeSpec.ofDuration interval
  [.sigprocmask [2, 3, 15], .signalfd [2, 3, 15], .timerCreate,
    .timerSet ((TimeSpec.ofInstant now).add period) period]

/-- How a run ends after its last step. A prober that is stuck has no status. -/
inductive Ends (p : Prober) (k : Kernel) : Except Error (Prober × Option Int32) → Kernel → Prop
  | stuck (halted : p.stuck = true) : Ends p k (.ok (p, none)) k
  | finished {status : Int32} {k' : Kernel} (going : p.stuck = false)
    (written : p.finish.run.run k = (.ok status, k')) : Ends p k (.ok (p, some status)) k'
  | unwritten {cause : IoError} {k' : Kernel} (going : p.stuck = false)
    (failed : p.finish.run.run k = (.error cause, k')) :
    Ends p k (.error (.eventLoop "write" cause)) k'

theorem exists_setsUp (interval : Duration) (k : Kernel) :
    ∃ failure k₁, SetsUp v interval k failure k₁ := by
  rcases opened : (SignalChannel.route [2, 3, 15]).run.run k with ⟨cause | ⟨⟩, k₁⟩
  · exact ⟨_, _, .unopened opened⟩
  · rcases started : (Timer.start interval v).run.run k₁ with ⟨cause | ⟨⟩, k₂⟩
    · exact ⟨_, _, .unstarted opened started⟩
    · exact ⟨_, _, .done opened started⟩

-- On a kernel without faults the set-up succeeds.
example : ∃ k₁, SetsUp {} (.ofSeconds 1) {} none k₁ := ⟨_, .done rfl rfl⟩

theorem SetsUp.arm {interval : Duration} {k k₁ : Kernel} {failure : Option Error}
    (sets : SetsUp v interval k failure k₁) :
    (arm v interval).run.run k = (failure.elim (.ok ()) .error, k₁) := by
  unfold EventLoop.arm SignalChannel.terminating
  rw [Sys.run_except_bind, Sys.run_adapt]
  cases sets with
  | unopened failed =>
    rw [failed]
    rfl
  | unstarted opened failed =>
    rw [opened]
    refine (Sys.run_adapt _ _ _).trans ?_
    rw [failed]
    rfl
  | done opened started =>
    rw [opened]
    refine (Sys.run_adapt _ _ _).trans ?_
    rw [started]
    rfl

theorem conclude_run (p : Prober) (k : Kernel) :
    (conclude p).run.run k =
      if p.stuck then (.ok none, k)
      else
        (((p.finish.run.run k).1.mapError (Error.eventLoop "write")).map some,
          (p.finish.run.run k).2) := by
  unfold conclude
  cases p.stuck with
  | true => rfl
  | false =>
    simp only [Bool.false_eq_true, if_false, Sys.run_except_bind, Sys.run_adapt]
    rcases p.finish.run.run k with ⟨_ | _, k'⟩ <;> rfl

theorem conclude_ends (p : Prober) (k : Kernel) :
    Ends p k (((conclude p).run.run k).1.map (p, ·)) ((conclude p).run.run k).2 := by
  rw [conclude_run]
  cases halted : p.stuck with
  | true => exact .stuck halted
  | false =>
    rcases written : p.finish.run.run k with ⟨cause | status, k'⟩
    · exact .unwritten halted written
    · exact .finished halted written

theorem route_records {k k' : Kernel}
    (opened : (SignalChannel.route [2, 3, 15]).run.run k = (.ok (), k')) :
    k'.monotonic = k.monotonic ∧ k'.events =
      k.events ++ [.call (.sigprocmask [2, 3, 15]) none, .call (.signalfd [2, 3, 15]) none] := by
  obtain ⟨⟨⟩, k₁, blocked, opened⟩ := Sys.ok_of_bind opened
  obtain ⟨_, rfl⟩ := Sys.ok_of_query blocked
  obtain ⟨_, rfl⟩ := Sys.ok_of_query opened
  exact ⟨rfl, List.append_assoc _ _ _⟩

theorem start_records {interval : Duration} {k k' : Kernel}
    (started : (Timer.start interval v).run.run k = (.ok (), k')) :
    let period := TimeSpec.ofDuration interval
    k'.events = k.events ++ [.call .timerCreate none,
      .call (.timerSet ((TimeSpec.ofInstant k.monotonic).add period) period) none] := by
  obtain ⟨⟨⟩, k₁, created, started⟩ := Sys.ok_of_bind started
  obtain ⟨now, k₂, read, started⟩ := Sys.ok_of_bind started
  obtain ⟨⟨⟩, k₃, set, told⟩ := Sys.ok_of_bind started
  obtain ⟨_, rfl⟩ := Sys.ok_of_query created
  obtain ⟨rfl, _, rfl⟩ := Sys.ok_of_clock read
  obtain ⟨_, rfl⟩ := Sys.ok_of_query set
  rw [Sys.run_lift] at told
  obtain rfl := (Prod.mk.inj told).2
  -- What is told about the timer is text only, so that its last call ends the record.
  rw [(Sys.within_debug _ _ _ _ _).events]
  exact List.append_assoc _ _ _

theorem SetsUp.records {interval : Duration} {k k₁ : Kernel} (sets : SetsUp v interval k none k₁) :
    k₁.events = k.events ++ (setUpCalls interval k.monotonic).map (Event.call · none) := by
  cases sets with
  | done opened started =>
    obtain ⟨now, recorded⟩ := route_records opened
    rw [start_records v started, recorded, now, List.append_assoc]
    rfl

theorem within_conclude (p : Prober) : Sys.Within Kernel.SameButText (conclude p).run := by
  unfold conclude
  split
  · exact Kernel.SameButText.chains.pure _
  · exact Kernel.SameButText.chains.bind_except (p.within_finish.adapt _) fun _ =>
      Kernel.SameButText.chains.pure _

theorem arm_raises (interval : Duration) :
    Sys.RaisesOnly (fun e => ∃ call cause, e = .eventLoop call cause) (arm v interval) :=
  .bind (.adapt (fun cause => ⟨_, cause, rfl⟩) _) fun _ => .adapt (fun cause => ⟨_, cause, rfl⟩) _

end ArpProbe.EventLoop
