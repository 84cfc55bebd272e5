import ArpProbe.Proofs.EventLoop.Onward
import ArpProbe.Proofs.Kernel.Writing
import ArpProbe.Proofs.Prober.Constants
import ArpProbe.Proofs.Prober.Quieting

/-! Reporting has no say in probing. Runs that differ in whether they report, in what else is told
and in how streams fail take the same course, and a quiet run reports signals that it did not expect
and nothing else. -/

namespace ArpProbe

open Kernel (SameButText Writes)

def Step.surprise? : Step → Option String
  | .handle (.signal number) =>
    if SignalChannel.isTermination number then none
    else some (s!"{programName}: unexpected signal: {number}" ++ "\n")
  | _ => none

namespace Prober

variable (v₁ v₂ : Verbosity) (p : Prober) (quiet : Bool) {k₁ k₂ : Kernel}

theorem take_parallel (same : k₁.SameButText k₂) (s : Step) :
    Parallel quiet ((s.take v₁ p).run k₁) ((s.take v₂ (p.quieted quiet)).run k₂) := by
  cases s with
  | wait delay found failure =>
    obtain ⟨output, streams, laterStreams, rfl⟩ := same
    exact ⟨rfl, rfl, output, streams, laterStreams, rfl⟩
  | readSignal failure => exact ⟨rfl, rfl, same.record _⟩
  | readTimer failure => exact ⟨rfl, rfl, same.record _⟩
  | handle input =>
    rw [Step.take_handle, Step.take_handle]
    exact handle_parallel v₁ v₂ p quiet same input
  | tell topic message =>
    exact ⟨rfl, rfl, same.told v₁ v₂ [.failure topic message] [.failure topic message]⟩
  | stop => exact ⟨rfl, rfl, same⟩

variable {p} (v : Verbosity)

theorem sameModes_take (s : Step) (k : Kernel) :
    ((s.take v p).run k).1.1.session.modes = p.session.modes := by
  obtain ⟨_, _, moves⟩ := p.take_leads v k s
  exact moves.sameModes

theorem afterSend_silent (now : Instant) (length : Nat) (result : Except IoError Nat) :
    ∀ n ∈ (p.afterSend now length result).2, n.reportText? = none := by
  rcases result with cause | n
  · exact List.forall_mem_singleton.mpr rfl
  · unfold afterSend
    simp only
    split <;> exact List.forall_mem_singleton.mpr rfl

theorem afterReceive_silent (silent : p.session.modes.quiet = true) (now : Instant)
    (packet : Octets) (link : LinkInfo) :
    ∀ n ∈ (p.afterReceive now packet link).2.2, n.reportText? = none := by
  unfold afterReceive
  split
  · exact List.forall_mem_singleton.mpr rfl
  · next f accepted =>
    have nothing : p.reportNotes now f link.packetClass = [] := by rw [reportNotes, if_pos silent]
    rw [nothing]
    exact List.forall_mem_singleton.mpr rfl

variable (k : Kernel)

theorem send_silent (p : Prober) : Writes (·.1 ≠ .report) k ((p.send v).run k).2 := by
  obtain ⟨faults, stuck | ⟨octets, _, sends⟩⟩ := send_cases v p k
  · rw [stuck]
    exact .still rfl
  · rw [sends]
    refine (Writes.chains _).trans (.still rfl) ?_
    exact Kernel.writes_told_silent _ v (afterSend_silent _ _ _)

theorem receive_silent (silent : p.session.modes.quiet = true) (arrival : Arrival) :
    Writes (·.1 ≠ .report) k ((p.receive v arrival).run k).2 := by
  cases arrival with
  | failed e =>
    rw [receive_run]
    refine (Writes.chains _).trans (.still rfl) (Kernel.writes_told_silent _ v ?_)
    exact List.forall_mem_singleton.mpr rfl
  | frame octets link =>
    obtain ⟨faults, stuck | received⟩ := receive_frame_cases v p k octets link
    · rw [stuck]
      exact .still rfl
    · rw [received]
      refine (Writes.chains _).trans (.still rfl) ?_
      exact Kernel.writes_told_silent _ v (afterReceive_silent silent _ _ link)

theorem take_quiet (silent : p.session.modes.quiet = true) (s : Step) :
    Writes (fun x => x.1 = .report → s.surprise? = some x.2) k ((s.take v p).run k).2 := by
  have nothing {k' : Kernel} (h : Writes (·.1 ≠ .report) k k') :
      Writes (fun x => x.1 = .report → s.surprise? = some x.2) k k' :=
    h.mono fun x unreported report => absurd report unreported
  cases s with
  | wait | readSignal | readTimer | stop => exact nothing (.still rfl)
  | tell topic message =>
    have told : ∀ n ∈ [Note.failure topic message], n.reportText? = none :=
      List.forall_mem_singleton.mpr rfl
    exact nothing (k.writes_told_silent v told)
  | handle input =>
    cases input with
    | send => exact nothing (send_silent v k p)
    | timer expirations =>
      simp only [Step.take]
      rcases timer_cases v p k expirations with ⟨_, sends⟩ | ⟨_, ends⟩
      · rw [sends]
        exact nothing (send_silent v k _)
      · rw [ends]
        exact nothing (.still rfl)
    | signal number =>
      refine (k.writes_told v (onSignal number).2).mono fun x allowed report => ?_
      obtain ⟨n, member, text⟩ := allowed report
      by_cases ends : SignalChannel.isTermination number
      · rw [onSignal, if_pos ends] at member
        cases List.mem_singleton.mp member
        cases text
      · rw [onSignal, if_neg ends] at member
        cases List.mem_singleton.mp member
        rw [Step.surprise?, if_neg ends]
        exact text
    | receive arrival => exact nothing (receive_silent v k silent arrival)

end Prober

namespace EventLoop

open Prober (Parallel)

variable (v₁ v₂ : Verbosity) (p : Prober) (quiet : Bool) {k₁ k₂ : Kernel}

theorem walk_parallel (same : k₁.SameButText k₂) (steps : List Step) :
    Parallel quiet ((walk v₁ p steps).run k₁) ((walk v₂ (p.quieted quiet) steps).run k₂) := by
  induction steps generalizing p k₁ k₂ with
  | nil => exact ⟨rfl, rfl, same⟩
  | cons s rest ih =>
    have first := Prober.take_parallel v₁ v₂ p quiet same s
    have later := ih ((s.take v₁ p).run k₁).1.1 first.kernel
    rw [walk_cons, walk_cons]
    simp only [first.prober, first.verdict]
    have verdicts := congrArg (((s.take v₁ p).run k₁).1.2 :: ·) later.verdict
    exact ⟨later.prober, verdicts, later.kernel⟩

theorem untilFinal_parallel (same : k₁.SameButText k₂) (steps : List Step) :
    Parallel quiet ((untilFinal v₁ p steps).run k₁)
      ((untilFinal v₂ (p.quieted quiet) steps).run k₂) := by
  induction steps generalizing p k₁ k₂ with
  | nil => exact ⟨rfl, rfl, same⟩
  | cons s rest ih =>
    have first := Prober.take_parallel v₁ v₂ p quiet same s
    rw [untilFinal, untilFinal, Sys.run_bind, Sys.run_bind]
    rcases h₁ : (s.take v₁ p).run k₁ with ⟨⟨p₁, verdict₁⟩, k₁'⟩
    rcases h₂ : (s.take v₂ (p.quieted quiet)).run k₂ with ⟨⟨p₂, verdict₂⟩, k₂'⟩
    rw [h₁, h₂] at first
    obtain ⟨prober, verdict, kernel⟩ := first
    simp only at prober verdict kernel
    subst prober verdict
    cases verdict₂ with
    | goOn => exact ih p₁ kernel
    | final => exact ⟨rfl, rfl, kernel⟩

theorem probe_parallel (same : k₁.SameButText k₂) :
    ((probe v₂ (p.quieted quiet)).run k₂).1 = ((probe v₁ p).run k₁).1.quieted quiet ∧
      ((probe v₁ p).run k₁).2.SameButText ((probe v₂ (p.quieted quiet)).run k₂).2 := by
  have parallel := untilFinal_parallel v₁ v₂ p quiet same (stepsOf k₁.wakes)
  rw [probe_run, probe_run, same.wakes]
  exact ⟨parallel.prober, parallel.kernel⟩

variable {p} (v : Verbosity)

theorem walk_quiet (silent : p.session.modes.quiet = true) (steps : List Step) (k : Kernel) :
    let walked := (walk v p steps).run k
    walked.1.1.session.modes.quiet = true ∧
      Writes (fun x => x.1 = .report → ∃ s ∈ steps, s.surprise? = some x.2) k walked.2 := by
  induction steps generalizing p k with
  | nil => exact ⟨silent, .still rfl⟩
  | cons s rest ih =>
    have kept : ((s.take v p).run k).1.1.session.modes.quiet = true := by
      rw [Prober.sameModes_take, silent]
    obtain ⟨quiet, later⟩ := ih kept ((s.take v p).run k).2
    have first := Prober.take_quiet v k silent s
    rw [walk_cons]
    refine ⟨quiet, (Writes.chains _).trans (first.mono ?_) (later.mono ?_)⟩
    · exact fun x allowed report => ⟨s, List.mem_cons_self, allowed report⟩
    · intro x allowed report
      obtain ⟨s', member, line⟩ := allowed report
      exact ⟨s', List.mem_cons_of_mem s member, line⟩

variable (p) in
/-- Reporting, what else is told, and how streams fail have no say in what a prober does: step by
step and in the whole loop, verdicts and states are the same but for the quiet mode, and so is all
that kernels remember. Two reports that can both be ended end with one status, and a quiet run
reports signals that it did not expect and nothing else. -/
theorem reporting_idle (k : Kernel) (output : List (Channel × String)) (streams : StreamFaults)
    (laterStreams : List StreamFaults) (steps : List Step) :
    let other : Kernel := { k with output, streams, laterStreams }
    let first := (walk v₁ p steps).run k
    let second := (walk v₂ (p.quieted quiet) steps).run other
    let loop := (probe v₁ p).run k
    let loop' := (probe v₂ (p.quieted quiet)).run other
    second.1 = (first.1.1.quieted quiet, first.1.2) ∧ first.2.SameButText second.2 ∧
      loop'.1 = loop.1.quieted quiet ∧ loop.2.SameButText loop'.2 ∧
      (first.1.1.Reports first.2 → second.1.1.Reports second.2 → ∃ status : Int32,
        (first.1.1.finish.run.run first.2).1 = .ok status ∧
          (second.1.1.finish.run.run second.2).1 = .ok status) ∧
      (p.session.modes.quiet = true → (first.1.1.finish.run.run first.2).2 = first.2 ∧
        Writes (fun x => x.1 = .report → ∃ s ∈ steps, s.surprise? = some x.2) k first.2) := by
  intro other first second loop loop'
  have same : k.SameButText other := ⟨output, streams, laterStreams, rfl⟩
  have walked := walk_parallel v₁ v₂ p quiet same steps
  obtain ⟨prober, kernel⟩ := probe_parallel v₁ v₂ p quiet same
  refine ⟨Prod.ext walked.prober walked.verdict, walked.kernel, prober, kernel, ?_, ?_⟩
  · intro reports reports'
    refine ⟨first.1.1.status, Prober.finish_of_reports reports, ?_⟩
    rw [Prober.finish_of_reports reports', walked.status]
  · intro silent
    obtain ⟨quiet', written⟩ := walk_quiet v₁ silent steps k
    refine ⟨?_, written⟩
    rw [Prober.finish_run, if_pos quiet']

theorem reporting_idle_broken :
    let me : Octets := [2, 0, 0, 0, 0, 1]
    let peer : Octets := [2, 0, 0, 0, 0, 9]
    let q : Query := ⟨⟨10, 0, 0, 9⟩, ⟨10, 0, 0, 1⟩, false⟩
    let answer : Octets := [0, 1, 8, 0, 6, 4, 0, 2] ++ peer ++ [10, 0, 0, 9] ++ me ++ [10, 0, 0, 1]
    let p := Prober.fresh { quiet := true } 3 0 ⟨1, me, List.replicate 6 255⟩ q 2
    let steps : List Step := [.handle .send, .handle (.signal 1),
      .handle (.receive (.frame answer ⟨.host, 1⟩)), .handle (.signal 15)]
    let broken : StreamFaults := ⟨some 32, some 32, some 32⟩
    let k : Kernel := {}
    let first := (walk {} p steps).run k
    let second := (walk ⟨9, .utc, .rfc2822⟩ (p.quieted false) steps).run
      { k with output := [], streams := broken, laterStreams := [broken, {}] }
    first.1.1.Reports first.2 ∧ second.1.1.Reports second.2 ∧
      second.1 = (first.1.1.quieted false, first.1.2) ∧ first.1.2.getLast? = some .final ∧
      (first.1.1.finish.run.run first.2).1 = (second.1.1.finish.run.run second.2).1 ∧
      p.session.modes.quiet = true ∧
      Writes (fun x => x.1 = .report → ∃ s ∈ steps, s.surprise? = some x.2) k first.2 := by
  intro me peer q answer p steps broken k first second
  have silent : first.1.1.session.modes.quiet = true := by decide +kernel
  have wrote : ((Sys.writeReports second.1.1.session.summaryParts).run.run second.2).1.toOption =
      some () := by decide +kernel
  have ends : first.1.2.getLast? = some .final := by decide +kernel
  obtain ⟨course, _, _, _, status, quiet⟩ :=
    reporting_idle {} ⟨9, .utc, .rfc2822⟩ p false k [] broken [broken, {}] steps
  have run : first = (walk {} p steps).run k := rfl
  have run' : second = (walk ⟨9, .utc, .rfc2822⟩ (p.quieted false) steps).run
    { k with output := [], streams := broken, laterStreams := [broken, {}] } := rfl
  rw [← run, ← run'] at course status
  rw [← run] at quiet
  -- From here on the runs are not to be evaluated any more.
  clear_value first second
  have reports : first.1.1.Reports first.2 := .inl silent
  have reports' : second.1.1.Reports second.2 := by
    refine .inr ?_
    cases h : ((Sys.writeReports second.1.1.session.summaryParts).run.run second.2).1 with
    | ok => rfl
    | error e => rw [h] at wrote; cases wrote
  obtain ⟨s, value, value'⟩ := status reports reports'
  exact ⟨reports, reports', course, ends, value.trans value'.symm, rfl, (quiet rfl).2⟩

end EventLoop

end ArpProbe
