import ArpProbe.Proofs.EventLoop.Going
import ArpProbe.Proofs.Probe.Verdict

/-! Setting a probe up only ends well with two addresses of one length, whatever the interface and
the socket claim to have. From then on every frame is written and read within bounds, and only the
clock can keep a run from its status. -/

namespace ArpProbe

open Sys (Yields Returns)

theorem StoredAddress.length_octets_le (a : StoredAddress) : a.octets.length ≤ capacity := by
  rw [octets, List.length_take]
  omega

theorem Sys.Yields.query {α : Type} {good : α → Prop} {c : Call}
    {model : Kernel → Except Errno α} (answers : ∀ k a, model k = .ok a → good a) :
    Yields good (Sys.query c model) := by
  intro k a h
  change (Sys.query c model k).1 = .ok a at h
  unfold Sys.query Sys.call at h
  rcases hs : k.scripted c with ⟨_ | e, k₁⟩
  · cases hm : model k₁ with
    | error e =>
      simp only [ExceptT.mk, hs, hm, Except.map] at h
      cases h
    | ok a' =>
      simp only [ExceptT.mk, hs, hm, Except.map] at h
      cases h
      exact answers k₁ a hm
  · simp only [ExceptT.mk, hs] at h
    cases h

theorem Sys.packetName_yields :
    Yields (fun found => found.2.length ≤ StoredAddress.capacity) packetName := by
  refine .query fun k found answer => ?_
  cases answer
  exact k.linkAddress.length_octets_le

namespace Probe

theorem broadcast_returns (i : Interface) (length : Nat) (quiet : Bool) :
    Returns (fun address => address.length = length) (broadcast i length quiet) := by
  unfold broadcast
  split
  · next address found =>
    refine .pure ?_
    rw [Interface.broadcastFor, Option.filter_eq_some_iff] at found
    exact of_decide_eq_true found.2
  · split
    · exact .bind_any fun _ => .pure List.length_replicate
    · exact .pure List.length_replicate

theorem endpoint_yields (c : Config) (i : Interface) : Yields Endpoint.Fits (endpoint c i) := by
  unfold endpoint
  refine .bind_any fun _ => .bind (Sys.packetName_yields.adapt _) ?_
  rintro ⟨hardwareType, me⟩ stored
  by_cases empty : me.isEmpty = true
  · simp only [if_pos empty]
    exact .throw _ _
  · have nonempty : 1 ≤ me.length :=
      List.length_pos_iff.mpr fun nothing => empty (List.isEmpty_iff.mpr nothing)
    simp only [if_neg empty]
    refine .first fun _ => .bind (.lift (broadcast_returns i me.length _)) fun he level => ?_
    exact .bind_any fun _ => .pure ⟨nonempty, stored, level⟩

theorem setUp_yields (c : Config) :
    Yields (fun p => p.session.endpoint.Fits ∧ p.stuck = false) (setUp c) := by
  unfold setUp
  refine .bind_any fun bracket => .bind_any fun socket => .bind_any fun _ => .bind_any fun i => ?_
  refine .bind_any fun _ => .bind_any fun target => .bind_any fun given => ?_
  refine .bind_any fun source => ?_
  refine .bind (endpoint_yields c i) fun endpoint fits => .first fun _ => ?_
  exact .bind_any fun _ => .pure ⟨fits, rfl⟩

theorem stuck_of_run {c : Config} {k k₁ k' : Kernel} {p p' : Prober}
    (ready : (setUp c).run.run k = (.ok p, k₁))
    (unfinished : (run c).run.run k = (.ok (p', none), k')) :
    ∃ k₂, (EventLoop.arm c.verbosity (.ofSeconds c.interval)).run.run k₁ = (.ok (), k₂) ∧
      ((EventLoop.probe c.verbosity p).run k₂).1.stuck = true := by
  rw [run_run, ready] at unfinished
  simp only [EventLoop.run_run] at unfinished
  rcases armed : (EventLoop.arm c.verbosity (.ofSeconds c.interval)).run.run k₁ with ⟨_ | _, k₂⟩ <;>
    rw [armed] at unfinished
  · cases unfinished
  · refine ⟨k₂, rfl, ?_⟩
    simp only [EventLoop.conclude_run] at unfinished
    split at unfinished
    · next stuck => exact stuck
    · -- A prober that can finish has a status, or else an error.
      rcases ended : (((EventLoop.probe c.verbosity p).run k₂).1.finish.run.run
        ((EventLoop.probe c.verbosity p).run k₂).2).1 with _ | _ <;>
        rw [ended] at unfinished <;> cases unfinished

theorem ready_of_toOption {r : Except Error Prober × Kernel} {p : Prober}
    (found : r.1.toOption = some p) : r = (.ok p, r.2) := by
  obtain ⟨_ | _, _⟩ := r <;> cases found
  rfl

/-- Once set up, whatever happens in whatever order: both addresses keep the length of the first,
between one and eight octets; frames are written and read within bounds, and neither they nor their
destinations are cut. Unless the clock fails, the prober goes on to the end. -/
theorem run_isSafe {c : Config} {p : Prober} {k k₁ : Kernel}
    (ready : (setUp c).run.run k = (.ok p, k₁)) (steps : List Step) (k₂ : Kernel) :
    let later := (EventLoop.carryOn c.verbosity p steps).run k₂
    later.1.IsSafe ∧ later.1.session.endpoint.me = p.session.endpoint.me ∧
      (∀ e ∈ k₂.since later.2, e.IsWhole p.session.endpoint.me.length) ∧
      (k₂.ReadsClock → later.1.stuck = false) ∧
      (k₁.ReadsClock → ∀ p' k', (run c).run.run k ≠ (.ok (p', none), k')) := by
  intro later
  obtain ⟨fits, going⟩ := setUp_yields c k p (by rw [ready])
  obtain ⟨g, recorded, moves⟩ := EventLoop.carryOn_leads c.verbosity p steps k₂
  have kept := moves.fits fits
  have same := moves.sameMe
  refine ⟨Prober.isSafe_of_fits kept, same, ?_, ?_, ?_⟩
  · rw [Kernel.since_of_append recorded]
    exact moves.isWhole fits
  · intro reads
    exact (EventLoop.carryOn_goes c.verbosity fits.level reads steps).trans going
  · intro reads p' k' unfinished
    obtain ⟨k₃, armed, stuck⟩ := stuck_of_run ready unfinished
    have readable := EventLoop.keepsClock_arm c.verbosity (.ofSeconds c.interval) k₁ reads
    rw [armed] at readable
    obtain ⟨taken, same⟩ := EventLoop.probe_carriesOn c.verbosity going k₃
    rw [same, EventLoop.carryOn_goes c.verbosity fits.level readable, going] at stuck
    cases stuck

theorem run_isSafe_cut :
    let c : Config :=
      { target := "10.0.0.9", source := some "10.0.0.1", interface := some "ib0"
        modes := { quiet := true }, count := 2, discovery := [.ioctl] }
    let ib0 : InterfaceEntry :=
      { InterfaceEntry.blank with name := some [105, 98, 48], index := 2, flags := 0x43 }
    let me : Octets := [2, 0, 0, 0, 0, 0, 0, 1]
    let peer : Octets := [2, 0, 0, 0, 0, 0, 0, 9]
    let k : Kernel :=
      { interfaces := [ib0], linkType := 32, linkAddress := .claim (me ++ List.replicate 12 7) 20 }
    let answer : Octets := [0, 32, 8, 0, 8, 4, 0, 2] ++ peer ++ [10, 0, 0, 9] ++ me ++ [10, 0, 0, 1]
    let steps : List Step := [.handle .send, .handle (.receive (.frame answer ⟨.host, 32⟩)),
      .handle (.timer 1)]
    let p : Prober := .fresh c.modes 2 0 ⟨32, me, List.replicate 8 255⟩
      ⟨⟨10, 0, 0, 9⟩, ⟨10, 0, 0, 1⟩, false⟩ 2
    let k₁ := ((setUp c).run.run k).2
    let later := (EventLoop.carryOn c.verbosity p steps).run k₁
    (setUp c).run.run k = (.ok p, k₁) ∧ later.1.session.endpoint.he = peer ∧ later.1.IsSafe ∧
      (∀ e ∈ k₁.since later.2, e.IsWhole me.length) ∧ later.1.stuck = false ∧
      ∀ p' k', (run c).run.run k ≠ (.ok (p', none), k') := by
  intro c ib0 me peer k answer steps p k₁ later
  have found : ((setUp c).run.run k).1.toOption = some p := by decide +kernel
  have ready : (setUp c).run.run k = (.ok p, k₁) := ready_of_toOption found
  have turned : later.1.session.endpoint.he = peer := by decide +kernel
  have reads : k₁.ReadsClock := by
    have none : k₁.faults .clock = [] := by decide +kernel
    simp [Kernel.ReadsClock, none]
  obtain ⟨safe, _, whole, going, ends⟩ := run_isSafe ready steps k₁
  have same : later = (EventLoop.carryOn c.verbosity p steps).run k₁ := rfl
  rw [← same] at safe whole going
  -- From here on the run is not to be evaluated any more.
  clear_value later
  exact ⟨ready, turned, safe, whole, going reads, ends reads⟩

end Probe

end ArpProbe
