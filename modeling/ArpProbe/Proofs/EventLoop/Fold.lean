import ArpProbe.Proofs.EventLoop.SetUp
import ArpProbe.Proofs.EventLoop.Steps

/-! The whole loop as a fold: after the channel and the timer are set up, the first probe and the
steps of all wakes are taken in order, up to and including the first that is final. -/

namespace ArpProbe.EventLoop

variable (v : Verbosity)

/-- The first probe, then all that the wakes bring, and behind them a signal that ends every run. -/
def stepsOf (wakes : List Wake) : List Step :=
  .handle .send :: wakes.flatMap Wake.steps ++
    [.wait ⟨0⟩ [.signal] none, .readSignal none, .handle (.signal 15)]

theorem stepsOf_eq (wakes : List Wake) :
    stepsOf wakes = .handle .send :: (wakes ++ [lastWake]).flatMap Wake.steps := by
  rw [List.flatMap_append, List.flatMap_singleton]
  rfl

theorem probe_run (p : Prober) (k : Kernel) :
    (probe v p).run k =
      (((untilFinal v p (stepsOf k.wakes)).run k).1.1,
        ((untilFinal v p (stepsOf k.wakes)).run k).2) := by
  have same := Prober.wakes_send v p k
  rw [stepsOf_eq, untilFinal, probe, Sys.run_bind, Sys.run_bind]
  simp only [Step.take]
  rcases h : (p.send v).run k with ⟨⟨p₁, _ | _⟩, k₁⟩
  · rw [h] at same
    rw [← same]
    change (loop v p₁ k₁.wakes).run k₁ = _
    rw [loop_eq]
    rfl
  · rfl

theorem untilFinal_lastWake (p : Prober) (k : Kernel) :
    ((untilFinal v p lastWake.steps).run k).1.2 = .final := rfl

theorem untilFinal_stepsOf (p : Prober) (wakes : List Wake) (k : Kernel) :
    ((untilFinal v p (stepsOf wakes)).run k).1.2 = .final := by
  rw [stepsOf_eq, List.flatMap_append, List.flatMap_singleton, ← List.cons_append,
    untilFinal_append, Sys.run_bind]
  rcases (untilFinal v p _).run k with ⟨⟨p₁, _ | _⟩, k₁⟩
  · exact untilFinal_lastWake v p₁ k₁
  · rfl

theorem walk_cons (p : Prober) (s : Step) (rest : List Step) (k : Kernel) :
    (walk v p (s :: rest)).run k =
      let first := (s.take v p).run k
      let later := (walk v first.1.1 rest).run first.2
      ((later.1.1, first.1.2 :: later.1.2), later.2) := rfl

theorem exists_walk_of_final {p p' : Prober} {steps : List Step} {k k' : Kernel}
    (h : (untilFinal v p steps).run k = ((p', .final), k')) :
    ∃ n < steps.length, (walk v p (steps.take (n + 1))).run k =
      ((p', List.replicate n .goOn ++ [.final]), k') := by
  -- The steps are the same up to the final one; the walk is cut right behind it.
  induction steps generalizing p k with
  | nil => cases h
  | cons s rest ih =>
    rw [untilFinal, Sys.run_bind] at h
    rcases hs : (s.take v p).run k with ⟨⟨p₁, _ | _⟩, k₁⟩ <;> rw [hs] at h
    · obtain ⟨n, hn, hw⟩ := ih h
      refine ⟨n + 1, Nat.succ_lt_succ hn, ?_⟩
      rw [List.take_succ_cons, walk_cons]
      simp only [hs, hw, List.replicate_succ, List.cons_append]
    · cases h
      refine ⟨0, Nat.succ_pos _, ?_⟩
      rw [List.take_succ_cons, walk_cons]
      simp only [hs]
      rfl

theorem probe_walk (p : Prober) (k : Kernel) :
    ∃ steps n, (walk v p (.handle .send :: steps)).run k =
      ((((probe v p).run k).1, List.replicate n .goOn ++ [.final]), ((probe v p).run k).2) := by
  have final := untilFinal_stepsOf v p k.wakes k
  rcases hu : (untilFinal v p (stepsOf k.wakes)).run k with ⟨⟨p', verdict⟩, k'⟩
  rw [hu] at final
  cases final
  obtain ⟨n, _, walked⟩ := exists_walk_of_final v hu
  refine ⟨((k.wakes ++ [lastWake]).flatMap Wake.steps).take n, n, ?_⟩
  rw [stepsOf_eq, List.take_succ_cons] at walked
  rw [probe_run, hu]
  exact walked

theorem run_run (p : Prober) (interval : Duration) (k : Kernel) :
    (run v p interval).run.run k =
      match (arm v interval).run.run k with
      | (.error e, k) => (.error e, k)
      | (.ok (), k) =>
        let p' := ((probe v p).run k).1
        let ended := (conclude p').run.run ((probe v p).run k).2
        (ended.1.map (p', ·), ended.2) := by
  unfold run
  rw [Sys.run_except_bind]
  rcases (arm v interval).run.run k with ⟨_ | _, k₁⟩
  · rfl
  · simp only [Sys.run_except_bind, Sys.run_lift]
    rcases (conclude ((probe v p).run k₁).1).run.run ((probe v p).run k₁).2 with ⟨_ | _, k₂⟩ <;> rfl

theorem walk_unread (p : Prober) {reading : Step} {e : Event}
    (h : reading.take v p = (do Sys.record e; return (p, .goOn))) (topic : Topic)
    (descriptor : String) (cause : IoError) (k : Kernel) :
    ∃ k', (walk v p (Step.ofReading reading topic descriptor (.error cause))).run k =
        ((p, [.goOn, .goOn]), k') ∧ (k.record e).SameButText k' ∧
      (k.streams.diagnostic = none → k'.output = k.output ++ [(.diagnostic,
        "rarping: could not read " ++ descriptor ++ ": " ++ cause.text ++ "\n")]) := by
  let message := "could not read " ++ descriptor ++ ": " ++ cause.text
  refine ⟨_, ?_, Sys.within_tell v (.failure topic message) (k.record e), fun fine => ?_⟩
  · rw [Step.ofReading, walk_cons, h]
    rfl
  · have works : (k.record e).streams.diagnostic = none := fine
    refine (Sys.output_failure v topic message works).trans ?_
    simp only [message, programName, ← String.append_assoc]
    rfl

/-- The loop as a fold of its steps. -/
structure IsFold (p : Prober) (interval : Duration) (k : Kernel) : Prop where
  begins : ∃ failure k₁, SetsUp v interval k failure k₁
  unarmed : ∀ e k₁, SetsUp v interval k (some e) k₁ →
    (run v p interval).run.run k = (.error e, k₁) ∧ k.OffLink k₁
  /-- With both, steps are taken up to the first that is final; then the run ends, and all that
  can still change is text. -/
  armed : ∀ k₁, SetsUp v interval k none k₁ → k.OffLink k₁ ∧
    k₁.events = k.events ++ (setUpCalls interval k.monotonic).map (.call · none) ∧
    ∃ n p' k' ended k'', n < (stepsOf k.wakes).length ∧
      (walk v p ((stepsOf k.wakes).take (n + 1))).run k₁ =
        ((p', List.replicate n .goOn ++ [.final]), k') ∧
      Ends p' k' ended k'' ∧ k'.SameButText k'' ∧ (run v p interval).run.run k = (ended, k'')
  repeated : ∀ q k₀ delay e, e = Errno.interrupted ∨ e = Errno.again → ∃ monotonic wall,
    (walk v q (Wake.steps ⟨delay, .failed e⟩)).run k₀ = ((q, [.goOn]),
      { k₀ with
        monotonic
        wallMicroseconds := wall
        events := k₀.events ++ [.call (.poll []) (some e)] })
  unreadSignal : ∀ q k₀ r cause, r.outcome "signalfd" 128 (0 : UInt32) = .error cause → ∃ k₂,
    (walk v q (Step.ofSignal r)).run k₀ = ((q, [.goOn, .goOn]), k₂) ∧
      (k₀.record (.call .readSignal r.failure?)).SameButText k₂ ∧
      (k₀.streams.diagnostic = none → k₂.output = k₀.output ++
        [(.diagnostic, "rarping: could not read signalfd: " ++ cause.text ++ "\n")])
  unreadTimer : ∀ q k₀ r cause, r.outcome "timerfd" 8 (0 : UInt64) = .error cause → ∃ k₂,
    (walk v q (Step.ofTimer r)).run k₀ = ((q, [.goOn, .goOn]), k₂) ∧
      (k₀.record (.call .readTimer r.failure?)).SameButText k₂ ∧
      (k₀.streams.diagnostic = none → k₂.output = k₀.output ++
        [(.diagnostic, "rarping: could not read timerfd: " ++ cause.text ++ "\n")])

theorem run_isFold (p : Prober) (interval : Duration) (k : Kernel) : IsFold v p interval k where
  begins := exists_setsUp v interval k
  unarmed e k₁ sets := by
    have failed : (arm v interval).run.run k = (.error e, k₁) := sets.arm
    have off := within_arm v interval k
    exact ⟨by rw [run_run, failed], by simpa only [failed] using off⟩
  armed k₁ sets := by
    have armed : (arm v interval).run.run k = (.ok (), k₁) := sets.arm
    have off : k.OffLink k₁ := by simpa only [armed] using within_arm v interval k
    have final := untilFinal_stepsOf v p k₁.wakes k₁
    rw [off.wakes] at final
    rcases hu : (untilFinal v p (stepsOf k.wakes)).run k₁ with ⟨⟨p', verdict⟩, k'⟩
    rw [hu] at final
    cases final
    obtain ⟨n, hn, hw⟩ := exists_walk_of_final v hu
    have probed : (probe v p).run k₁ = (p', k') := by rw [probe_run, off.wakes, hu]
    refine ⟨off, sets.records, n, p', k', _, _, hn, hw, conclude_ends p' k',
      within_conclude p' k', ?_⟩
    rw [run_run, armed]
    simp only [probed]
  repeated q k₀ delay e h := by
    refine ⟨(k₀.advance delay).monotonic, (k₀.advance delay).wallMicroseconds, ?_⟩
    have retry : (e = Errno.interrupted || e = Errno.again) = true := by simpa using h
    rw [Wake.steps]
    simp only [retry, if_true]
    rfl
  unreadSignal q k₀ r cause h := by
    rw [Step.ofSignal, h]
    exact walk_unread v q (e := .call .readSignal r.failure?) rfl .signal "signalfd" cause k₀
  unreadTimer q k₀ r cause h := by
    rw [Step.ofTimer, h]
    exact walk_unread v q (e := .call .readTimer r.failure?) rfl .timer "timerfd" cause k₀

end ArpProbe.EventLoop
