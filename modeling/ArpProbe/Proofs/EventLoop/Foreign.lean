import ArpProbe.Proofs.EventLoop.Overlooking

/-! Foreign packets and failures of the link. A packet that is no answer, or a reception that failed
while the network was up, leaves no trace in what a prober does afterwards. A frame that did not go
out whole is as if it had not been sent. -/

namespace ArpProbe

def Occasion.IsForeign (me : Octets) (q : Query) (o : Occasion) : Prop :=
  match o.step with
  | .handle (.receive (.failed e)) => e ≠ Errno.networkDown
  | .handle (.receive (.frame octets link)) =>
    o.circumstances.fault? .clock = none ∧
      ∃ reject, Frame.parse (octets.take Sys.receiveCapacity) link me q = .error reject
  | _ => False

def Occasion.FailsToSend (p : Prober) (o : Occasion) : Prop :=
  (o.step = .handle .send ∨ ∃ expirations, o.step = .handle (.timer expirations)) ∧
    ∀ octets, p.frame.encode? = some octets →
      (o.circumstances.sends.headD .complete).written octets ≠ .ok octets.length

namespace Reaction

def transmissions (r : Reaction) : List (Octets × Octets) := r.record.filterMap Event.transmission?

def hasWritten (r : Reaction) : Bool := r.record.any Event.isProbe

def lastWrite (reactions : List Reaction) : Option Instant :=
  ((reactions.filter hasWritten).getLast?).map Reaction.time

theorem lastWrite_cons (r : Reaction) (rest : List Reaction) :
    lastWrite (r :: rest) = (lastWrite rest).or (if r.hasWritten then some r.time else none) := by
  unfold lastWrite
  cases written : r.hasWritten with
  | false => simp [written]
  | true =>
    simp only [List.filter_cons, written, if_true, List.getLast?_cons]
    cases (rest.filter hasWritten).getLast? <;> rfl

end Reaction

namespace Occasion

variable (v : Verbosity) {p : Prober} {o : Occasion} (k : Kernel)

theorem overlooks (foreign : o.IsForeign p.session.endpoint.me p.query) :
    p.Overlooks (k.under o.circumstances) ((o.step.take v p).run (k.under o.circumstances)) := by
  obtain ⟨c, step⟩ := o
  cases step with
  | handle input =>
    cases input with
    | receive arrival =>
      cases arrival with
      | failed e => exact Prober.overlooks_failed v _ foreign
      | frame octets link =>
        obtain ⟨reads, reject, rejected⟩ := foreign
        exact Prober.overlooks_rejected v _ rejected reads
    | send | timer | signal => exact foreign.elim
  | wait | readSignal | readTimer | tell | stop => exact foreign.elim

theorem meet_foreign (foreign : o.IsForeign p.session.endpoint.me p.query) :
    let r := ((o.meet v p).run k).1
    r.prober = p ∧ r.report = "" ∧ r.transmissions = [] := by
  have seen := overlooks v k foreign
  exact ⟨congrArg Prod.fst seen.same, seen.report, seen.transmissions⟩

theorem meet_asks :
    let r := ((o.meet v p).run k).1
    r.prober.session.endpoint.me = p.session.endpoint.me ∧ r.prober.query = p.query :=
  p.take_asks v (k.under o.circumstances) o.step

theorem meet_remembers :
    let r := ((o.meet v p).run k).1
    r.prober.session.lastSend = if r.hasWritten then some r.time else p.session.lastSend :=
  p.take_remembers v (k.under o.circumstances) o.step

theorem meet_failing (fails : o.FailsToSend p) :
    let r := ((o.meet v p).run k).1
    r.prober.session = { p.session with totalExpires := r.prober.session.totalExpires } := by
  obtain ⟨c, step⟩ := o
  obtain ⟨rfl | ⟨expirations, rfl⟩, incomplete⟩ := fails
  · have same := p.send_incomplete v (k.under c) incomplete
    change ((p.send v).run (k.under c)).1.1.session =
      { p.session with totalExpires := ((p.send v).run (k.under c)).1.1.session.totalExpires }
    rw [same]
  · have same := p.timer_incomplete v (k.under c) incomplete expirations
    change ((p.timer v expirations).run (k.under c)).1.1.session = { p.session with
      totalExpires := ((p.timer v expirations).run (k.under c)).1.1.session.totalExpires }
    rw [same]
    rfl

end Occasion

namespace EventLoop

variable (v : Verbosity)

def kept (marked : List (Occasion × Bool)) (reactions : List Reaction) : List Reaction :=
  ((marked.zip reactions).filter (·.1.2)).map Prod.snd

/-- Two runs of which one has the marked occasions only: nothing else that is seen tells them
apart. -/
structure Alike (marked : List (Occasion × Bool))
    (whole thinned : (Prober × List Reaction) × Kernel) : Prop where
  reactions : kept marked whole.1.2 = thinned.1.2
  prober : whole.1.1 = thinned.1.1
  report : String.join (whole.1.2.map Reaction.report) =
    String.join (thinned.1.2.map Reaction.report)
  transmissions : whole.1.2.flatMap Reaction.transmissions =
    thinned.1.2.flatMap Reaction.transmissions

theorem alike_of_foreign {p : Prober} {marked : List (Occasion × Bool)}
    (foreign : ∀ x ∈ marked, x.2 = false → x.1.IsForeign p.session.endpoint.me p.query)
    (k k' : Kernel) :
    Alike marked ((meetAll v p (marked.map Prod.fst)).run k)
      ((meetAll v p ((marked.filter Prod.snd).map Prod.fst)).run k') := by
  induction marked generalizing p k k' with
  | nil => exact ⟨rfl, rfl, rfl, rfl⟩
  | cons x rest ih =>
    obtain ⟨o, stays⟩ := x
    obtain ⟨now, later⟩ := List.forall_mem_cons.mp foreign
    rw [List.map_cons, meetAll_cons]
    cases stays with
    | false =>
      -- Only the whole run meets it, and goes on with the same prober in another kernel.
      obtain ⟨same, silent, unsent⟩ := Occasion.meet_foreign v k (now rfl)
      have alike := ih later ((o.meet v p).run k).2 k'
      simp only [List.filter_cons, Bool.false_eq_true, if_false, same]
      refine ⟨alike.reactions, alike.prober, ?_, ?_⟩
      · rw [List.map_cons, silent, ← alike.report]
        simp
      · rw [List.flatMap_cons, unsent, List.nil_append, alike.transmissions]
    | true =>
      obtain ⟨me, query⟩ := Occasion.meet_asks (o := o) (p := p) v k
      rw [← me, ← query] at later
      have alike := ih later ((o.meet v p).run k).2 ((o.meet v p).run k').2
      simp only [List.filter_cons, if_true, List.map_cons, meetAll_cons]
      rw [← o.meet_same v p k k']
      refine ⟨?_, alike.prober, ?_, ?_⟩
      · rw [← alike.reactions]
        rfl
      · rw [List.map_cons, List.map_cons, String.join_cons, String.join_cons, alike.report]
      · rw [List.flatMap_cons, List.flatMap_cons, alike.transmissions]

theorem meetAll_remembers (p : Prober) (occasions : List Occasion) (k : Kernel) :
    let met := (meetAll v p occasions).run k
    met.1.1.session.lastSend = (Reaction.lastWrite met.1.2).or p.session.lastSend := by
  induction occasions generalizing p k with
  | nil => rfl
  | cons o rest ih =>
    have first := o.meet_remembers (p := p) v k
    have later := ih ((o.meet v p).run k).1.prober ((o.meet v p).run k).2
    simp only [meetAll_cons] at later ⊢
    rw [later, Reaction.lastWrite_cons, Option.or_assoc, first]
    cases ((o.meet v p).run k).1.hasWritten <;> rfl

/-- Foreign packets and failed receptions, wherever they come, tell no run from another without
them: what is left is met alike, and ends alike. And a frame that did not go out whole changes
nothing but the count of expirations, so that times run from the last one that did. -/
theorem foreign_unseen {p : Prober} {marked : List (Occasion × Bool)}
    (foreign : ∀ x ∈ marked, x.2 = false → x.1.IsForeign p.session.endpoint.me p.query)
    (k k' : Kernel) :
    let whole := (meetAll v p (marked.map Prod.fst)).run k
    let thinned := (meetAll v p ((marked.filter Prod.snd).map Prod.fst)).run k'
    let ended (x : (Prober × List Reaction) × Kernel) (c : Circumstances) :=
      x.1.1.finish.run.run (x.2.under c)
    Alike marked whole thinned ∧
      (∀ c, (ended whole c).1 = (ended thinned c).1 ∧
        whole.2.reportSince (ended whole c).2 = thinned.2.reportSince (ended thinned c).2) ∧
      (∀ o : Occasion, o.FailsToSend p →
        let session := ((o.meet v p).run k).1.prober.session
        session = { p.session with totalExpires := session.totalExpires }) ∧
      ∀ now, whole.1.1.session.elapsed now =
        ((Reaction.lastWrite whole.1.2).or p.session.lastSend).map now.since := by
  intro whole thinned ended
  have alike := alike_of_foreign v foreign k k'
  refine ⟨alike, fun c => ?_, fun o fails => o.meet_failing v k fails, fun now => ?_⟩
  · obtain ⟨result, c', g, o, same⟩ := whole.1.1.finish_isLocal c
    have first : ended whole c = (result, whole.2.left c' g o) := same whole.2
    have second : ended thinned c = (result, thinned.2.left c' g o) := by
      simp only [ended, thinned, ← alike.prober]
      exact same thinned.2
    rw [first, second]
    simp only [Kernel.reportSince, Kernel.left, List.drop_left, and_self]
  · rw [Session.elapsed, meetAll_remembers v p (marked.map Prod.fst) k]

theorem foreign_unseen_noise :
    let me : Octets := [2, 0, 0, 0, 0, 1]
    let peer : Octets := [2, 0, 0, 0, 0, 9]
    let q : Query := ⟨⟨10, 0, 0, 9⟩, ⟨10, 0, 0, 1⟩, false⟩
    let answer : Octets := [0, 1, 8, 0, 6, 4, 0, 2] ++ peer ++ [10, 0, 0, 9] ++ me ++ [10, 0, 0, 1]
    let p := Prober.fresh { quiet := true } 3 0 ⟨1, me, List.replicate 6 255⟩ q 2
    let amid (time : Nat) (sends : List SendOutcome) : Circumstances :=
      ⟨0, ⟨time⟩, fun _ => [], sends, {}, []⟩
    let lost : Occasion := ⟨amid 4 [.short 3], .handle (.timer 1)⟩
    let marked : List (Occasion × Bool) :=
      [(⟨amid 1 [], .handle .send⟩, true),
        (⟨amid 2 [], .handle (.receive (.frame [1, 2, 3] ⟨.host, 1⟩))⟩, false),
        (⟨amid 3 [], .handle (.receive (.failed 5))⟩, false), (lost, true),
        (⟨amid 5 [], .handle (.receive (.frame answer ⟨.host, 1⟩))⟩, true)]
    let whole := (meetAll {} p (marked.map Prod.fst)).run {}
    let thinned := (meetAll {} p ((marked.filter Prod.snd).map Prod.fst)).run {}
    (∀ x ∈ marked, x.2 = false → x.1.IsForeign p.session.endpoint.me p.query) ∧
      lost.FailsToSend p ∧ Alike marked whole thinned ∧
      ((lost.meet {} p).run {}).1.prober.session =
        { p.session with totalExpires := ((lost.meet {} p).run {}).1.prober.session.totalExpires } ∧
      whole.1.1.session.elapsed ⟨9⟩ = some ⟨8⟩ := by
  intro me peer q answer p amid lost marked whole thinned
  have foreign : ∀ x ∈ marked, x.2 = false → x.1.IsForeign p.session.endpoint.me p.query := by
    intro x member removed
    simp only [marked, List.mem_cons, List.not_mem_nil, or_false] at member
    rcases member with rfl | rfl | rfl | rfl | rfl
    · cases removed
    · exact ⟨rfl, .truncated, rfl⟩
    · exact (by decide : (5 : Errno) ≠ Errno.networkDown)
    · cases removed
    · cases removed
  have fails : lost.FailsToSend p := by
    refine ⟨.inr ⟨1, rfl⟩, fun octets encoded short => ?_⟩
    have long : p.frame.encode?.map List.length = some 28 := by decide +kernel
    rw [encoded] at long
    have same : 3 = octets.length := Except.ok.inj short
    rw [Option.map_some, ← same] at long
    cases long
  obtain ⟨alike, _, unchanged, elapsed⟩ := foreign_unseen {} foreign {} {}
  have written : Reaction.lastWrite whole.1.2 = some ⟨1⟩ := by decide +kernel
  refine ⟨foreign, fails, alike, unchanged lost fails, ?_⟩
  rw [elapsed, written]
  rfl

end EventLoop

end ArpProbe
