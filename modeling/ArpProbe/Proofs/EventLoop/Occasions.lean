import ArpProbe.Proofs.EventLoop.Fold
import ArpProbe.Proofs.Kernel.Circumstances
import ArpProbe.Proofs.Kernel.Writing

/-! Steps taken each in circumstances of its own, and what is seen of a prober at each. A prober
reacts to an occasion alike on every kernel, and every walk of the loop is a sequence of
occasions. -/

namespace ArpProbe

open Sys (IsLocal)

namespace Prober

variable (v : Verbosity) (p : Prober)

theorem tellAll_isLocal (notes : List Note) : IsLocal (notes.forM (Sys.tell v)) :=
  .forM (Sys.tell_isLocal v) notes

theorem send_isLocal : IsLocal (p.send v) := by
  unfold send
  cases p.frame.encode? with
  | none => exact .pure _
  | some octets =>
    refine .bind Sys.clock_isLocal fun read => ?_
    cases read with
    | error cause => exact .pure _
    | ok now =>
      refine .bind (Sys.send_isLocal _ _ _) fun result => ?_
      exact .bind (tellAll_isLocal v _) fun _ => .pure _

theorem receive_isLocal (arrival : Arrival) : IsLocal (p.receive v arrival) := by
  refine .bind (Sys.receive_isLocal arrival) fun taken => ?_
  cases taken with
  | error cause => exact .bind (tellAll_isLocal v _) fun _ => .pure _
  | ok taken =>
    refine .bind Sys.clock_isLocal fun read => ?_
    cases read with
    | error cause => exact .pure _
    | ok now => exact .bind (tellAll_isLocal v _) fun _ => .pure _

theorem timer_isLocal (expirations : UInt64) : IsLocal (p.timer v expirations) := by
  unfold timer
  rcases p.session.expire expirations with ⟨session, _ | _⟩
  · exact send_isLocal v _
  · exact .pure _

theorem handle_isLocal (input : Input) : IsLocal (p.handle v input) := by
  cases input with
  | send => exact send_isLocal v p
  | timer expirations => exact timer_isLocal v p expirations
  | signal number => exact .bind (tellAll_isLocal v _) fun _ => .pure _
  | receive arrival => exact receive_isLocal v p arrival

theorem finish_isLocal : IsLocal p.finish.run := by
  unfold finish
  split
  · exact .bind_except (Sys.writeReports_isLocal _) fun _ => .pure _
  · exact .pure _

theorem take_isLocal (s : Step) : IsLocal (s.take v p) := by
  have recorded (e : Event) : IsLocal (do Sys.record e; return (p, Verdict.goOn)) :=
    .bind (Sys.record_isLocal e) fun _ => .pure _
  cases s with
  | wait delay found failure =>
    refine .bind (.change fun c => ?_) fun _ => recorded (.call (.poll found) failure)
    let later : Circumstances :=
      { c with
        monotonic := c.monotonic.after delay
        wallMicroseconds := c.wallMicroseconds + delay.microseconds }
    exact ⟨later, [], [], fun k => (k.left_nil later).symm⟩
  | readSignal failure => exact recorded _
  | readTimer failure => exact recorded _
  | handle input =>
    rw [Step.take_handle]
    exact handle_isLocal v p input
  | tell topic message => exact .bind (Sys.tell_isLocal v _) fun _ => .pure _
  | stop => exact .pure _

end Prober

structure Occasion where
  circumstances : Circumstances
  step : Step

/-- What is seen of a prober on an occasion: the time, its verdict, its state afterwards, what its
kernel remembers, and what it reported. -/
structure Reaction where
  time : Instant
  verdict : Verdict
  prober : Prober
  record : History
  report : String

namespace Occasion

variable (v : Verbosity) (p : Prober) (o : Occasion)

def meet : Sys Reaction := fun k =>
  let (went, k') := (o.step.take v p).run (k.under o.circumstances)
  (⟨o.circumstances.monotonic, went.2, went.1, k.since k', k.reportSince k'⟩, k')

theorem meet_run (k : Kernel) :
    (o.meet v p).run k =
      let (went, k') := (o.step.take v p).run (k.under o.circumstances)
      (⟨o.circumstances.monotonic, went.2, went.1, k.since k', k.reportSince k'⟩, k') := rfl

theorem meet_same (k k' : Kernel) : ((o.meet v p).run k).1 = ((o.meet v p).run k').1 := by
  obtain ⟨went, c', g, out, taken⟩ := Prober.take_isLocal v p o.step o.circumstances
  have seen (k : Kernel) : ((o.meet v p).run k).1 =
      ⟨o.circumstances.monotonic, went.2, went.1, g,
        String.join ((out.filter (·.1 = .report)).map Prod.snd)⟩ := by
    rw [meet_run, taken k]
    simp only [Kernel.since, Kernel.reportSince, Kernel.left, List.drop_left]
  rw [seen k, seen k']

end Occasion

namespace EventLoop

variable (v : Verbosity)

def meetAll (p : Prober) : List Occasion → Sys (Prober × List Reaction)
  | [] => return (p, [])
  | o :: rest => do
    let r ← o.meet v p
    let (p, reactions) ← meetAll r.prober rest
    return (p, r :: reactions)

theorem meetAll_cons (p : Prober) (o : Occasion) (rest : List Occasion) (k : Kernel) :
    (meetAll v p (o :: rest)).run k =
      let first := (o.meet v p).run k
      let later := (meetAll v first.1.prober rest).run first.2
      ((later.1.1, first.1 :: later.1.2), later.2) := rfl

theorem walk_meets (p : Prober) (steps : List Step) (k : Kernel) :
    ∃ occasions : List Occasion, occasions.map Occasion.step = steps ∧
      let met := (meetAll v p occasions).run k
      (walk v p steps).run k = ((met.1.1, met.1.2.map Reaction.verdict), met.2) := by
  induction steps generalizing p k with
  | nil => exact ⟨[], rfl, rfl⟩
  | cons s rest ih =>
    obtain ⟨occasions, same, met⟩ := ih ((s.take v p).run k).1.1 ((s.take v p).run k).2
    let o : Occasion := ⟨k.circumstances, s⟩
    have first : (s.take v p).run (k.under k.circumstances) = (s.take v p).run k := by
      rw [k.under_circumstances]
    refine ⟨o :: occasions, by rw [List.map_cons, same], ?_⟩
    rw [walk_cons, meetAll_cons]
    simp only [met]
    rfl

theorem probe_meets (p : Prober) (k : Kernel) :
    ∃ occasions n,
      let met := (meetAll v p occasions).run k
      (probe v p).run k = (met.1.1, met.2) ∧
        met.1.2.map Reaction.verdict = List.replicate n .goOn ++ [.final] := by
  obtain ⟨steps, n, walked⟩ := probe_walk v p k
  obtain ⟨occasions, _, met⟩ := walk_meets v p (.handle .send :: steps) k
  have same := walked.symm.trans met
  refine ⟨occasions, n, Prod.ext ?_ ?_, (congrArg (·.1.2) same).symm⟩
  · exact congrArg (·.1.1) same
  · exact congrArg (·.2) same

end EventLoop

end ArpProbe
