import ArpProbe.Prober
import ArpProbe.Proofs.Kernel.Running
import ArpProbe.Proofs.Prober.History

/-! The part of a kernel that a prober can notice: the clocks and the scripts of calls, of the link
and of the streams. What local programs come to, record and write is decided by this part alone, on
whatever kernel they run. -/

namespace ArpProbe

structure Circumstances where
  wallMicroseconds : Nat
  monotonic : Instant
  faults : CallKind → List Errno
  sends : List SendOutcome
  streams : StreamFaults
  laterStreams : List StreamFaults

abbrev Output := List (Channel × String)

namespace Kernel

def circumstances (k : Kernel) : Circumstances where
  wallMicroseconds := k.wallMicroseconds
  monotonic := k.monotonic
  faults := k.faults
  sends := k.sends
  streams := k.streams
  laterStreams := k.laterStreams

def under (k : Kernel) (c : Circumstances) : Kernel :=
  { k with
    wallMicroseconds := c.wallMicroseconds
    monotonic := c.monotonic
    faults := c.faults
    sends := c.sends
    streams := c.streams
    laterStreams := c.laterStreams }

def left (k : Kernel) (c : Circumstances) (g : History) (o : Output) : Kernel :=
  { k.under c with events := k.events ++ g, output := k.output ++ o }

theorem under_circumstances (k : Kernel) : k.under k.circumstances = k := rfl

variable (k : Kernel) (c c' : Circumstances) (g g' : History) (o o' : Output)

theorem left_nil : k.left c [] [] = k.under c := by
  simp only [left, under, List.append_nil]

theorem under_left : (k.left c g o).under c = k.left c g o := rfl

theorem left_left : (k.left c g o).left c' g' o' = k.left c' (g ++ g') (o ++ o') := by
  simp only [left, under, List.append_assoc]

theorem record_under (e : Event) : (k.under c).record e = k.left c [e] [] := by
  simp only [left, record, under, List.append_nil]

theorem record_left (e : Event) : (k.left c g o).record e = k.left c (g ++ [e]) o := by
  simp only [left, record, under, List.append_assoc]

theorem write_under (channel : Channel) (text : String) :
    (k.under c).write channel text = k.left c [] [(channel, text)] := by
  simp only [left, write, under, List.append_nil]

end Kernel

namespace Circumstances

def afterStream (c : Circumstances) : Circumstances :=
  match c.laterStreams with
  | [] => c
  | next :: later => { c with streams := next, laterStreams := later }

def afterFault (c : Circumstances) (kind : CallKind) : Circumstances :=
  match c.faults kind with
  | [] => c
  | _ :: es => { c with faults := fun x => if x = kind then es else c.faults x }

def fault? (c : Circumstances) (kind : CallKind) : Option Errno :=
  match c.faults kind with
  | [] => none
  | e :: _ => if e = 0 then none else some e

end Circumstances

namespace Kernel

variable (k : Kernel) (c : Circumstances)

theorem takeStreams_under :
    (k.under c).takeStreams = (c.streams, k.under c.afterStream) := by
  unfold takeStreams Circumstances.afterStream
  change (match c.laterStreams with | [] => _ | next :: later => _) = _
  cases c.laterStreams <;> rfl

theorem takeFault_under (kind : CallKind) :
    (k.under c).takeFault kind = (c.fault? kind, k.under (c.afterFault kind)) := by
  unfold takeFault Circumstances.fault? Circumstances.afterFault
  change (match c.faults kind with | [] => _ | e :: es => _) = _
  cases c.faults kind <;> rfl

theorem fault?_circumstances (kind : CallKind) :
    k.circumstances.fault? kind = (k.takeFault kind).1 := by
  have met := k.takeFault_under k.circumstances kind
  rw [under_circumstances] at met
  rw [met]

end Kernel

namespace Sys

variable {ε ε' α β : Type}

/-- In given circumstances the program comes to the same, records the same and writes the same on
every kernel. -/
def IsLocal (x : Sys α) : Prop :=
  ∀ c, ∃ a c' g o, ∀ k : Kernel, x.run (k.under c) = (a, k.left c' g o)

namespace IsLocal

theorem pure (a : α) : IsLocal (pure a : Sys α) :=
  fun c => ⟨a, c, [], [], fun k => by rw [k.left_nil]; rfl⟩

theorem later {x : Sys α} (hx : IsLocal x) (c : Circumstances) (g : History) (o : Output) :
    ∃ a c' g' o', ∀ k : Kernel, x.run (k.left c g o) = (a, k.left c' g' o') := by
  obtain ⟨a, c', g', o', same⟩ := hx c
  refine ⟨a, c', g ++ g', o ++ o', fun k => ?_⟩
  have there := same (k.left c g o)
  rwa [k.under_left, k.left_left] at there

theorem bind {x : Sys α} {f : α → Sys β} (hx : IsLocal x) (hf : ∀ a, IsLocal (f a)) :
    IsLocal (x >>= f) := by
  intro c
  obtain ⟨a, c₁, g, o, first⟩ := hx c
  obtain ⟨b, c₂, g', o', second⟩ := (hf a).later c₁ g o
  exact ⟨b, c₂, g', o', fun k => by rw [run_bind, first k, second k]⟩

theorem bind_except {x : ExceptT ε Sys α} {f : α → ExceptT ε Sys β} (hx : IsLocal x.run)
    (hf : ∀ a, IsLocal (f a).run) : IsLocal (x >>= f).run := by
  intro c
  obtain ⟨r, c₁, g, o, first⟩ := hx c
  cases r with
  | error e => exact ⟨.error e, c₁, g, o, fun k => by rw [run_except_bind, first k]⟩
  | ok a =>
    obtain ⟨b, c₂, g', o', second⟩ := (hf a).later c₁ g o
    exact ⟨b, c₂, g', o', fun k => by rw [run_except_bind, first k]; exact second k⟩

theorem change {f : Kernel → Kernel}
    (hf : ∀ c, ∃ c' g o, ∀ k : Kernel, f (k.under c) = k.left c' g o) :
    IsLocal (modify f : Sys PUnit) := by
  intro c
  obtain ⟨c', g, o, same⟩ := hf c
  exact ⟨⟨⟩, c', g, o, fun k => by rw [← same k]; rfl⟩

theorem forM {act : α → Sys PUnit} (h : ∀ a, IsLocal (act a)) (as : List α) :
    IsLocal (as.forM act) := by
  induction as with
  | nil => exact .pure PUnit.unit
  | cons a rest ih => exact (h a).bind fun _ => ih

theorem forM_except {act : α → ExceptT ε Sys PUnit} (h : ∀ a, IsLocal (act a).run) (as : List α) :
    IsLocal (as.forM act).run := by
  induction as with
  | nil => exact .pure _
  | cons a rest ih => exact (h a).bind_except fun _ => ih

end IsLocal

theorem record_isLocal (e : Event) : IsLocal (record e) :=
  .change fun c => ⟨c, [e], [], fun k => k.record_under c e⟩

theorem print_isLocal (channel : Channel) (text : String) : IsLocal (print channel text) :=
  .change fun c => ⟨c, [], [(channel, text)], fun k => k.write_under c channel text⟩

theorem debug_isLocal (v : Verbosity) (detail : Detail) (topic : Topic) (message : String) :
    IsLocal (debug v detail topic message) := by
  unfold debug logLine
  split
  · intro c
    let line := v.line (c.wallMicroseconds / 1000000) topic.name message
    exact ⟨(), c, [], [(.log, line)], fun k => congrArg _ (k.write_under c .log line)⟩
  · exact .pure ()

theorem onStream_isLocal (pick : StreamFaults → Option Errno) {act : Sys Unit} (h : IsLocal act) :
    IsLocal (onStream pick act).run := by
  intro c
  cases met : pick c.streams with
  | some e =>
    refine ⟨.error (.system e), c.afterStream, [], [], fun k => ?_⟩
    change onStream pick act (k.under c) = _
    unfold onStream
    simp only [ExceptT.mk, k.takeStreams_under, met, k.left_nil]
  | none =>
    obtain ⟨a, c', g, o, acts⟩ := h c.afterStream
    refine ⟨.ok a, c', g, o, fun k => ?_⟩
    change onStream pick act (k.under c) = _
    unfold onStream
    simp only [ExceptT.mk, k.takeStreams_under, met]
    change (act.map Except.ok).run (k.under c.afterStream) = _
    rw [show act.map Except.ok = act >>= fun a => Pure.pure (.ok a) from rfl, run_bind, acts k]
    rfl

theorem writeReport_isLocal (text : String) : IsLocal (writeReport text).run :=
  onStream_isLocal _ (print_isLocal .report text)

theorem writeReports_isLocal (texts : List String) : IsLocal (writeReports texts).run :=
  (IsLocal.forM_except writeReport_isLocal texts).bind_except fun _ =>
    onStream_isLocal _ (.pure ())

theorem tell_isLocal (v : Verbosity) (n : Note) : IsLocal (tell v n) := by
  cases n with
  | report line flush topic =>
    refine .bind ?_ fun r => ?_
    · cases flush
      · exact writeReport_isLocal _
      · exact writeReports_isLocal _
    · cases r with
      | ok => exact .pure ()
      | error cause => exact debug_isLocal v _ _ _
  | failure topic message =>
    refine .bind (onStream_isLocal _ (print_isLocal .diagnostic _)) fun r => ?_
    cases r with
    | ok => exact .pure ()
    | error cause => exact debug_isLocal v _ _ _
  | detail detail topic message => exact debug_isLocal v _ _ _

theorem clock_isLocal : IsLocal clock.run := by
  intro c
  cases h : c.fault? .clock with
  | some e =>
    refine ⟨.error (.system e), c.afterFault .clock, [], [], fun k => ?_⟩
    rw [run_clock, k.takeFault_under, h, k.left_nil]
  | none =>
    refine ⟨.ok (c.afterFault .clock).monotonic, c.afterFault .clock, [], [], fun k => ?_⟩
    rw [run_clock, k.takeFault_under, h, k.left_nil]
    rfl

theorem send_under (index : Int32) (destination frame : Octets) (k : Kernel) (c : Circumstances) :
    (send index destination frame).run.run (k.under c) =
      let call := Call.send index destination frame
      let rest : Circumstances := { c with sends := c.sends.tail }
      match (c.sends.headD .complete).written frame with
      | .ok n => (.ok n, k.left rest [.call call none, .written frame n] [])
      | .error e => (.error (.system e), k.left rest [.call call (some e)] []) := by
  have drawn : { k.under c with sends := (k.under c).sends.tail } =
      k.under { c with sends := c.sends.tail } := rfl
  rw [run_send, drawn]
  simp only [k.record_under, k.record_left]
  rfl

theorem send_isLocal (index : Int32) (destination frame : Octets) :
    IsLocal (send index destination frame).run := by
  intro c
  simp only [send_under]
  cases (c.sends.headD .complete).written frame with
  | ok n => exact ⟨_, _, _, _, fun k => rfl⟩
  | error e => exact ⟨_, _, _, _, fun k => rfl⟩

theorem receive_isLocal (arrival : Arrival) : IsLocal (receive arrival).run := by
  cases arrival with
  | failed e =>
    exact fun c => ⟨_, c, [.call .receive (some e)], [],
      fun k => congrArg _ (k.record_under c (.call .receive (some e)))⟩
  | frame octets link =>
    let packet := octets.take receiveCapacity
    intro c
    refine ⟨.ok (packet, link), c, [.call .receive none, .taken packet link], [], fun k => ?_⟩
    rw [run_receive_frame, k.record_under, k.record_left]
    rfl

end Sys

end ArpProbe
