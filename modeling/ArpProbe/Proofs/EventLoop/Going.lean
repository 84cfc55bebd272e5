import ArpProbe.Proofs.EventLoop.Onward
import ArpProbe.Proofs.Prober.Lengths

/-! What keeps a prober going. Its frames can always be written, so nothing gets it stuck but a
clock that cannot be read. -/

namespace ArpProbe

namespace Kernel

def ReadsClock (k : Kernel) : Prop := ∀ e ∈ k.faults .clock, e = 0

def KeepsClock (k k' : Kernel) : Prop := k.ReadsClock → k'.ReadsClock

theorem KeepsClock.chains : Chains KeepsClock where
  refl _ := id
  trans first second := second ∘ first

theorem SameButText.keepsClock {k k' : Kernel} (same : SameButText k k') : KeepsClock k k' := by
  obtain ⟨_, _, _, rfl⟩ := same
  exact id

theorem keepsClock_takeFault (k : Kernel) (kind : CallKind) :
    KeepsClock k (k.takeFault kind).2 := by
  intro reads
  unfold takeFault
  split
  · exact reads
  · next e es found =>
    intro e' remains
    by_cases same : CallKind.clock = kind
    · -- What is left of the clock's own faults was there before.
      subst same
      exact reads e' (by simp_all)
    · exact reads e' (by simpa [same] using remains)

theorem keepsClock_scripted (k : Kernel) (c : Call) : KeepsClock k (k.scripted c).2 := by
  unfold scripted
  split
  · exact k.keepsClock_takeFault _
  · exact id

theorem takeFault_of_reads {k : Kernel} (reads : k.ReadsClock) :
    (k.takeFault .clock).1 = none := by
  unfold takeFault
  split
  · rfl
  · next e es found =>
    have zero : e = 0 := reads e (by rw [found]; exact List.mem_cons_self)
    exact if_pos zero

end Kernel

open Kernel (ReadsClock KeepsClock)

namespace Sys

theorem keepsClock_query {α : Type} (c : Call) (model : Kernel → Except Errno α) :
    Within KeepsClock (query c model).run :=
  KeepsClock.chains.query (fun k => k.keepsClock_scripted c) (fun _ _ => id) model

theorem keepsClock_clock : Within KeepsClock clock.run := by
  intro k reads
  have fault := k.keepsClock_takeFault .clock reads
  rw [run_clock]
  rcases h : k.takeFault .clock with ⟨_ | e, k₁⟩ <;> simpa only [h] using fault

theorem keepsClock_send (index : Int32) (destination frame : Octets) :
    Within KeepsClock (send index destination frame).run := by
  intro k reads
  rw [run_send]
  cases (k.sends.headD .complete).written frame <;> exact reads

end Sys

theorem Timer.keepsClock_start (interval : Duration) (v : Verbosity) :
    Sys.Within KeepsClock (start interval v).run := by
  refine KeepsClock.chains.bind_except (Sys.keepsClock_query _ _) fun _ => ?_
  refine KeepsClock.chains.bind_except Sys.keepsClock_clock fun now => ?_
  refine KeepsClock.chains.bind_except (Sys.keepsClock_query _ _) fun _ => ?_
  exact Sys.Within.lift _ fun k => (Sys.within_debug _ _ _ _ k).keepsClock

theorem EventLoop.keepsClock_arm (v : Verbosity) (interval : Duration) :
    Sys.Within KeepsClock (arm v interval).run := by
  have route : Sys.Within KeepsClock (SignalChannel.route SignalChannel.terminating).run := by
    unfold SignalChannel.route
    split
    · exact KeepsClock.chains.throw _
    · exact KeepsClock.chains.bind_except (Sys.keepsClock_query _ _) fun _ =>
        Sys.keepsClock_query _ _
  exact KeepsClock.chains.bind_except (route.adapt _) fun _ =>
    (Timer.keepsClock_start interval v).adapt _

namespace Prober

variable {p : Prober} {k : Kernel} (v : Verbosity)

theorem readsClock_told {k : Kernel} (reads : k.ReadsClock) (notes : List Note) :
    (k.told v notes).ReadsClock := (k.sameButText_told v notes).keepsClock reads

theorem send_goes (level : p.session.endpoint.IsLevel) (reads : k.ReadsClock) :
    ((p.send v).run k).1.1.stuck = p.stuck ∧ ((p.send v).run k).2.ReadsClock := by
  obtain ⟨octets, encoded, _⟩ := encode_frame level
  have readable := Kernel.takeFault_of_reads reads
  have still := k.keepsClock_takeFault .clock reads
  rw [send_run, encoded]
  rcases h : k.takeFault .clock with ⟨_ | e, k₁⟩ <;> rw [h] at readable still
  · have sent := Sys.keepsClock_send p.index p.session.endpoint.he octets k₁ still
    exact ⟨p.stuck_afterSend _ _ _, readsClock_told v sent _⟩
  · cases readable

theorem receive_goes (reads : k.ReadsClock) (arrival : Arrival) :
    ((p.receive v arrival).run k).1.1.stuck = p.stuck ∧
      ((p.receive v arrival).run k).2.ReadsClock := by
  rw [receive_run]
  cases arrival with
  | failed e => exact ⟨rfl, readsClock_told v (k := k.record _) reads _⟩
  | frame octets link =>
    let taken := (k.record (.call .receive none)).record
      (.taken (octets.take Sys.receiveCapacity) link)
    have readable := Kernel.takeFault_of_reads (k := taken) reads
    have still := taken.keepsClock_takeFault .clock reads
    simp only
    rcases h : taken.takeFault .clock with ⟨_ | e, k₁⟩ <;> rw [h] at readable still
    · exact ⟨p.stuck_afterReceive _ _ _, readsClock_told v still _⟩
    · cases readable

theorem take_goes (level : p.session.endpoint.IsLevel) (reads : k.ReadsClock) (s : Step) :
    ((s.take v p).run k).1.1.stuck = p.stuck ∧ ((s.take v p).run k).2.ReadsClock := by
  cases s with
  | wait | readSignal | readTimer | stop => exact ⟨rfl, reads⟩
  | tell topic message =>
    exact ⟨rfl, (Sys.within_tell v (.failure topic message) k).keepsClock reads⟩
  | handle input =>
    cases input with
    | send => exact send_goes v level reads
    | timer expirations =>
      simp only [Step.take]
      rcases timer_cases v p k expirations with ⟨_, sends⟩ | ⟨_, ends⟩
      · rw [sends]
        exact send_goes v (p := { p with session := _ }) level reads
      · rw [ends]
        exact ⟨rfl, reads⟩
    | signal number => exact ⟨rfl, readsClock_told v reads _⟩
    | receive arrival => exact receive_goes v reads arrival

theorem take_level (level : p.session.endpoint.IsLevel) (s : Step) :
    ((s.take v p).run k).1.1.session.endpoint.IsLevel := by
  obtain ⟨_, _, moves⟩ := p.take_leads v k s
  exact moves.level level

end Prober

namespace EventLoop

variable (v : Verbosity) {p : Prober} {k : Kernel}

theorem carryOn_goes (level : p.session.endpoint.IsLevel) (reads : k.ReadsClock)
    (steps : List Step) :
    ((carryOn v p steps).run k).1.stuck = p.stuck := by
  -- Level addresses and a readable clock last from step to step, and with both no step gets stuck.
  induction steps generalizing p k with
  | nil => rfl
  | cons s rest ih =>
    cases going : p.stuck with
    | true => rw [carryOn_stuck v going, going]
    | false =>
      obtain ⟨still, readable⟩ := Prober.take_goes v level reads s
      rw [carryOn_cons v going, ih (Prober.take_level v level s) readable, still, going]

theorem walk_goes (level : p.session.endpoint.IsLevel) (reads : k.ReadsClock) (steps : List Step) :
    let walked := (walk v p steps).run k
    walked.1.1.stuck = p.stuck ∧ walked.1.1.session.endpoint.IsLevel ∧ walked.2.ReadsClock := by
  induction steps generalizing p k with
  | nil => exact ⟨rfl, level, reads⟩
  | cons s rest ih =>
    obtain ⟨still, readable⟩ := Prober.take_goes v level reads s
    obtain ⟨going, later⟩ := ih (Prober.take_level v level s) readable
    rw [walk_cons]
    exact ⟨going.trans still, later⟩

end EventLoop

end ArpProbe
