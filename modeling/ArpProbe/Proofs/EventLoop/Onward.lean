import ArpProbe.Proofs.EventLoop.Fold
import ArpProbe.Proofs.Prober.Moves

/-! Steps taken in any number and order, also beyond a final one, by a prober that is not stuck. The
loop goes on like this, so what holds of all sequences of steps holds of it. -/

namespace ArpProbe

namespace Step

def isSending : Step → Bool
  | handle .send | handle (.timer _) => true
  | _ => false

def record : Step → History
  | wait _ found failure => [.call (.poll found) failure]
  | readSignal failure => [.call .readSignal failure]
  | readTimer failure => [.call .readTimer failure]
  | handle (.receive arrival) => arrival.record
  | _ => []

theorem record_idle (s : Step) : s.record.any Event.isProbe = false := by
  cases s with
  | handle input =>
    cases input with
    | receive arrival => cases arrival <;> rfl
    | send | timer | signal => rfl
  | wait | readSignal | readTimer | tell | stop => rfl

end Step

namespace Prober

variable (v : Verbosity) (p : Prober) (k : Kernel)

theorem take_records {s : Step} (idle : s.isSending = false) :
    ((s.take v p).run k).2.events = k.events ++ s.record := by
  cases s with
  | wait | readSignal | readTimer => rfl
  | stop => exact (List.append_nil _).symm
  | tell topic message =>
    exact (Sys.within_tell v (.failure topic message) k).events.trans (List.append_nil _).symm
  | handle input =>
    cases input with
    | send | timer => cases idle
    | signal number => exact (events_told v k _).trans (List.append_nil _).symm
    | receive arrival => exact events_receive v p k arrival

theorem take_leads (s : Step) : p.Leads k ((s.take v p).run k).1.1 ((s.take v p).run k).2 := by
  cases s with
  | wait delay found failure => exact .move (.waited (c := .poll found) rfl failure) rfl
  | readSignal failure => exact .move (.waited (c := .readSignal) rfl failure) rfl
  | readTimer failure => exact .move (.waited (c := .readTimer) rfl failure) rfl
  | handle input =>
    rw [Step.take_handle]
    exact handle_leads v p k input
  | tell topic message =>
    exact .still p (Sys.within_tell v (.failure topic message) k).events
  | stop => exact .still p rfl

theorem send_going : ((p.send v).run k).1.1.stuck = p.stuck ∨ ((p.send v).run k).1.2 = .final := by
  obtain ⟨faults, stuck | ⟨octets, _, sends⟩⟩ := send_cases v p k
  · rw [stuck]
    exact .inr rfl
  · rw [sends]
    exact .inl (p.stuck_afterSend _ _ _)

theorem receive_going (arrival : Arrival) :
    ((p.receive v arrival).run k).1.1.stuck = p.stuck ∨
      ((p.receive v arrival).run k).1.2 = .final := by
  cases arrival with
  | failed e => exact .inl rfl
  | frame octets link =>
    obtain ⟨faults, stuck | received⟩ := receive_frame_cases v p k octets link
    · rw [stuck]
      exact .inr rfl
    · rw [received]
      exact .inl (p.stuck_afterReceive _ _ _)

theorem take_going (s : Step) :
    ((s.take v p).run k).1.1.stuck = p.stuck ∨ ((s.take v p).run k).1.2 = .final := by
  cases s with
  | handle input =>
    cases input with
    | send => exact send_going v p k
    | timer expirations =>
      simp only [Step.take]
      rcases timer_cases v p k expirations with ⟨_, sends⟩ | ⟨_, ends⟩
      · rw [sends]
        exact send_going v _ k
      · rw [ends]
        exact .inr rfl
    | signal number => exact .inl rfl
    | receive arrival => exact receive_going v p k arrival
  | _ => exact .inl rfl

end Prober

namespace EventLoop

variable (v : Verbosity)

/-- Takes all steps, whatever their verdicts. A prober that is stuck takes none. -/
def carryOn (p : Prober) : List Step → Sys Prober
  | [] => return p
  | s :: rest =>
    if p.stuck then return p
    else do
      let (p, _) ← s.take v p
      carryOn p rest

theorem carryOn_stuck {p : Prober} (stuck : p.stuck = true) (steps : List Step) (k : Kernel) :
    (carryOn v p steps).run k = (p, k) := by
  cases steps with
  | nil => rfl
  | cons s rest => rw [carryOn, if_pos stuck]; rfl

theorem carryOn_cons {p : Prober} (going : p.stuck = false) (s : Step) (rest : List Step)
    (k : Kernel) :
    (carryOn v p (s :: rest)).run k =
      (carryOn v ((s.take v p).run k).1.1 rest).run ((s.take v p).run k).2 := by
  rw [carryOn, if_neg (by simp [going])]
  rfl

theorem carryOn_append (p : Prober) (earlier later : List Step) (k : Kernel) :
    (carryOn v p (earlier ++ later)).run k =
      (carryOn v ((carryOn v p earlier).run k).1 later).run ((carryOn v p earlier).run k).2 := by
  induction earlier generalizing p k with
  | nil => rfl
  | cons s rest ih =>
    cases going : p.stuck with
    | true => rw [carryOn_stuck v going, carryOn_stuck v going, carryOn_stuck v going]
    | false => rw [List.cons_append, carryOn_cons v going, carryOn_cons v going, ih]

theorem carryOn_leads (p : Prober) (steps : List Step) (k : Kernel) :
    p.Leads k ((carryOn v p steps).run k).1 ((carryOn v p steps).run k).2 := by
  induction steps generalizing p k with
  | nil => exact .still p rfl
  | cons s rest ih =>
    cases going : p.stuck with
    | true => rw [carryOn_stuck v going]; exact .still p rfl
    | false =>
      have first := p.take_leads v k s
      rw [carryOn_cons v going]
      cases still : ((s.take v p).run k).1.1.stuck with
      | true => rw [carryOn_stuck v still]; exact first
      | false => exact first.trans (still.trans going.symm) (ih _ _)

theorem untilFinal_carriesOn {p : Prober} (going : p.stuck = false) (steps : List Step)
    (k : Kernel) :
    ∃ n, (carryOn v p (steps.take n)).run k =
      (((untilFinal v p steps).run k).1.1, ((untilFinal v p steps).run k).2) := by
  induction steps generalizing p k with
  | nil => exact ⟨0, rfl⟩
  | cons s rest ih =>
    -- Unless it is final, a step does not get the prober stuck, so the others can follow.
    have still := p.take_going v k s
    rw [untilFinal, Sys.run_bind]
    rcases h : (s.take v p).run k with ⟨⟨p₁, _ | _⟩, k₁⟩ <;> rw [h] at still
    · obtain ⟨n, hn⟩ := ih (p := p₁) (by simpa [going] using still) k₁
      refine ⟨n + 1, ?_⟩
      rw [List.take_succ_cons, carryOn_cons v going, h]
      exact hn
    · refine ⟨1, ?_⟩
      rw [List.take_succ_cons, carryOn_cons v going, h]
      rfl

theorem probe_carriesOn {p : Prober} (going : p.stuck = false) (k : Kernel) :
    ∃ steps, (probe v p).run k = (carryOn v p steps).run k := by
  obtain ⟨n, hn⟩ := untilFinal_carriesOn v going (stepsOf k.wakes) k
  exact ⟨_, by rw [probe_run, hn]⟩

end EventLoop

end ArpProbe
