import ArpProbe.Proofs.EventLoop.Onward
import ArpProbe.Proofs.Prober.Constants

/-! What a step spends. The expirations that a timer brings are added up; while they stay within the
count of a prober each timer sends one frame, and beyond it none. -/

namespace ArpProbe

def Event.isAttempt : Event → Bool
  | call (.send _ _ _) _ => true
  | _ => false

def History.attempts (h : History) : Nat := h.countP Event.isAttempt

theorem History.attempts_append (h g : History) :
    attempts (h ++ g) = attempts h + attempts g := List.countP_append

namespace Kernel

def Tries (n : Nat) (k k' : Kernel) : Prop :=
  ∃ g : History, k'.events = k.events ++ g ∧ g.attempts = n ∧ g.probes ≤ n

namespace Tries

variable {m n : Nat} {k k' k'' : Kernel}

theorem none (same : k'.events = k.events) : Tries 0 k k' :=
  ⟨[], by rw [same, List.append_nil], rfl, Nat.le_refl 0⟩

theorem trans (first : Tries m k k') (second : Tries n k' k'') : Tries (m + n) k k'' := by
  obtain ⟨g, recorded, tried, sent⟩ := first
  obtain ⟨g', recorded', tried', sent'⟩ := second
  refine ⟨g ++ g', by rw [recorded', recorded, List.append_assoc], ?_, ?_⟩
  · rw [History.attempts_append, tried, tried']
  · rw [History.probes_append]
    exact Nat.add_le_add sent sent'

theorem attempts_since (tries : Tries n k k') : (k.since k').attempts = n := by
  obtain ⟨g, recorded, tried, _⟩ := tries
  rw [since_of_append recorded, tried]

theorem probes_since (tries : Tries n k k') : (k.since k').probes ≤ n := by
  obtain ⟨g, recorded, _, sent⟩ := tries
  rw [since_of_append recorded]
  exact sent

end Tries

end Kernel

open Kernel (Tries)

namespace Step

def isTimer : Step → Bool
  | handle (.timer _) => true
  | _ => false

def expirations : Step → Nat
  | handle (.timer n) => n.toNat
  | _ => 0

theorem record_tries (s : Step) : s.record.attempts = 0 ∧ s.record.probes = 0 := by
  cases s with
  | handle input =>
    cases input with
    | receive arrival => cases arrival <;> exact ⟨rfl, rfl⟩
    | send | timer | signal => exact ⟨rfl, rfl⟩
  | wait | readSignal | readTimer | tell | stop => exact ⟨rfl, rfl⟩

end Step

namespace Prober

structure Spends (count : Int) (spent : Nat) (p : Prober) : Prop where
  count : p.session.count = count
  spent : p.session.totalExpires.toNat = spent

variable (v : Verbosity) (p : Prober) (k : Kernel)

theorem attempts_attempt (octets : Octets) (result : Except Errno Nat) :
    (p.attempt octets result).attempts = 1 := by
  cases result <;> rfl

theorem probes_attempt (octets : Octets) (result : Except Errno Nat) :
    (p.attempt octets result).probes ≤ 1 := by
  cases result with
  | ok n =>
    change History.probes [.written octets n] ≤ 1
    exact List.countP_le_length
  | error e => exact Nat.zero_le 1

theorem send_tries :
    let sent := (p.send v).run k
    (sent.1.2 = .goOn ∧ Tries 1 k sent.2) ∨ (sent.1.1.stuck = true ∧ Tries 0 k sent.2) := by
  obtain ⟨faults, stuck | ⟨octets, _, sends⟩⟩ := send_cases v p k
  · rw [stuck]
    exact .inr ⟨rfl, .none rfl⟩
  · rw [sends]
    exact .inl ⟨rfl, _, events_told .., p.attempts_attempt octets _, p.probes_attempt octets _⟩

variable {p}

theorem totalExpires_afterReceive (now : Instant) (packet : Octets) (link : LinkInfo) :
    (p.afterReceive now packet link).1.session.totalExpires = p.session.totalExpires := by
  rw [afterReceive]
  split
  · rfl
  · simp only [Session.accept, Session.turn]
    split <;> rfl

theorem take_expires {s : Step}
    (room : p.session.totalExpires.toNat + s.expirations < UInt64.size) :
    ((s.take v p).run k).1.1.session.totalExpires.toNat =
      p.session.totalExpires.toNat + s.expirations := by
  cases s with
  | handle input =>
    cases input with
    | send =>
      exact congrArg UInt64.toNat (p.send_keeps v k (f := Session.totalExpires) fun _ => rfl)
    | timer n =>
      have added : (p.session.totalExpires + n).toNat = p.session.totalExpires.toNat + n.toNat := by
        rw [UInt64.toNat_add]
        exact Nat.mod_eq_of_lt room
      simp only [Step.take]
      rcases timer_cases v p k n with ⟨_, sends⟩ | ⟨_, ends⟩
      · rw [sends, send_keeps v _ k (f := Session.totalExpires) fun _ => rfl]
        exact added
      · rw [ends]
        exact added
    | signal => rfl
    | receive arrival =>
      have kept := p.receive_keeps v k (f := Session.totalExpires) totalExpires_afterReceive arrival
      exact congrArg UInt64.toNat kept
  | wait | readSignal | readTimer | tell | stop => rfl

namespace Spends

variable {count : Int} {spent : Nat} (a : Spends count spent p)
include a

theorem take {s : Step} (room : spent + s.expirations < UInt64.size) :
    Spends count (spent + s.expirations) ((s.take v p).run k).1.1 where
  count := by
    obtain ⟨_, _, moves⟩ := p.take_leads v k s
    rw [moves.sameCount, a.count]
  spent := by rw [take_expires v k (a.spent ▸ room), a.spent]

theorem verdict_expire {n : UInt64} (room : spent + n.toNat < UInt64.size) :
    (p.session.expire n).2 =
      if 0 < count ∧ count < (spent + n.toNat : Nat) then .final else .goOn := by
  have added : (p.session.totalExpires + n).toNat = spent + n.toNat := by
    rw [UInt64.toNat_add, a.spent]
    exact Nat.mod_eq_of_lt room
  simp only [Session.expire, a.count, added]

theorem timer_beyond {n : UInt64} (room : spent + n.toNat < UInt64.size)
    (beyond : 0 < count ∧ count < (spent + n.toNat : Nat)) :
    ((p.timer v n).run k).1.2 = .final ∧ ((p.timer v n).run k).2 = k := by
  have verdict := a.verdict_expire room
  rw [if_pos beyond] at verdict
  rcases timer_cases v p k n with ⟨goOn, _⟩ | ⟨_, ends⟩
  · cases verdict.symm.trans goOn
  · rw [ends]
    exact ⟨rfl, rfl⟩

theorem timer_within {n : UInt64} (room : spent + n.toNat < UInt64.size)
    (within : ¬ (0 < count ∧ count < (spent + n.toNat : Nat))) :
    let sent := (p.timer v n).run k
    (sent.1.2 = .goOn ∧ Tries 1 k sent.2) ∨ (sent.1.1.stuck = true ∧ Tries 0 k sent.2) := by
  have verdict := a.verdict_expire room
  rw [if_neg within] at verdict
  rcases timer_cases v p k n with ⟨_, sends⟩ | ⟨final, _⟩
  · rw [sends]
    exact send_tries v _ k
  · cases verdict.symm.trans final

end Spends

end Prober

end ArpProbe
