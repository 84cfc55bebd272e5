import ArpProbe.Proofs.EventLoop.Expirations
import ArpProbe.Proofs.EventLoop.Going
import ArpProbe.Proofs.EventLoop.Status

/-! The budget of a run. The first probe and every expiration of the timer are counted, sent or not,
and no frame is sent beyond the count that was asked for. -/

namespace ArpProbe

open Kernel (Tries ReadsClock)

namespace Step

/-- What can come after the first probe: frames are only sent at a timer, and that has expired. -/
def Follows : Step → Prop
  | handle .send => False
  | handle (.timer n) => 0 < n.toNat
  | _ => True

def totalExpirations : List Step → Nat
  | [] => 0
  | s :: rest => s.expirations + totalExpirations rest

def timers (steps : List Step) : Nat := steps.countP isTimer

theorem totalExpirations_append (earlier later : List Step) :
    totalExpirations (earlier ++ later) =
      totalExpirations earlier + totalExpirations later := by
  induction earlier with
  | nil => exact (Nat.zero_add _).symm
  | cons s rest ih => rw [List.cons_append, totalExpirations, ih, totalExpirations, Nat.add_assoc]

end Step

open Step (totalExpirations timers)

namespace Prober.Spends

variable {count : Int} {spent : Nat} {p : Prober} (v : Verbosity) (k : Kernel)

theorem tries_idle {s : Step} (idle : s.isSending = false) :
    Tries 0 k ((s.take v p).run k).2 := by
  obtain ⟨attempts, probes⟩ := s.record_tries
  exact ⟨s.record, p.take_records v k idle, attempts, Nat.le_of_eq probes⟩

variable (a : Spends count spent p)
include a

theorem take_tries (pos : 0 < count) {s : Step} (follows : s.Follows)
    (room : spent + s.expirations < UInt64.size) :
    ∃ m, Tries m k ((s.take v p).run k).2 ∧
      m + (count.toNat - (spent + s.expirations)) ≤ count.toNat - spent := by
  have idle (still : s.isSending = false) : ∃ m, Tries m k ((s.take v p).run k).2 ∧
      m + (count.toNat - (spent + s.expirations)) ≤ count.toNat - spent :=
    ⟨0, tries_idle v k still, by omega⟩
  cases s with
  | wait | readSignal | readTimer | tell | stop => exact idle rfl
  | handle input =>
    cases input with
    | send => exact follows.elim
    | signal | receive => exact idle rfl
    | timer n =>
      have once : 0 < n.toNat := follows
      simp only [Step.expirations]
      by_cases beyond : 0 < count ∧ count < (spent + n.toNat : Nat)
      · refine ⟨0, .none ?_, by omega⟩
        exact congrArg Kernel.events (a.timer_beyond v k room beyond).2
      · rcases a.timer_within v k room beyond with ⟨_, tries⟩ | ⟨_, tries⟩
        · exact ⟨1, tries, by omega⟩
        · exact ⟨0, tries, by omega⟩

theorem timer_goOn (pos : 0 < count) {s : Step} (follows : s.Follows)
    (room : spent + s.expirations < UInt64.size)
    (going : ((s.take v p).run k).1.2 = .goOn) :
    (if s.isTimer then 1 else 0) + (count.toNat - (spent + s.expirations)) ≤
      count.toNat - spent := by
  cases s with
  | handle input =>
    cases input with
    | timer n =>
      have once : 0 < n.toNat := follows
      have within : ¬ (0 < count ∧ count < (spent + n.toNat : Nat)) := by
        intro beyond
        have final := (a.timer_beyond v k room beyond).1
        cases going.symm.trans final
      simp only [Step.isTimer, Step.expirations, if_true]
      omega
    | send | signal | receive => simp [Step.isTimer, Step.expirations]
  | wait | readSignal | readTimer | tell | stop => simp [Step.isTimer, Step.expirations]

end Prober.Spends

namespace EventLoop

open Prober (Spends)

variable {count : Int} {spent : Nat} {p : Prober} (v : Verbosity) (k : Kernel)

theorem length_walk (p : Prober) (steps : List Step) (k : Kernel) :
    ((walk v p steps).run k).1.2.length = steps.length := by
  induction steps generalizing p k with
  | nil => rfl
  | cons s rest ih =>
    rw [walk_cons]
    exact congrArg (· + 1) (ih _ _)

theorem nil_of_walk {p : Prober} {steps : List Step} {k : Kernel}
    (none : ((walk v p steps).run k).1.2 = []) : steps = [] := by
  rw [← List.length_eq_zero_iff, ← length_walk v p steps k, none]
  rfl

theorem walk_spends (a : Spends count spent p) (steps : List Step)
    (room : spent + totalExpirations steps < UInt64.size) :
    Spends count (spent + totalExpirations steps) ((walk v p steps).run k).1.1 := by
  induction steps generalizing spent p k with
  | nil => exact a
  | cons s rest ih =>
    rw [totalExpirations, ← Nat.add_assoc] at room ⊢
    exact ih _ (a.take v k (by omega)) room

theorem walk_tries (a : Spends count spent p) (pos : 0 < count) {steps : List Step}
    (follow : ∀ s ∈ steps, s.Follows) (room : spent + totalExpirations steps < UInt64.size) :
    ∃ m, Tries m k ((walk v p steps).run k).2 ∧ m ≤ count.toNat - spent := by
  -- By induction on the steps: each takes what it sends from what is left.
  induction steps generalizing spent p k with
  | nil => exact ⟨0, .none rfl, Nat.zero_le _⟩
  | cons s rest ih =>
    obtain ⟨follows, later⟩ := List.forall_mem_cons.mp follow
    rw [totalExpirations, ← Nat.add_assoc] at room
    have now : spent + s.expirations < UInt64.size := by omega
    obtain ⟨m, tries, taken⟩ := a.take_tries v k pos follows now
    obtain ⟨m', tries', left⟩ := ih _ (a.take v k now) later room
    exact ⟨m + m', tries.trans tries', by omega⟩

theorem walk_timers (a : Spends count spent p) (pos : 0 < count) {steps : List Step}
    (follow : ∀ s ∈ steps, s.Follows) (room : spent + totalExpirations steps < UInt64.size)
    {n : Nat} {last : Verdict}
    (going : ((walk v p steps).run k).1.2 = List.replicate n .goOn ++ [last]) :
    timers steps ≤ count.toNat - spent + 1 := by
  induction steps generalizing spent p k n with
  | nil => exact Nat.zero_le _
  | cons s rest ih =>
    obtain ⟨follows, later⟩ := List.forall_mem_cons.mp follow
    rw [totalExpirations, ← Nat.add_assoc] at room
    have now : spent + s.expirations < UInt64.size := by omega
    have counted : timers (s :: rest) = timers rest + if s.isTimer then 1 else 0 :=
      List.countP_cons
    rw [walk_cons] at going
    cases n with
    | zero =>
      have only : rest = [] := nil_of_walk v (List.cons.inj going).2
      subst only
      exact Nat.le_trans List.countP_le_length (Nat.le_add_left 1 _)
    | succ n =>
      obtain ⟨first, rest'⟩ := List.cons.inj going
      have taken := a.timer_goOn v k pos follows now first
      have left := ih _ (a.take v k now) later room rest'
      omega

theorem sent_le_attempts {modes : Modes} {timeout : Int} {endpoint : Endpoint} {q : Query}
    {index : Int32} {steps : List Step} {n : Nat} :
    let walked := (walk v (.fresh modes count timeout endpoint q index) steps).run k
    Tries n k walked.2 → walked.1.1.stuck = false → walked.1.1.session.counters.sent.toNat ≤ n := by
  intro walked tries going
  have accounted := Accounted.continues.walk (Accounted.take v) steps
    (.fresh modes count timeout endpoint q index) k
  have account := accounted.account (Account.fresh modes count timeout endpoint q index) going
  rw [account.sent, UInt32.toNat_ofNat']
  exact Nat.le_trans (Nat.mod_le _ _) tries.probes_since

def probed (p : Prober) (steps : List Step) (k : Kernel) : (Prober × List Verdict) × Kernel :=
  (walk v p (.handle .send :: steps)).run k

def timed (p : Prober) (earlier : List Step) (n : UInt64) (k : Kernel) :
    (Prober × Verdict) × Kernel :=
  (Step.take v (probed v p earlier k).1.1 (.handle (.timer n))).run (probed v p earlier k).2

theorem timed_decides (a : Spends count 1 p) (earlier : List Step) (n : UInt64)
    (room : 1 + totalExpirations earlier + n.toNat < UInt64.size) :
    let total : Int := 1 + totalExpirations earlier + n.toNat
    let before := probed v p earlier k
    let now := timed v p earlier n k
    (0 < count ∧ count < total → now.1.2 = .final ∧ now.2 = before.2) ∧
      (count ≤ 0 ∨ total ≤ count → now.1.1.stuck = false →
        now.1.2 = .goOn ∧ (before.2.since now.2).attempts = 1) := by
  intro total before now
  have all : totalExpirations (.handle .send :: earlier) = totalExpirations earlier :=
    Nat.zero_add _
  have spends := walk_spends v k a (.handle .send :: earlier) (by omega)
  rw [all] at spends
  constructor
  · intro beyond
    exact spends.timer_beyond v before.2 room (by omega)
  · intro within going
    rcases spends.timer_within v before.2 room (by omega) with ⟨goOn, tries⟩ | ⟨stuck, _⟩
    · exact ⟨goOn, tries.attempts_since⟩
    · cases going.symm.trans stuck

theorem probed_tries (a : Spends count 1 p) (pos : 0 < count) {steps : List Step}
    (follow : ∀ s ∈ steps, s.Follows) (room : 1 + totalExpirations steps < UInt64.size) :
    (∃ m, Tries m k (probed v p steps k).2 ∧ m ≤ count.toNat) ∧
      ∀ n last, (probed v p steps k).1.2 = List.replicate n .goOn ++ [last] →
        timers steps ≤ count.toNat := by
  have sent := a.take v k (s := .handle .send) (by decide)
  constructor
  · obtain ⟨m, tries, left⟩ := walk_tries v ((p.send v).run k).2 sent pos follow room
    rcases p.send_tries v k with ⟨_, first⟩ | ⟨_, first⟩
    · exact ⟨1 + m, first.trans tries, by omega⟩
    · exact ⟨0 + m, first.trans tries, by omega⟩
  · intro n last going
    rw [probed, walk_cons] at going
    cases n with
    | zero =>
      rw [nil_of_walk v (List.cons.inj going).2]
      exact Nat.zero_le _
    | succ n =>
      have met := walk_timers v _ sent pos follow room (List.cons.inj going).2
      omega

theorem timed_goes {endpoint : Endpoint} {modes : Modes} {timeout : Int} {q : Query} {index : Int32}
    (level : endpoint.IsLevel) (reads : k.ReadsClock) (earlier : List Step) (n : UInt64) :
    (timed v (.fresh modes count timeout endpoint q index) earlier n k).1.1.stuck = false := by
  let fresh := Prober.fresh modes count timeout endpoint q index
  have fresh_level : fresh.session.endpoint.IsLevel := level
  obtain ⟨going, level', reads'⟩ := walk_goes v fresh_level reads (.handle .send :: earlier)
  exact (Prober.take_goes v level' reads' _).1.trans going

/-- Every run of a fresh prober keeps within its count, unless the sum of expirations, in which the
first probe counts as one, overflows. A timer sends as long as the sum is within the count; after
that it ends the loop and sends nothing, however often it is asked. Without a count it always sends.
Only a prober that gets stuck sends less, and none does with addresses of one length and a clock
that can be read. -/
theorem budget_kept (modes : Modes) (count timeout : Int) (endpoint : Endpoint) (q : Query)
    (index : Int32) {steps : List Step} (follow : ∀ s ∈ steps, s.Follows)
    (room : 1 + totalExpirations steps < UInt64.size) :
    let fresh := Prober.fresh modes count timeout endpoint q index
    (∀ earlier n later, steps = earlier ++ .handle (.timer n) :: later →
      let total : Int := 1 + totalExpirations earlier + n.toNat
      let before := probed v fresh earlier k
      let now := timed v fresh earlier n k
      (0 < count ∧ count < total → now.1.2 = .final ∧ now.2 = before.2) ∧
      (count ≤ 0 ∨ total ≤ count → now.1.1.stuck = false →
        now.1.2 = .goOn ∧ (before.2.since now.2).attempts = 1) ∧
      (endpoint.IsLevel → k.ReadsClock → now.1.1.stuck = false)) ∧
    (∀ earlier n between n' later,
      steps = earlier ++ .handle (.timer n) :: between ++ .handle (.timer n') :: later →
      let now := timed v fresh earlier n k
      now.1.1.stuck = false → now.1.2 = .final →
        (timed v fresh (earlier ++ .handle (.timer n) :: between) n' k).1.2 = .final) ∧
    (0 < count → ∀ earlier later, steps = earlier ++ later →
      let now := probed v fresh earlier k
      ((k.since now.2).attempts : Int) ≤ count ∧
        (now.1.1.stuck = false → (now.1.1.session.counters.sent.toNat : Int) ≤ count) ∧
        ∀ n last, now.1.2 = List.replicate n .goOn ++ [last] → (timers earlier : Int) ≤ count) := by
  intro fresh
  have start : Spends count 1 fresh := ⟨rfl, rfl⟩
  have decided (earlier : List Step) (n : UInt64) (later : List Step)
      (split : steps = earlier ++ .handle (.timer n) :: later) :=
    timed_decides v k start earlier n (by
      rw [split, Step.totalExpirations_append, totalExpirations, Step.expirations] at room
      omega)
  refine ⟨?_, ?_, ?_⟩
  · intro earlier n later split
    obtain ⟨beyond, within⟩ := decided earlier n later split
    exact ⟨beyond, within, fun level reads => timed_goes v k level reads earlier n⟩
  · intro earlier n between n' later split now going final
    obtain ⟨_, within⟩ := decided earlier n (between ++ .handle (.timer n') :: later)
      (by rw [split, List.append_assoc, List.cons_append])
    obtain ⟨beyond, _⟩ := decided (earlier ++ .handle (.timer n) :: between) n' later split
    -- The first timer was beyond the count, so the sum at the second is.
    refine (beyond ?_).1
    have spent : 0 < count ∧ count < 1 + totalExpirations earlier + n.toNat := by
      by_cases inside : count ≤ 0 ∨ 1 + (totalExpirations earlier : Int) + n.toNat ≤ count
      · cases final.symm.trans (within inside going).1
      · omega
    rw [Step.totalExpirations_append, totalExpirations, Step.expirations]
    omega
  · intro pos earlier later split
    subst split
    have before : 1 + totalExpirations earlier < UInt64.size := by
      rw [Step.totalExpirations_append] at room
      omega
    obtain ⟨⟨m, tries, least⟩, met⟩ :=
      probed_tries v k start pos (fun s member => follow s (List.mem_append_left _ member)) before
    refine ⟨?_, fun going => ?_, fun n last goOn => ?_⟩
    · rw [tries.attempts_since]
      omega
    · have sent : (probed v fresh earlier k).1.1.session.counters.sent.toNat ≤ m :=
        sent_le_attempts v k tries going
      omega
    · have few := met n last goOn
      omega

theorem budget_kept_coalesced :
    let endpoint : Endpoint := ⟨1, [2, 0, 0, 0, 0, 1], List.replicate 6 255⟩
    let q : Query := ⟨⟨10, 0, 0, 9⟩, ⟨10, 0, 0, 1⟩, false⟩
    let k : Kernel := { sends := [.failed 105, .short 3] }
    let between : List Step := [.handle (.signal 1), .handle (.receive (.failed 100))]
    let steps : List Step :=
      .handle (.timer 1) :: between ++ [.handle (.timer 3), .handle (.timer 1)]
    let fresh := Prober.fresh { quiet := true } 2 0 endpoint q 2
    let second := .handle (.timer 1) :: between
    (∀ s ∈ steps, s.Follows) ∧ 1 + totalExpirations steps < UInt64.size ∧
      (timed {} fresh [] 1 k).1.2 = .goOn ∧
      ((probed {} fresh [] k).2.since (timed {} fresh [] 1 k).2).attempts = 1 ∧
      (timed {} fresh second 3 k).1.2 = .final ∧
      (timed {} fresh (second ++ [.handle (.timer 3)]) 1 k).1.2 = .final ∧
      ((k.since (probed {} fresh steps k).2).attempts : Int) ≤ 2 := by
  intro endpoint q k between steps fresh second
  have level : endpoint.IsLevel := rfl
  have reads : k.ReadsClock := fun e member => by cases member
  have follow : ∀ s ∈ steps, s.Follows := by
    intro s member
    simp only [steps, between, List.cons_append, List.nil_append, List.mem_cons, List.not_mem_nil,
      or_false] at member
    rcases member with rfl | rfl | rfl | rfl | rfl
    · exact (by decide : 0 < (1 : UInt64).toNat)
    · trivial
    · trivial
    · exact (by decide : 0 < (3 : UInt64).toNat)
    · exact (by decide : 0 < (1 : UInt64).toNat)
  have room : 1 + totalExpirations steps < UInt64.size := by decide
  obtain ⟨decided, again, bounded⟩ :=
    budget_kept {} k { quiet := true } 2 0 endpoint q 2 follow room
  have same : fresh = .fresh { quiet := true } 2 0 endpoint q 2 := rfl
  rw [← same] at decided again bounded
  obtain ⟨_, within, goes⟩ :=
    decided [] 1 (between ++ [.handle (.timer 3), .handle (.timer 1)]) rfl
  obtain ⟨goOn, once⟩ := within (.inr (by decide)) (goes level reads)
  obtain ⟨beyond, _, goes'⟩ := decided second 3 [.handle (.timer 1)] rfl
  obtain ⟨final, _⟩ := beyond (by decide)
  have final' := again second 3 [] 1 [] rfl (goes' level reads) final
  obtain ⟨few, _⟩ := bounded (by decide) steps [] (List.append_nil _).symm
  exact ⟨follow, room, goOn, once, final, final', few⟩

end EventLoop

end ArpProbe
