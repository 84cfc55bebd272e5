import ArpProbe.Proofs.EventLoop.Accounting
import ArpProbe.Proofs.EventLoop.Budget
import ArpProbe.Proofs.EventLoop.Entries

/-! How answers end a run. An answer is the last one if just then as many came in as were asked for,
so a run ends on time only if no count is ever stepped over. As long as the loop goes on, each count
is still to be reached. -/

namespace ArpProbe

namespace Session

variable (begun : Prop) (s : Session)

def terms : Modes × Int × Int := (s.modes, s.count, s.timeout)

theorem terms_replay (entries : List Entry) : (s.replay entries).terms = s.terms := by
  induction entries generalizing s with
  | nil => rfl
  | cons e rest ih =>
    refine (ih _).trans ?_
    cases e with
    | sent | expired => rfl
    | accepted f pc =>
      rw [enter, accept, terms, modes_turn, count_turn, timeout_turn]
      rfl

/-- After its last answer was counted a session has got what it waits for. -/
def GotAll : Prop :=
  s.modes.quitOnReply = true ∨
    s.timeout ≠ 0 ∧ (s.counters.received.toNat : Int) = s.count ∨
    s.count ≤ 0 ∧ s.counters.received = s.counters.sent

theorem isAnswered_iff : s.isAnswered = true ↔ s.GotAll := by
  simp only [isAnswered, GotAll, Bool.or_eq_true, Bool.and_eq_true, decide_eq_true_eq]
  rw [or_assoc, or_left_comm]

/-- There are answers still to come. Where none are counted there must be more probes than answers,
once the first probe is out. -/
structure Waits : Prop where
  once : s.modes.quitOnReply = true → s.counters.received = 0
  limited : s.timeout ≠ 0 → 0 < s.count → (s.counters.received.toNat : Int) < s.count
  matched : begun → s.count ≤ 0 → s.counters.received < s.counters.sent

/-- No more answers came than were asked for. -/
structure Within : Prop where
  once : s.modes.quitOnReply = true → s.counters.received ≤ 1
  limited : s.timeout ≠ 0 → 0 < s.count → (s.counters.received.toNat : Int) ≤ s.count
  matched : begun → s.count ≤ 0 → s.counters.received ≤ s.counters.sent

variable {begun s}

theorem received_accept (f : Frame) (pc : PacketClass) :
    (s.accept f pc).1.counters.received = s.counters.received + 1 := by
  simp only [accept, counters_turn, Counters.accept]

theorem accept_final_iff (f : Frame) (pc : PacketClass) :
    (s.accept f pc).2 = .final ↔ (s.accept f pc).1.GotAll := by
  rw [← isAnswered_iff]
  simp only [accept]
  cases (Session.turn _ f.senderHw).isAnswered <;> simp

theorem toNat_succ_le (n : UInt32) : (n + 1).toNat ≤ n.toNat + 1 := by
  rw [UInt32.toNat_add]
  exact Nat.mod_le _ _

namespace Waits

variable (w : Waits begun s)
include w

theorem within : Within begun s where
  once quit := by
    rw [w.once quit]
    decide
  limited timed pos := Int.le_of_lt (w.limited timed pos)
  matched first unlimited := UInt32.le_of_lt (w.matched first unlimited)

theorem accept_within (f : Frame) (pc : PacketClass) : Within begun (s.accept f pc).1 := by
  have more := toNat_succ_le s.counters.received
  refine ⟨fun quit => ?_, fun timed pos => ?_, fun first unlimited => ?_⟩
  · rw [received_accept]
    simp only [accept, modes_turn] at quit
    rw [w.once quit]
    decide
  · simp only [accept, timeout_turn, count_turn] at timed pos
    have fewer := w.limited timed pos
    rw [received_accept]
    simp only [accept, count_turn]
    omega
  · simp only [accept, count_turn] at unlimited
    have fewer := UInt32.lt_iff_toNat_lt.mp (w.matched first unlimited)
    rw [received_accept, UInt32.le_iff_toNat_le]
    simp only [accept, counters_turn, Counters.accept]
    omega

theorem accept {f : Frame} {pc : PacketClass} (goOn : (s.accept f pc).2 = .goOn) :
    Waits begun (s.accept f pc).1 := by
  have most := w.accept_within f pc
  have unmet : ¬ (s.accept f pc).1.GotAll := by
    rw [← accept_final_iff, goOn]
    nofun
  refine ⟨fun quit => absurd (.inl quit) unmet, fun timed pos => ?_, fun first unlimited => ?_⟩
  · have ne := fun same => unmet (.inr (.inl ⟨timed, same⟩))
    exact Int.lt_iff_le_and_ne.mpr ⟨most.limited timed pos, ne⟩
  · have ne := fun same => unmet (.inr (.inr ⟨unlimited, same⟩))
    exact UInt32.lt_of_le_of_ne (most.matched first unlimited) ne

theorem expire (n : UInt64) : Waits begun (s.expire n).1 := ⟨w.once, w.limited, w.matched⟩

theorem recordSend (room : s.counters.sent.toNat + 1 < UInt32.size) (t : Instant) :
    Waits begun (s.recordSend t) where
  once := w.once
  limited := w.limited
  matched first unlimited := by
    have fewer := UInt32.lt_iff_toNat_lt.mp (w.matched first unlimited)
    have more : (s.counters.sent + 1).toNat = s.counters.sent.toNat + 1 := by
      rw [UInt32.toNat_add]
      exact Nat.mod_eq_of_lt room
    rw [UInt32.lt_iff_toNat_lt]
    simp only [Session.recordSend, Counters.send, more]
    omega

end Waits

end Session

namespace Prober

open Session (Waits Within)

variable {begun : Prop} (v : Verbosity) {p : Prober} {k : Kernel} {s : Step}

theorem take_sent (p : Prober) (k : Kernel) (s : Step) :
    let went := (s.take v p).run k
    went.1.1.session.counters.sent = p.session.counters.sent +
      if (k.since went.2).any Event.isProbe then 1 else 0 := by
  intro went
  rw [take_enters v p k s, Session.sent_replay, Occasion.sends_entries]
  split <;> rfl

theorem take_sent_le (p : Prober) (k : Kernel) (s : Step) :
    let went := (s.take v p).run k
    went.1.1.session.counters.sent.toNat ≤
      p.session.counters.sent.toNat + (k.since went.2).probes := by
  intro went
  rw [take_sent]
  split
  · next wrote =>
    have one := (History.probes_pos_iff (k.since went.2)).mpr wrote
    exact Nat.le_trans (Session.toNat_succ_le _) (Nat.add_le_add_left one _)
  · rw [UInt32.add_zero]
    exact Nat.le_add_right _ _

variable (w : Waits begun p.session)
  (room : p.session.counters.sent.toNat + (k.since ((s.take v p).run k).2).probes < UInt32.size)
include w room

theorem take_waits_unanswered
    (none : (⟨k.circumstances, s⟩ : Occasion).answer? p.session.endpoint.me p.query = none) :
    Waits begun ((s.take v p).run k).1.1.session := by
  let expired := p.session.replay (⟨k.circumstances, s⟩ : Occasion).expired
  have waits : Waits begun expired ∧ expired.counters = p.session.counters := by
    simp only [expired, Occasion.expired]
    split
    · exact ⟨w.expire _, rfl⟩
    · exact ⟨w, rfl⟩
  obtain ⟨waits, same⟩ := waits
  rw [take_unanswered v p none, Occasion.sent]
  split
  · next wrote =>
    have one := (History.probes_pos_iff _).mpr wrote
    exact waits.recordSend (by rw [same]; omega) _
  · exact waits

theorem take_waits (goOn : ((s.take v p).run k).1.2 = .goOn) :
    Waits begun ((s.take v p).run k).1.1.session := by
  cases answer : (⟨k.circumstances, s⟩ : Occasion).answer? p.session.endpoint.me p.query with
  | none => exact take_waits_unanswered v w room answer
  | some answered =>
    obtain ⟨f, pc⟩ := answered
    obtain ⟨accepted, decides⟩ := take_accepts v p answer
    rw [accepted]
    exact w.accept (decides.symm.trans goOn)

theorem take_within : Within begun ((s.take v p).run k).1.1.session := by
  cases answer : (⟨k.circumstances, s⟩ : Occasion).answer? p.session.endpoint.me p.query with
  | none => exact (take_waits_unanswered v w room answer).within
  | some answered =>
    obtain ⟨f, pc⟩ := answered
    rw [(take_accepts v p answer).1]
    exact w.accept_within f pc

end Prober

namespace EventLoop

open Session (Waits Within GotAll)

variable {begun : Prop} (v : Verbosity) {p : Prober} {k : Kernel}

theorem room_walk {p : Prober} {k : Kernel} {s : Step} {rest : List Step} :
    let first := (s.take v p).run k
    let later := (walk v first.1.1 rest).run first.2
    p.session.counters.sent.toNat + (k.since later.2).probes < UInt32.size →
      p.session.counters.sent.toNat + (k.since first.2).probes < UInt32.size ∧
        first.1.1.session.counters.sent.toNat + (first.2.since later.2).probes < UInt32.size := by
  intro first later room
  obtain ⟨g, recorded, _⟩ := Accounted.take v s p k
  obtain ⟨g', recorded', _⟩ := Accounted.continues.walk (Accounted.take v) rest first.1.1 first.2
  have joined : k.since later.2 = k.since first.2 ++ first.2.since later.2 :=
    Kernel.since_trans recorded recorded'
  have sent : first.1.1.session.counters.sent.toNat ≤
      p.session.counters.sent.toNat + (k.since first.2).probes := Prober.take_sent_le v p k s
  rw [joined, History.probes_append] at room
  omega

theorem walk_waits (w : Waits begun p.session) (steps : List Step)
    (room : p.session.counters.sent.toNat + (k.since ((walk v p steps).run k).2).probes <
      UInt32.size)
    (going : ∀ verdict ∈ ((walk v p steps).run k).1.2, verdict = .goOn) :
    Waits begun ((walk v p steps).run k).1.1.session := by
  -- The room that is left passes from step to step with the answers that are still to come.
  induction steps generalizing p k with
  | nil => exact w
  | cons s rest ih =>
    obtain ⟨now, then'⟩ := room_walk v room
    obtain ⟨goOn, later⟩ := List.forall_mem_cons.mp going
    exact ih (Prober.take_waits v w now goOn) then' later

theorem walk_within (w : Waits begun p.session) (steps : List Step)
    (room : p.session.counters.sent.toNat + (k.since ((walk v p steps).run k).2).probes <
      UInt32.size) {n : Nat} {last : Verdict}
    (going : ((walk v p steps).run k).1.2 = List.replicate n .goOn ++ [last]) :
    Within begun ((walk v p steps).run k).1.1.session := by
  induction steps generalizing p k n with
  | nil => exact w.within
  | cons s rest ih =>
    obtain ⟨now, then'⟩ := room_walk v room
    rw [walk_cons] at going
    cases n with
    | zero =>
      have only : rest = [] := nil_of_walk v (List.cons.inj going).2
      subst only
      exact Prober.take_within v w now
    | succ n =>
      obtain ⟨goOn, later⟩ := List.cons.inj going
      exact ih (Prober.take_waits v w now goOn) then' later

theorem walk_terms (p : Prober) (steps : List Step) (k : Kernel) :
    ((walk v p steps).run k).1.1.session.terms = p.session.terms := by
  have same : Continues fun p _ p' _ => p'.session.terms = p.session.terms :=
    ⟨fun _ _ => rfl, fun first second => second.trans first⟩
  exact same.walk (v := v) (fun s p k => by rw [Prober.take_enters, Session.terms_replay]) steps p k

def Begins (p : Prober) (k : Kernel) : Prop := 0 < (k.since ((p.send v).run k).2).probes

theorem send_waits {p : Prober} (unused : p.session.counters = {}) (k : Kernel) :
    Waits (Begins v p k) ((p.send v).run k).1.1.session := by
  let sends := (p.send v).run k
  have entered : sends.1.1.session = if (k.since sends.2).any Event.isProbe
      then p.session.recordSend k.monotonic else p.session := p.send_enters v k
  have received : sends.1.1.session.counters.received = 0 := by
    rw [entered]
    split
    · exact congrArg Counters.received unused
    · rw [unused]
  refine ⟨fun _ => received, fun _ pos => ?_, fun begun _ => ?_⟩
  · change (sends.1.1.session.counters.received.toNat : Int) < _
    rw [received]
    exact pos
  · have wrote : (k.since sends.2).any Event.isProbe = true :=
      (History.probes_pos_iff _).mp begun
    have sent : sends.1.1.session.counters.sent = 1 := by
      rw [entered, if_pos wrote, Session.recordSend, unused]
      rfl
    change sends.1.1.session.counters.received < sends.1.1.session.counters.sent
    rw [received, sent]
    decide

section Probed

variable {p : Prober} (unused : p.session.counters = {}) {steps : List Step}
include unused

theorem room_probed (room : (k.since (probed v p steps k).2).probes < UInt32.size) :
    let first := (p.send v).run k
    first.1.1.session.counters.sent.toNat + (first.2.since (probed v p steps k).2).probes <
      UInt32.size := by
  have none : p.session.counters.sent.toNat = 0 := by
    rw [unused]
    rfl
  refine (room_walk v (s := .handle .send) ?_).2
  rw [none, Nat.zero_add]
  exact room

theorem probed_waits (room : (k.since (probed v p steps k).2).probes < UInt32.size)
    (going : ∀ verdict ∈ (probed v p steps k).1.2, verdict = .goOn) :
    Waits (Begins v p k) (probed v p steps k).1.1.session :=
  walk_waits v (send_waits v unused k) steps (room_probed v unused room)
    (List.forall_mem_cons.mp going).2

theorem probed_within (room : (k.since (probed v p steps k).2).probes < UInt32.size) {n : Nat}
    {last : Verdict} (going : (probed v p steps k).1.2 = List.replicate n .goOn ++ [last]) :
    Within (Begins v p k) (probed v p steps k).1.1.session := by
  have first := send_waits v unused k
  rw [probed, walk_cons] at going
  cases n with
  | zero =>
    have only : steps = [] := nil_of_walk v (List.cons.inj going).2
    subst only
    exact first.within
  | succ n => exact walk_within v first steps (room_probed v unused room) (List.cons.inj going).2

end Probed

/-- Answers end every run of a fresh prober on time, unless the count of probes overflows. As long
as the loop goes on there are answers still to come, where it ends no more came than were asked for,
and an answer that is counted ends it just if then all are there. -/
theorem answered_in_time (modes : Modes) (count timeout : Int) (endpoint : Endpoint) (q : Query)
    (index : Int32) (steps : List Step) {k : Kernel}
    (room : (k.since (probed v (.fresh modes count timeout endpoint q index) steps k).2).probes <
      UInt32.size) :
    let fresh := Prober.fresh modes count timeout endpoint q index
    let begun := Begins v fresh k
    let now := probed v fresh steps k
    let ended := (probe v fresh).run k
    now.1.1.session.terms = (modes, count, timeout) ∧
    ((∀ verdict ∈ now.1.2, verdict = .goOn) → Waits begun now.1.1.session) ∧
    (∀ n last, now.1.2 = List.replicate n .goOn ++ [last] → Within begun now.1.1.session) ∧
    (∀ s f pc, (⟨now.2.circumstances, s⟩ : Occasion).answer? now.1.1.session.endpoint.me
        now.1.1.query = some (f, pc) →
      let next := (s.take v now.1.1).run now.2
      next.1.1.session.counters.received = now.1.1.session.counters.received + 1 ∧
        (next.1.2 = .final ↔ next.1.1.session.GotAll)) ∧
    ((k.since ended.2).probes < UInt32.size → Within begun ended.1.session) := by
  intro fresh begun now ended
  refine ⟨walk_terms v fresh _ k, probed_waits v rfl room, fun n last => probed_within v rfl room,
    fun s f pc answer => ?_, fun room => ?_⟩
  · intro next
    obtain ⟨accepted, decides⟩ := Prober.take_accepts v now.1.1 answer
    have accepted : next.1.1.session = (now.1.1.session.accept f pc).1 := accepted
    have decides : next.1.2 = (now.1.1.session.accept f pc).2 := decides
    rw [accepted, decides]
    exact ⟨Session.received_accept f pc, Session.accept_final_iff f pc⟩
  · obtain ⟨steps, n, walked⟩ := probe_walk v fresh k
    have here : probed v fresh steps k = _ := walked
    have room : (k.since (probed v fresh steps k).2).probes < UInt32.size := by
      rw [here]
      exact room
    have verdicts : (probed v fresh steps k).1.2 = List.replicate n .goOn ++ [.final] := by
      rw [here]
    have kept := probed_within v rfl room verdicts
    rwa [here] at kept

theorem answered_in_time_matched :
    let me : Octets := [2, 0, 0, 0, 0, 1]
    let peer : Octets := [2, 0, 0, 0, 0, 9]
    let q : Query := ⟨⟨10, 0, 0, 9⟩, ⟨10, 0, 0, 1⟩, false⟩
    let answer : Octets := [0, 1, 8, 0, 6, 4, 0, 2] ++ peer ++ [10, 0, 0, 9] ++ me ++ [10, 0, 0, 1]
    let endpoint : Endpoint := ⟨1, me, List.replicate 6 255⟩
    let receive : Step := .handle (.receive (.frame answer ⟨.host, 1⟩))
    let k : Kernel := {}
    let fresh := Prober.fresh { quiet := true } 0 0 endpoint q 2
    let steps : List Step := [.handle (.timer 1), receive]
    let now := probed {} fresh steps k
    let next := (receive.take {} now.1.1).run now.2
    (k.since now.2).probes < UInt32.size ∧ Begins {} fresh k ∧
      (∀ verdict ∈ now.1.2, verdict = .goOn) ∧
      now.1.1.session.counters.received < now.1.1.session.counters.sent ∧
      next.1.2 = .final ∧ next.1.1.session.GotAll := by
  intro me peer q answer endpoint receive k fresh steps now next
  have room : (k.since now.2).probes < UInt32.size := by decide +kernel
  have begun : 0 < (k.since ((fresh.send {}).run k).2).probes := by decide +kernel
  have going : ∀ verdict ∈ now.1.2, verdict = .goOn := by decide +kernel
  have unlimited : now.1.1.session.count ≤ 0 := by decide +kernel
  have accepts : ((⟨now.2.circumstances, receive⟩ : Occasion).answer?
      now.1.1.session.endpoint.me now.1.1.query).isSome = true := by decide +kernel
  have final : next.1.2 = .final := by decide +kernel
  obtain ⟨_, waits, _, decides, _⟩ :=
    answered_in_time {} { quiet := true } 0 0 endpoint q 2 steps room
  have same : fresh = .fresh { quiet := true } 0 0 endpoint q 2 := rfl
  have run : now = probed {} fresh steps k := rfl
  have run' : next = (receive.take {} now.1.1).run now.2 := rfl
  rw [← same, ← run] at waits decides
  -- From here on the run is not to be evaluated any more.
  clear_value next now
  obtain ⟨⟨f, pc⟩, accepted⟩ := Option.isSome_iff_exists.mp accepts
  have ends := (decides receive f pc accepted).2
  rw [← run'] at ends
  exact ⟨room, begun, going, (waits going).matched begun unlimited, final, ends.mp final⟩

end EventLoop

end ArpProbe
