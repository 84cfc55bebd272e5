import ArpProbe.Proofs.EventLoop.Accounting

/-! The exit status of a probe, bit by bit, as a function of what its kernel saw. -/

namespace ArpProbe

def statusOfBits (low high : Bool) : Int32 :=
  if high then (if low then 3 else 2) else if low then 1 else 0

theorem statusOfBits_bits : ∀ low high : Bool,
    (statusOfBits low high &&& 1 ≠ 0 ↔ low = true) ∧
      (statusOfBits low high &&& 2 ≠ 0 ↔ high = true) ∧ statusOfBits low high &&& ~~~3 = 0 := by
  decide

theorem statusOfBits_eq_zero : ∀ low high : Bool,
    statusOfBits low high = 0 ↔ low = false ∧ high = false := by
  decide

namespace Session

variable (s : Session)

def isFailed : Bool :=
  if s.modes.dad then 0 < s.counters.received
  else !s.modes.unsolicited && s.counters.received = 0

theorem baseStatus_eq : s.baseStatus = statusOfBits s.isFailed false := by
  unfold baseStatus isFailed
  cases s.modes.dad
  · cases s.modes.unsolicited
    · by_cases h : s.counters.received = 0 <;> simp [h, statusOfBits]
    · rfl
  · by_cases h : 0 < s.counters.received <;> simp [h, statusOfBits]

theorem exitStatus_eq (netDown : Bool) :
    s.exitStatus s.baseStatus netDown =
      statusOfBits (s.counters.broadcastSent = s.counters.received || s.isFailed) netDown := by
  rw [exitStatus, baseStatus_eq]
  by_cases unanswered : s.counters.broadcastSent = s.counters.received <;>
    cases s.isFailed <;> cases netDown <;> simp [unanswered, statusOfBits] <;> decide

end Session

theorem Account.fresh (modes : Modes) (count timeout : Int) (endpoint : Endpoint) (q : Query)
    (index : Int32) :
    Account modes endpoint.me q [] (Prober.fresh modes count timeout endpoint q index) := by
  refine ⟨rfl, rfl, rfl, rfl, ?_, rfl, ?_, rfl⟩
  · cases h : modes.broadcastOnly <;> rfl
  · simp [Prober.fresh, History.answers]

namespace Account

variable {modes : Modes} {me : Octets} {q : Query} {h : History} {p : Prober}

theorem ofNat_inj {m n : Nat} (hm : m < UInt32.size) (hn : n < UInt32.size) :
    UInt32.ofNat m = UInt32.ofNat n ↔ m = n := by
  rw [← UInt32.toNat_inj, UInt32.toNat_ofNat_of_lt' hm, UInt32.toNat_ofNat_of_lt' hn]

theorem status (a : Account modes me q h p) (sends : h.probes < UInt32.size)
    (receptions : h.answers me q < UInt32.size) :
    p.status =
      statusOfBits
        (h.broadcasts modes.broadcastOnly me q = h.answers me q ||
          if modes.dad then 0 < h.answers me q
          else !modes.unsolicited && h.answers me q = 0)
        h.networkDown := by
  have few : h.broadcasts modes.broadcastOnly me q < UInt32.size :=
    Nat.lt_of_le_of_lt (h.broadcasts_le_probes me q _) sends
  have none : UInt32.ofNat (h.answers me q) = 0 ↔ h.answers me q = 0 :=
    ofNat_inj receptions (by decide)
  have some : 0 < UInt32.ofNat (h.answers me q) ↔ 0 < h.answers me q := by
    rw [UInt32.lt_iff_toNat_lt, UInt32.toNat_ofNat_of_lt' receptions]
    rfl
  rw [Prober.status, Session.exitStatus_eq, Session.isFailed, a.netDown, a.broadcastSent,
    a.received, a.sameModes]
  simp only [none, some, ofNat_inj few receptions]

theorem status_eq_zero (a : Account modes me q h p) (dad : modes.dad = true)
    (sends : h.probes < UInt32.size) (receptions : h.answers me q < UInt32.size) :
    p.status = 0 ↔ 0 < h.probes ∧ h.answers me q = 0 ∧ h.networkDown = false := by
  rw [a.status sends receptions, statusOfBits_eq_zero, dad]
  by_cases none : h.answers me q = 0
  · simp [none, h.broadcasts_of_none me q _ none, Nat.pos_iff_ne_zero]
  · simp [none, Nat.pos_of_ne_zero none]

end Account

namespace EventLoop

/-- Whatever a fresh prober goes through, in any order: its status has one bit for a network that
was down, and one for as many answers as broadcasts before the first, for a conflict, and for a
question without an answer. -/
theorem finish_status {v : Verbosity} {modes : Modes} {count timeout : Int} {endpoint : Endpoint}
    {q : Query} {index s : Int32} {steps : List Step} {verdicts : List Verdict}
    {p : Prober} {k k' k'' : Kernel}
    (ran : (walk v (.fresh modes count timeout endpoint q index) steps).run k = ((p, verdicts), k'))
    (going : p.stuck = false) (finished : p.finish.run.run k' = (.ok s, k''))
    (sends : (k.since k').probes < UInt32.size)
    (receptions : (k.since k').answers endpoint.me q < UInt32.size) :
    let R := (k.since k').answers endpoint.me q
    let B := (k.since k').broadcasts modes.broadcastOnly endpoint.me q
    (s &&& 2 ≠ 0 ↔ (k.since k').networkDown = true) ∧
      (s &&& 1 ≠ 0 ↔ B = R ∨ modes.dad = true ∧ 0 < R ∨
        modes.dad = false ∧ modes.unsolicited = false ∧ R = 0) ∧
      s &&& ~~~3 = 0 := by
  intro R B
  have accounted := Accounted.continues.walk (Accounted.take v) steps
    (.fresh modes count timeout endpoint q index) k
  rw [ran] at accounted
  -- A fresh prober has the account of an empty history, which the walk then continues.
  have a := accounted.account (Account.fresh modes count timeout endpoint q index) going
  obtain ⟨low, high, others⟩ := statusOfBits_bits
    (B = R || if modes.dad then 0 < R else !modes.unsolicited && R = 0) (k.since k').networkDown
  rw [Prober.finish_ok finished, a.status sends receptions]
  refine ⟨high, low.trans ?_, others⟩
  cases modes.dad <;> simp

theorem finish_status_conflict :
    let q : Query := ⟨⟨10, 0, 0, 9⟩, .unspecified, true⟩
    let conflict : Octets :=
      [0, 1, 8, 0, 6, 4, 0, 2, 2, 0, 0, 0, 0, 9, 10, 0, 0, 9, 2, 0, 0, 0, 0, 1, 0, 0, 0, 0]
    let me : Octets := [2, 0, 0, 0, 0, 1]
    let modes : Modes := { dad := true, quiet := true }
    let steps : List Step := [.handle .send, .handle (.receive (.frame conflict ⟨.host, 1⟩)),
      .handle (.receive (.failed Errno.networkDown))]
    let ran := (walk {} (.fresh modes 1 0 ⟨1, me, List.replicate 6 255⟩ q 2) steps).run {}
    let h := Kernel.since {} ran.2
    ran.1.1.stuck = false ∧ ran.1.1.finish.run.run ran.2 = (.ok 3, ran.2) ∧
      h.probes < UInt32.size ∧ h.answers me q < UInt32.size ∧ h.networkDown = true ∧
      (h.broadcasts false me q = h.answers me q ∨ true = true ∧ 0 < h.answers me q ∨
        true = false ∧ false = false ∧ h.answers me q = 0) := by
  intro q conflict me modes steps ran h
  have apart (x : (Prober × List Verdict) × Kernel) : x = ((x.1.1, x.1.2), x.2) := rfl
  have going : ran.1.1.stuck = false := by decide +kernel
  have finished : ran.1.1.finish.run.run ran.2 = (.ok 3, ran.2) := by
    rw [Prober.finish_run, if_pos (by decide +kernel), show ran.1.1.status = 3 by decide +kernel]
  have sends : h.probes < UInt32.size := by decide +kernel
  have receptions : h.answers me q < UInt32.size := by decide +kernel
  obtain ⟨high, low, _⟩ := finish_status (apart ran) going finished sends receptions
  have down : (3 : Int32) &&& 2 ≠ 0 := by decide
  have failed : (3 : Int32) &&& 1 ≠ 0 := by decide
  exact ⟨going, finished, sends, receptions, high.mp down, low.mp failed⟩

end EventLoop

end ArpProbe
