import ArpProbe.Proofs.Privilege.Identity

/-! When the capability for raw sockets is effective. Steps of a bracket change no other capability,
a step that releases leaves it ineffective, and once all capabilities are dropped no step brings any
of them back. Nothing but the rules for capability sets is to refuse a call here. -/

namespace ArpProbe

open Process (Action)

theorem UInt32.and_or_left (a b c : UInt32) : a &&& (b ||| c) = a &&& b ||| a &&& c := by
  rw [← UInt32.toBitVec_inj]
  exact BitVec.and_or_distrib_left

theorem UInt32.and_of_within {a b : UInt32} (within : a &&& ~~~b = 0) : a &&& b = a := by
  have parts := UInt32.and_or_left a b (~~~b)
  rw [UInt32.or_not_self, UInt32.and_neg_one, within, UInt32.or_zero] at parts
  exact parts.symm

def CapWord.IsWithin (w : CapWord) : Prop := w.effective &&& ~~~w.permitted = 0

namespace CapSets

variable {s : CapSets}

def IsWithin (s : CapSets) : Prop := s.low.IsWithin ∧ s.high.IsWithin

theorem permitsRaw_iff : s.permitsRaw = true ↔ rawBit &&& ~~~s.low.permitted = 0 := by
  refine ⟨rawBit_within, fun within => decide_eq_true fun none => ?_⟩
  have held := UInt32.and_of_within within
  rw [UInt32.and_comm, none] at held
  exact absurd held (by decide)

theorem withRaw_mayFollow (within : s.IsWithin) (on : Bool) :
    (s.withRaw on).mayFollow s = (!on || s.permitsRaw) := by
  have high : s.high.effective &&& ~~~s.high.permitted = 0 := within.2
  have low : s.low.effective &&& ~~~s.low.permitted = 0 := within.1
  cases on with
  | false =>
    have fewer : s.low.effective &&& ~~~rawBit &&& ~~~s.low.permitted = 0 := by
      rw [UInt32.and_assoc, UInt32.and_comm (~~~rawBit), ← UInt32.and_assoc, low, UInt32.zero_and]
    simp [mayFollow, withRaw, high, CapWord.mayFollow, fewer]
  | true =>
    have more : (s.low.effective ||| rawBit) &&& ~~~s.low.permitted =
        rawBit &&& ~~~s.low.permitted := by
      rw [UInt32.and_comm, UInt32.and_or_left, UInt32.and_comm _ s.low.effective, low,
        UInt32.zero_or, UInt32.and_comm]
    rw [Bool.not_true, Bool.false_or, Bool.eq_iff_iff, permitsRaw_iff]
    simp [mayFollow, withRaw, high, CapWord.mayFollow, more]

theorem IsWithin.of_mayFollow {t : CapSets} (follows : s.mayFollow t = true) : s.IsWithin := by
  simp only [mayFollow, CapWord.mayFollow, Bool.and_eq_true, decide_eq_true_eq] at follows
  exact ⟨follows.1.2, follows.2.2⟩

theorem afterSwitch_cases (s : CapSets) (keeping : Bool) (old new : UserIds) :
    s.afterSwitch keeping old new ∈
      [s, s.withoutEffective, s.withoutEffective.withoutPermitted, s.withAllEffective] := by
  unfold afterSwitch
  split
  · split <;> simp
  · split
    · simp
    · split <;> simp

theorem IsWithin.afterSwitch (within : s.IsWithin) (keeping : Bool) (old new : UserIds) :
    (s.afterSwitch keeping old new).IsWithin := by
  have cases := s.afterSwitch_cases keeping old new
  simp only [List.mem_cons, List.not_mem_nil, or_false] at cases
  rcases cases with left | left | left | left <;> rw [left]
  · exact within
  · exact ⟨UInt32.zero_and, UInt32.zero_and⟩
  · exact ⟨UInt32.zero_and, UInt32.zero_and⟩
  · exact ⟨UInt32.and_not_self, UInt32.and_not_self⟩

theorem permitsRaw_afterSwitch (without : s.permitsRaw = false) (keeping : Bool)
    (old new : UserIds) : (s.afterSwitch keeping old new).permitsRaw = false := by
  have cases := s.afterSwitch_cases keeping old new
  simp only [List.mem_cons, List.not_mem_nil, or_false] at cases
  rcases cases with left | left | left | left <;> rw [left]
  · exact without
  · exact without
  · exact decide_eq_false (not_not_intro UInt32.zero_and)
  · exact without

end CapSets

namespace Process

variable {p : Process}

theorem IsWithin.keptSets (within : p.capabilities.IsWithin) : p.keptSets.IsWithin := by
  unfold Process.keptSets
  split
  · exact ⟨rfl, rfl⟩
  · exact within

theorem permitsRaw_keptSets (without : p.capabilities.permitsRaw = false) :
    p.keptSets.permitsRaw = false := by
  rw [Process.keptSets, without, Bool.false_and]
  exact without

def IsRuled (p : Process) : Prop := p.refusals = fun _ => none

theorem IsRuled.later (ruled : p.IsRuled) : p.later = p := by
  unfold Process.later
  rw [ruled]
  cases p
  cases ruled
  rfl

theorem IsRuled.run_capset (ruled : p.IsRuled) (sets : CapSets) :
    (CredentialCalls.capset (m := Action) sets).run.run p =
      if sets.mayFollow p.capabilities then (.ok (), { p with capabilities := sets })
      else (.error (.system Errno.notPermitted), p) := by
  rw [Process.run_capset (congrFun ruled 0), ruled.later]

end Process

namespace CapabilityBracket

variable {p q : Process} {permitted : Bool}

theorem modifyRaw_of_ruled (ruled : q.IsRuled) (within : q.capabilities.IsWithin) (on : Bool) :
    (modifyRaw (m := Action) true on).run.run q =
      if !on || q.capabilities.permitsRaw then
        (.ok (), { q with capabilities := q.capabilities.withRaw on })
      else (.error (.system Errno.notPermitted), q) := by
  rw [run_modifyRaw, congrFun ruled 0, ruled.later]
  show (CredentialCalls.capset (m := Action) (q.capabilities.withRaw on)).run.run q = _
  rw [ruled.run_capset, CapSets.withRaw_mayFollow within]

/-- What the steps of a bracket keep: only the rules refuse calls, what is effective is permitted,
and raw sockets are not permitted where the bracket was made without them. -/
structure Governs (permitted : Bool) (q : Process) : Prop where
  ruled : q.IsRuled
  within : q.capabilities.IsWithin
  without : permitted = false → q.capabilities.permitsRaw = false

structure Deprived (q : Process) : Prop where
  ruled : q.IsRuled
  emptied : q.capabilities = .empty

theorem Deprived.governs (left : Deprived q) : Governs permitted q where
  ruled := left.ruled
  within := by
    rw [left.emptied]
    exact ⟨rfl, rfl⟩
  without := by
    rw [left.emptied]
    exact fun _ => rfl

theorem drop_of_ruled (ruled : q.IsRuled) :
    (ofPermitted (m := Action) permitted).dropPermanently.run.run q =
      (.ok (), { q with capabilities := .empty }) := by
  have follows : CapSets.empty.mayFollow q.capabilities = true := by
    simp [CapSets.mayFollow, CapWord.mayFollow, CapSets.empty, CapWord.empty]
  show (CredentialCalls.capset (m := Action) .empty).run.run q = _
  rw [ruled.run_capset, if_pos follows]

theorem Governs.step (g : Governs permitted q) (s : WindowStep) :
    Governs permitted (((ofPermitted permitted).perform s).run.run q).2 := by
  have modified (on : Bool) :
      Governs permitted ((modifyRaw (m := Action) permitted on).run.run q).2 := by
    cases permitted with
    | false => cases on <;> exact g
    | true =>
      rw [modifyRaw_of_ruled g.ruled g.within]
      split
      · next may =>
        have within : (q.capabilities.withRaw on).IsWithin := by
          rw [← CapSets.withRaw_mayFollow g.within] at may
          exact .of_mayFollow may
        exact ⟨g.ruled, within, nofun⟩
      · exact g
  cases s with
  | acquire => exact modified true
  | release => exact modified false
  | drop =>
    show Governs permitted ((ofPermitted (m := Action) permitted).dropPermanently.run.run q).2
    rw [drop_of_ruled g.ruled]
    exact Deprived.governs ⟨g.ruled, rfl⟩

theorem Deprived.acquire (left : Deprived q) :
    (ofPermitted (m := Action) permitted).acquire.run.run q =
      (.error (.system Errno.notPermitted), q) := by
  cases permitted with
  | false => rfl
  | true =>
    have none : q.capabilities.permitsRaw = false := by
      rw [left.emptied]
      rfl
    have governs : Governs true q := left.governs
    show (modifyRaw (m := Action) true true).run.run q = _
    rw [modifyRaw_of_ruled left.ruled governs.within, none]
    rfl

theorem Deprived.release (left : Deprived q) :
    (ofPermitted (m := Action) permitted).release.run.run q = (.ok (), q) := by
  cases permitted with
  | false => rfl
  | true =>
    have same : { q with capabilities := q.capabilities.withRaw false } = q := by
      rw [left.emptied]
      show { q with capabilities := .empty } = q
      rw [← left.emptied]
    have governs : Governs true q := left.governs
    show (modifyRaw (m := Action) true false).run.run q = _
    rw [modifyRaw_of_ruled left.ruled governs.within, same]
    rfl

theorem Deprived.step (left : Deprived q) (s : WindowStep) :
    Deprived (((ofPermitted permitted).perform s).run.run q).2 := by
  cases s with
  | acquire =>
    show Deprived ((ofPermitted (m := Action) permitted).acquire.run.run q).2
    rw [left.acquire]
    exact left
  | release =>
    show Deprived ((ofPermitted (m := Action) permitted).release.run.run q).2
    rw [left.release]
    exact left
  | drop =>
    show Deprived ((ofPermitted (m := Action) permitted).dropPermanently.run.run q).2
    rw [drop_of_ruled left.ruled]
    exact ⟨left.ruled, rfl⟩

theorem Governs.limit {b : Bracket Action} (within : p.capabilities.IsWithin)
    (limited : (limit (m := Action)).run.run p = (.ok b, q)) (ruled : ∀ n, q.refusals n = none) :
    b = ofPermitted p.capabilities.permitsRaw ∧ Governs p.capabilities.permitsRaw q := by
  obtain ⟨bracket, -, sets⟩ := limit_leaves limited
  refine ⟨bracket, funext ruled, ?_, fun without => ?_⟩
  · rw [sets]
    exact (Process.IsWithin.keptSets within).afterSwitch _ _ _
  · rw [sets]
    exact CapSets.permitsRaw_afterSwitch (Process.permitsRaw_keptSets without) _ _ _

end CapabilityBracket

open CapabilityBracket (Governs Deprived)

end ArpProbe
