import ArpProbe.Proofs.Privilege.Process

/-! The user ids of a process that has limited its privileges and then given them up. The real and
the effective id are the real one. By user ids alone the saved id is too. But by capabilities it is
so only if the capability to take on user ids outlasted the limiting; otherwise the saved id stays
what it was, and can be had again. -/

namespace ArpProbe

open Process (Action)

namespace CapSets

theorem and_rawBit (w : UInt32) : w &&& rawBit = 0 ∨ w &&& rawBit = rawBit := by
  have single : rawBit.toBitVec = BitVec.twoPow 32 13 := by decide
  have cut : (w &&& rawBit).toBitVec =
      if w.toBitVec.getLsbD 13 then rawBit.toBitVec else 0#32 := by
    rw [UInt32.toBitVec_and, single, BitVec.and_twoPow]
  split at cut
  · exact .inr (UInt32.toBitVec_inj.mp cut)
  · exact .inl (UInt32.toBitVec_inj.mp cut)

theorem rawBit_within {s : CapSets} (raw : s.permitsRaw = true) :
    rawBit &&& ~~~s.low.permitted = 0 := by
  have held : s.low.permitted &&& rawBit = rawBit :=
    (and_rawBit s.low.permitted).resolve_left (of_decide_eq_true raw)
  rw [← held, UInt32.and_comm s.low.permitted, UInt32.and_assoc, UInt32.and_not_self,
    UInt32.and_zero]

theorem onlyRawPermitted_mayFollow {s : CapSets} (raw : s.permitsRaw = true) :
    onlyRawPermitted.mayFollow s = true := by
  simp [mayFollow, CapWord.mayFollow, onlyRawPermitted, CapWord.empty, rawBit_within raw]

end CapSets

namespace Process

/-- The sets in which user ids are switched. Capabilities are shed unless raw sockets are not
permitted, or the shedding is refused. -/
def keptSets (p : Process) : CapSets :=
  if p.capabilities.permitsRaw && (p.refusals 1).isNone then .onlyRawPermitted else p.capabilities

def switchedUsers (p : Process) : UserIds :=
  let u := p.users.real
  if p.keptSets.mayTakeUsers then ⟨u, u, u⟩ else { p.users with effective := u }

/-- Whether the saved user id is given up with the others: by user ids alone it is, where the
capability sets cannot be read; else the capability to take on user ids must be effective still,
and not be shed. -/
def yieldsSaved (p : Process) : Bool :=
  (p.refusals 0).isSome ||
    p.capabilities.mayTakeUsers && (!p.capabilities.permitsRaw || (p.refusals 2).isSome)

theorem mayTakeUsers_keptSets (p : Process) :
    p.keptSets.mayTakeUsers =
      (p.capabilities.mayTakeUsers && (!p.capabilities.permitsRaw || (p.refusals 1).isSome)) := by
  have shed : CapSets.onlyRawPermitted.mayTakeUsers = false := by decide
  unfold keptSets
  cases p.capabilities.permitsRaw <;> cases p.refusals 1 <;> simp [shed]

theorem switchedUsers_later {p : Process} (read : p.refusals 0 = none) :
    p.later.switchedUsers =
      ⟨p.users.real, p.users.real, if p.yieldsSaved then p.users.real else p.users.saved⟩ := by
  have yields : p.later.keptSets.mayTakeUsers = p.yieldsSaved := by
    rw [mayTakeUsers_keptSets, yieldsSaved, read, Option.isSome_none, Bool.false_or]
    rfl
  unfold switchedUsers
  rw [yields]
  cases p.yieldsSaved <;> rfl

end Process

namespace CapabilityBracket

variable {p p' : Process} {b : Bracket Action}

theorem shed_leaves (raw : p.capabilities.permitsRaw = true)
    (h : (shed (m := Action)).run.run p = (.ok (), p')) :
    p'.users = p.users ∧ p'.capabilities =
      if (p.refusals 0).isNone then .onlyRawPermitted else p.capabilities := by
  obtain ⟨result, q, tried, h⟩ := Process.ok_of_bind h
  have run : (CredentialCalls.capset (m := Action) CapSets.onlyRawPermitted).run.run p =
      (result, q) := Process.of_lift tried
  have still : q = p' := by
    cases result with
    | ok =>
      cases h
      rfl
    | error cause =>
      dsimp only at h
      split at h <;> cases h
      rfl
  subst still
  cases fine : p.refusals 0 with
  | none =>
    rw [Process.run_capset fine, if_pos (CapSets.onlyRawPermitted_mayFollow raw)] at run
    cases run
    exact ⟨rfl, rfl⟩
  | some e =>
    change (Process.call _).run.run p = _ at run
    rw [Process.run_call, fine] at run
    cases run
    exact ⟨rfl, rfl⟩

theorem limit_leaves (h : (limit (m := Action)).run.run p = (.ok b, p')) :
    b = ofPermitted p.capabilities.permitsRaw ∧ p'.users = p.switchedUsers ∧
      p'.capabilities = p.keptSets.afterSwitch true p.users p.switchedUsers := by
  obtain ⟨sets, q, read, h⟩ := Process.ok_of_bind h
  obtain ⟨-, ⟨⟩⟩ := Process.ok_of_call (Process.ok_of_adapt read)
  have same : p.later.capabilities = p.capabilities := rfl
  obtain ⟨q₁, shed, h⟩ := Process.ok_of_first h
  have kept : q₁.users = p.users ∧ q₁.capabilities = p.keptSets := by
    unfold Process.keptSets
    split at shed
    · next raw =>
      rw [← same, raw, Bool.true_and]
      exact shed_leaves raw shed
    · next raw =>
      rw [same, Bool.not_eq_true] at raw
      rw [raw, Bool.false_and, shed]
      exact ⟨rfl, rfl⟩
  -- That capabilities are to be kept is what saves the permitted ones when the user id changes.
  obtain ⟨_, q₂, keep, h⟩ := Process.ok_of_bind h
  obtain ⟨users₂, sets₂, keeping⟩ := Process.ok_of_keepCapabilities (Process.ok_of_adapt keep)
  obtain ⟨ids, q₃, asked, h⟩ := Process.ok_of_bind h
  obtain ⟨rfl, rfl⟩ : q₂.users = ids ∧ q₂ = q₃ := by
    cases asked
    exact ⟨rfl, rfl⟩
  obtain ⟨_, q₄, switch, h⟩ := Process.ok_of_bind h
  obtain ⟨users₄, sets₄⟩ := Process.ok_of_setuid (Process.ok_of_adapt switch)
  obtain ⟨_, q₅, forget, h⟩ := Process.ok_of_bind h
  obtain ⟨users₅, sets₅, -⟩ := Process.ok_of_keepCapabilities (Process.ok_of_adapt forget)
  obtain ⟨rfl, rfl⟩ : ofPermitted p.capabilities.permitsRaw = b ∧ q₅ = p' := by
    cases h
    exact ⟨rfl, rfl⟩
  rw [sets₂, users₂, kept.1, kept.2] at users₄
  rw [sets₂, users₂, kept.1, kept.2, keeping] at sets₄
  exact ⟨rfl, users₅.trans users₄, sets₅.trans sets₄⟩

theorem run_modifyRaw (on : Bool) (p : Process) :
    (modifyRaw (m := Action) true on).run.run p =
      match p.refusals 0 with
      | some e => (.error (.system e), p.later)
      | none => (CredentialCalls.capset (m := Action) (p.capabilities.withRaw on)).run.run
          p.later := by
  have read : (CredentialCalls.capget (m := Action)).run.run p = _ :=
    Process.run_call (fun p => .ok (p.capabilities, p)) p
  unfold modifyRaw
  rw [if_pos rfl, Process.run_bind, read]
  cases p.refusals 0 <;> rfl

theorem users_modifyRaw (permitted on : Bool) (p : Process) :
    ((modifyRaw (m := Action) permitted on).run.run p).2.users = p.users := by
  cases permitted with
  | false => cases on <;> rfl
  | true =>
    rw [run_modifyRaw]
    cases p.refusals 0 with
    | none => exact Process.users_capset _ _
    | some e => rfl

theorem users_perform (permitted : Bool) (s : WindowStep) (p : Process) :
    (((ofPermitted (m := Action) permitted).perform s).run.run p).2.users = p.users := by
  cases s with
  | acquire => exact users_modifyRaw permitted true p
  | release => exact users_modifyRaw permitted false p
  | drop => exact Process.users_capset _ p

end CapabilityBracket

namespace UserBracket

variable {p p' : Process} {b : Bracket Action}

theorem limit_leaves (h : (limit (m := Action)).run.run p = (.ok b, p')) :
    b = ofUsers p.users.real p.users.effective := by
  obtain ⟨users, q, asked, h⟩ := Process.ok_of_bind h
  cases asked
  obtain ⟨q₁, -, h⟩ := Process.ok_of_first h
  cases h
  rfl

theorem drop_leaves {real effective : Nat}
    (h : (drop (m := Action) real effective).run.run p = (.ok (), p')) :
    p'.users = ⟨real, real, real⟩ := by
  obtain ⟨_, q, taken, h⟩ := Process.ok_of_bind h
  have users := Process.ok_of_setresuid taken
  split at h
  · obtain ⟨result, q', tried, h⟩ := Process.ok_of_bind h
    cases result with
    | ok => cases h
    | error cause =>
      have still := Process.error_of_call (Process.of_lift tried)
      cases h
      rw [still]
      exact users
  · cases h
    exact users

end UserBracket

/-- A process that has limited its privileges and given them up, whatever steps it took in between,
is left with the real user id, but for the saved id where that is not given up. By way of
capabilities none of them are left either. -/
theorem users_dropped {p p₁ p₂ : Process} {b : Bracket Action} {steps : List WindowStep}
    (limited : (limitPrivileges (m := Action)).run.run p = (.ok b, p₁))
    (dropped : b.dropPermanently.run.run (b.follow p₁ steps) = (.ok (), p₂)) :
    let u := p.users.real
    p₂.users = ⟨u, u, if p.yieldsSaved then u else p.users.saved⟩ ∧
      (p.refusals 0 = none → p₂.capabilities = .empty) := by
  intro u
  obtain ⟨result, q, tried, limited⟩ := Process.ok_of_bind limited
  -- Capabilities are what limits a process that can read its own, and user ids any other.
  have asked : (Process.call fun p => .ok (p.capabilities, p)).run.run p = (result, q) :=
    Process.of_lift tried
  rw [Process.run_call] at asked
  cases read : p.refusals 0 with
  | some e =>
    rw [read] at asked
    cases asked
    have bracket := UserBracket.limit_leaves limited
    subst bracket
    have users := UserBracket.drop_leaves dropped
    have yields : p.yieldsSaved = true := by
      rw [Process.yieldsSaved, read, Option.isSome_some, Bool.true_or]
    refine ⟨?_, nofun⟩
    rw [if_pos yields]
    exact users
  | none =>
    rw [read] at asked
    cases asked
    obtain ⟨bracket, users, -⟩ := CapabilityBracket.limit_leaves limited
    subst bracket
    obtain ⟨left, emptied⟩ := Process.ok_of_capset dropped
    have step (s : WindowStep) (q : Process) (same : q.users = p₁.users) :=
      (CapabilityBracket.users_perform p.capabilities.permitsRaw s q).trans same
    have kept := left.trans (Bracket.follow_keeps step rfl steps)
    rw [users, Process.switchedUsers_later read] at kept
    exact ⟨kept, fun _ => emptied⟩

def Process.startedAs (owner : Nat) (capabilities : CapSets) : Process :=
  { users := ⟨1000, owner, owner⟩, capabilities }

theorem users_dropped_unshed :
    ∃ b p₁ p₂, (limitPrivileges (m := Action)).run.run
        (.startedAs 0 ⟨⟨0x80, 0x80, 0⟩, .empty⟩) = (.ok b, p₁) ∧
      b.dropPermanently.run.run (b.follow p₁ [.acquire, .release]) = (.ok (), p₂) ∧
      p₂.users = ⟨1000, 1000, 1000⟩ ∧ p₂.capabilities = .empty := by
  have limited : (limitPrivileges (m := Action)).run.run
      (.startedAs 0 ⟨⟨0x80, 0x80, 0⟩, .empty⟩) =
    (.ok (CapabilityBracket.ofPermitted false), .startedAs 1000 ⟨⟨0, 0x80, 0⟩, .empty⟩) := rfl
  have dropped : (CapabilityBracket.ofPermitted (m := Action) false).dropPermanently.run.run
      ((CapabilityBracket.ofPermitted false).follow (.startedAs 1000 ⟨⟨0, 0x80, 0⟩, .empty⟩)
        [.acquire, .release]) = (.ok (), .startedAs 1000 .empty) := rfl
  obtain ⟨users, emptied⟩ := users_dropped limited dropped
  exact ⟨_, _, _, limited, dropped, users, emptied rfl⟩

/-- Started as user 2000, or as root with every capability, a process sheds the capability to take
on user ids before it switches to the real one. It still has the owner as saved id once its
privileges are given up, and takes it on again. -/
theorem users_regained :
    let regains (owner : Nat) (capabilities : CapSets) : Prop := ∃ b p₁ p₂ p₃,
      (limitPrivileges (m := Action)).run.run (.startedAs owner capabilities) = (.ok b, p₁) ∧
        b.dropPermanently.run.run p₁ = (.ok (), p₂) ∧ p₂.users = ⟨1000, 1000, owner⟩ ∧
        (CredentialCalls.seteuid (m := Action) owner).run.run p₂ = (.ok (), p₃) ∧
        p₃.users = ⟨1000, owner, owner⟩
    regains 2000 ⟨⟨0x2000, 0x2000, 0⟩, .empty⟩ ∧
      regains 0 ⟨⟨0xffffffff, 0xffffffff, 0⟩, ⟨0x1ff, 0x1ff, 0⟩⟩ :=
  ⟨⟨_, _, _, _, rfl, rfl, rfl, rfl, rfl⟩, _, _, _, _, rfl, rfl, rfl, rfl, rfl⟩

end ArpProbe
