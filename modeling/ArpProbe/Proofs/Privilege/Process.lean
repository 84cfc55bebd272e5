import ArpProbe.Privilege

/-! A process under the rules that Linux has for user ids and capabilities: which credentials a call
leaves, and when it is refused. Beyond the rules any call may be refused for reasons of its own. -/

namespace ArpProbe

namespace CapSets

def userBit : UInt32 := 0x80

def mayTakeUsers (s : CapSets) : Bool := s.low.effective &&& userBit ≠ 0

def withoutEffective (s : CapSets) : CapSets :=
  ⟨{ s.low with effective := 0 }, { s.high with effective := 0 }⟩

def withoutPermitted (s : CapSets) : CapSets :=
  ⟨{ s.low with permitted := 0 }, { s.high with permitted := 0 }⟩

def withAllEffective (s : CapSets) : CapSets :=
  ⟨{ s.low with effective := s.low.permitted }, { s.high with effective := s.high.permitted }⟩

/-- The sets once user ids are switched. With the last id of root all capabilities go, but those
permitted that are to be kept; the effective set goes and comes with root as the effective id. -/
def afterSwitch (s : CapSets) (keeping : Bool) (old new : UserIds) : CapSets :=
  if old.contains 0 && !new.contains 0 then
    if keeping then s.withoutEffective else s.withoutEffective.withoutPermitted
  else if old.effective = 0 && new.effective ≠ 0 then s.withoutEffective
  else if old.effective ≠ 0 && new.effective = 0 then s.withAllEffective
  else s

end CapSets

structure Process where
  users : UserIds
  capabilities : CapSets
  keeping : Bool := false
  refusals : Nat → Option Errno := fun _ => none

namespace Process

abbrev Action := StateM Process

def later (p : Process) : Process := { p with refusals := fun n => p.refusals (n + 1) }

def become (p : Process) (users : UserIds) : Process :=
  { p with users, capabilities := p.capabilities.afterSwitch p.keeping p.users users }

def switch (p : Process) (permitted : Bool) (users : UserIds) : Except Errno (Unit × Process) :=
  if permitted then .ok ((), p.become users) else .error Errno.notPermitted

def setuid (p : Process) (u : Nat) : Except Errno (Unit × Process) :=
  if p.capabilities.mayTakeUsers then .ok ((), p.become ⟨u, u, u⟩)
  else p.switch (u = p.users.real || u = p.users.saved) { p.users with effective := u }

def seteuid (p : Process) (u : Nat) : Except Errno (Unit × Process) :=
  p.switch (p.capabilities.mayTakeUsers || p.users.contains u) { p.users with effective := u }

def setresuid (p : Process) (ids : UserIds) : Except Errno (Unit × Process) :=
  let current := p.users.contains
  p.switch (p.capabilities.mayTakeUsers ||
    (current ids.real && current ids.effective && current ids.saved)) ids

def capset (p : Process) (sets : CapSets) : Except Errno (Unit × Process) :=
  if sets.mayFollow p.capabilities then .ok ((), { p with capabilities := sets })
  else .error Errno.notPermitted

def call {α : Type} (rule : Process → Except Errno (α × Process)) : ExceptT IoError Action α :=
  ExceptT.mk fun p =>
    match p.refusals 0 with
    | some e => (.error (.system e), p.later)
    | none =>
      match rule p.later with
      | .error e => (.error (.system e), p.later)
      | .ok (a, q) => (.ok a, q)

instance : CredentialCalls Action where
  userIds := return (← get).users
  capget := call fun p => .ok (p.capabilities, p)
  capset sets := call (·.capset sets)
  keepCapabilities on := call fun p => .ok ((), { p with keeping := on })
  setuid u := call (·.setuid u)
  seteuid u := call (·.seteuid u)
  setresuid ids := call (·.setresuid ids)

end Process

namespace Bracket

open Process (Action)

def perform (b : Bracket Action) : WindowStep → ExceptT IoError Action Unit
  | .acquire => b.acquire
  | .release => b.release
  | .drop => b.dropPermanently

def follow (b : Bracket Action) (p : Process) (steps : List WindowStep) : Process :=
  steps.foldl (fun p s => ((b.perform s).run.run p).2) p

theorem follow_keeps {b : Bracket Action} {P : Process → Prop}
    (step : ∀ s q, P q → P ((b.perform s).run.run q).2) {p : Process} (start : P p)
    (steps : List WindowStep) : P (b.follow p steps) := by
  induction steps generalizing p with
  | nil => exact start
  | cons s steps ih => exact ih (step s p start)

end Bracket

namespace Process

section Running

variable {ε ε' α β : Type} {p p' : Process}

theorem run_bind (x : ExceptT ε Action α) (f : α → ExceptT ε Action β) (p : Process) :
    (x >>= f).run.run p =
      match x.run.run p with
      | (.ok a, q) => (f a).run.run q
      | (.error e, q) => (.error e, q) := by
  change (ExceptT.bindCont f (x.run.run p).1).run (x.run.run p).2 = _
  rcases x.run.run p with ⟨_ | _, q⟩ <;> rfl

theorem ok_of_bind {x : ExceptT ε Action α} {f : α → ExceptT ε Action β} {b : β}
    (h : (x >>= f).run.run p = (.ok b, p')) :
    ∃ a q, x.run.run p = (.ok a, q) ∧ (f a).run.run q = (.ok b, p') := by
  rw [run_bind] at h
  rcases hx : x.run.run p with ⟨_ | a, q⟩ <;> rw [hx] at h
  · cases h
  · exact ⟨a, q, rfl, h⟩

theorem of_lift {x : Action α} {a : α}
    (h : (ExceptT.lift x : ExceptT ε Action α).run.run p = (.ok a, p')) : x.run p = (a, p') := by
  change (Except.ok (x.run p).1, (x.run p).2) = _ at h
  rcases hx : x.run p with ⟨a', q⟩
  rw [hx] at h
  cases h
  rfl

theorem ok_of_first {c : Prop} [Decidable c] {x : ExceptT ε Action Unit}
    {f : Unit → ExceptT ε Action β} {b : β}
    (h : (if c then x >>= f else f ()).run.run p = (.ok b, p')) :
    ∃ q, (if c then x.run.run p = (.ok (), q) else q = p) ∧ (f ()).run.run q = (.ok b, p') := by
  by_cases holds : c
  · simp only [if_pos holds] at h ⊢
    obtain ⟨_, q, ran, h⟩ := ok_of_bind h
    exact ⟨q, ran, h⟩
  · simp only [if_neg holds] at h ⊢
    exact ⟨p, rfl, h⟩

theorem ok_of_adapt {f : ε → ε'} {x : ExceptT ε Action α} {a : α}
    (h : (x.adapt f).run.run p = (.ok a, p')) : x.run.run p = (.ok a, p') := by
  change ((x.run.run p).1.mapError f, (x.run.run p).2) = _ at h
  rcases hx : x.run.run p with ⟨_ | a', q⟩ <;> rw [hx] at h <;> cases h
  rfl

variable {rule : Process → Except Errno (α × Process)}

theorem run_call (rule : Process → Except Errno (α × Process)) (p : Process) :
    (call rule).run.run p =
      match p.refusals 0 with
      | some e => (.error (.system e), p.later)
      | none =>
        match rule p.later with
        | .error e => (.error (.system e), p.later)
        | .ok (a, q) => (.ok a, q) := rfl

theorem ok_of_call {a : α} (h : (call rule).run.run p = (.ok a, p')) :
    p.refusals 0 = none ∧ rule p.later = .ok (a, p') := by
  rw [run_call] at h
  split at h
  · cases h
  · next fine =>
    split at h <;> cases h
    exact ⟨fine, by assumption⟩

theorem error_of_call {e : IoError} (h : (call rule).run.run p = (.error e, p')) :
    p' = p.later := by
  rw [run_call] at h
  split at h
  · cases h
    rfl
  · split at h <;> cases h
    rfl

end Running

section Calls

variable {p p' : Process}

theorem run_capset {sets : CapSets} (fine : p.refusals 0 = none) :
    (CredentialCalls.capset (m := Action) sets).run.run p =
      if sets.mayFollow p.capabilities then (.ok (), { p.later with capabilities := sets })
      else (.error (.system Errno.notPermitted), p.later) := by
  change (call (·.capset sets)).run.run p = _
  have same : p.later.capabilities = p.capabilities := rfl
  rw [run_call, fine]
  cases follows : sets.mayFollow p.capabilities <;> simp [capset, same, follows]

theorem users_capset (sets : CapSets) (p : Process) :
    ((CredentialCalls.capset (m := Action) sets).run.run p).2.users = p.users := by
  cases fine : p.refusals 0 with
  | none =>
    rw [run_capset fine]
    split <;> rfl
  | some e =>
    change ((call (·.capset sets)).run.run p).2.users = _
    rw [run_call, fine]
    rfl

theorem ok_of_capset {sets : CapSets}
    (h : (CredentialCalls.capset (m := Action) sets).run.run p = (.ok (), p')) :
    p'.users = p.users ∧ p'.capabilities = sets := by
  obtain ⟨-, ruled⟩ := ok_of_call h
  unfold capset at ruled
  split at ruled <;> cases ruled
  exact ⟨rfl, rfl⟩

theorem switch_leaves {permitted : Bool} {users : UserIds}
    (h : p.switch permitted users = .ok ((), p')) : p' = p.become users := by
  unfold switch at h
  split at h <;> cases h
  rfl

theorem ok_of_keepCapabilities {on : Bool}
    (h : (CredentialCalls.keepCapabilities (m := Action) on).run.run p = (.ok (), p')) :
    p'.users = p.users ∧ p'.capabilities = p.capabilities ∧ p'.keeping = on := by
  obtain ⟨-, ⟨⟩⟩ := ok_of_call h
  exact ⟨rfl, rfl, rfl⟩

theorem ok_of_setuid {u : Nat}
    (h : (CredentialCalls.setuid (m := Action) u).run.run p = (.ok (), p')) :
    let users : UserIds :=
      if p.capabilities.mayTakeUsers then ⟨u, u, u⟩ else { p.users with effective := u }
    p'.users = users ∧
      p'.capabilities = p.capabilities.afterSwitch p.keeping p.users users := by
  obtain ⟨-, ruled⟩ := ok_of_call h
  have same : p.later.capabilities = p.capabilities := rfl
  unfold setuid at ruled
  rw [same] at ruled
  split at ruled
  · next able =>
    cases ruled
    simp only [if_pos able]
    exact ⟨rfl, rfl⟩
  · next unable =>
    have switched := switch_leaves ruled
    simp only [if_neg unable]
    rw [switched]
    exact ⟨rfl, rfl⟩

theorem ok_of_setresuid {ids : UserIds}
    (h : (CredentialCalls.setresuid (m := Action) ids).run.run p = (.ok (), p')) :
    p'.users = ids := by
  obtain ⟨-, ruled⟩ := ok_of_call h
  have switched := switch_leaves ruled
  rw [switched]
  rfl

end Calls

end Process

end ArpProbe
