import ArpProbe.Proofs.Prober.History
import ArpProbe.Proofs.Privilege.Credentials

/-! Privilege windows in the record of a kernel: an operation with the calls that open its window
before it and those that close the window behind it. -/

namespace ArpProbe

open Kernel (AddsCredentials)

def Call.isGuarded : Call → Bool
  | packetSocket | bindToDevice _ => true
  | _ => false

namespace Event

def needsWindow : Event → Bool
  | call c _ => c.isGuarded
  | _ => false

def isUnguarded (e : Event) : Bool := e.windowStep?.isNone && !e.needsWindow

theorem isUnguarded_of_isCredential {e : Event} (h : e.isCredential = true) :
    e.isUnguarded = true := by
  cases e with
  | call c failure =>
    cases c with
    | capget | capset | keepCapabilities | setuid | seteuid | setresuid => rfl
    | _ => cases h
  | _ => cases h

theorem needsWindow_of_isUnguarded {e : Event} (h : e.isUnguarded = true) :
    e.needsWindow = false := by simpa using (Bool.and_eq_true_iff.mp h).2

end Event

def Sys.MayRecord {α : Type} (x : Sys α) (g : History) : Prop :=
  (∃ k, (x.run k).2.events = k.events ++ g) ∧ ∀ e ∈ g, e.isCredential = true

theorem Sys.Within.mayRecord {α : Type} {x : Sys α} (h : Within AddsCredentials x) (k : Kernel) :
    ∃ g, (x.run k).2.events = k.events ++ g ∧ x.MayRecord g := by
  obtain ⟨g, recorded, credentials⟩ := h k
  exact ⟨g, recorded, ⟨k, recorded⟩, credentials⟩

def Bracket.IsWindow (b : Bracket Sys) (c : Call) (g : History) : Prop :=
  ∃ opening failure closing,
    g = .window .acquire :: opening ++ .call c failure :: .window .release :: closing ∧
      b.acquire.run.MayRecord opening ∧ b.release.run.MayRecord closing

def Bracket.IsDrop (b : Bracket Sys) (g : History) : Prop :=
  ∃ calls, g = .window .drop :: calls ∧ b.dropPermanently.run.MayRecord calls

/-- Every call that needs the privilege has a window of its own, in which nothing else happens but
what it takes to open and to close it. -/
def Bracket.Guards (b : Bracket Sys) (h : History) : Prop :=
  ∀ (before : History) c failure after,
    c.isGuarded = true → h = before ++ .call c failure :: after →
      ∃ earlier opening closing later,
        before = earlier ++ .window .acquire :: opening ∧
          after = .window .release :: closing ++ later ∧
          b.acquire.run.MayRecord opening ∧ b.release.run.MayRecord closing

theorem split_unique {α : Type} {P : α → Prop} {before before' after after' : List α} {x y : α}
    (same : before ++ x :: after = before' ++ y :: after') (none_before : ∀ z ∈ before, ¬ P z)
    (none_after : ∀ z ∈ after, ¬ P z) (hy : P y) : before = before' ∧ x = y ∧ after = after' := by
  rcases List.append_eq_append_iff.mp same with ⟨t, rfl, rest⟩ | ⟨t, rfl, rest⟩
  · cases t with
    | nil => simpa using rest
    | cons z t =>
      obtain ⟨rfl, rfl⟩ := List.cons.inj rest
      exact absurd hy (none_after y (by simp))
  · cases t with
    | nil => simpa [eq_comm] using rest
    | cons z t =>
      obtain ⟨rfl, rfl⟩ := List.cons.inj rest
      exact absurd hy (none_before y (by simp))

namespace Bracket.Guards

variable {b : Bracket Sys} {h g : History}

theorem of_none (none : ∀ e ∈ h, e.needsWindow = false) : b.Guards h := by
  rintro before c failure after needed rfl
  have unneeded := none (.call c failure) (by simp)
  rw [Event.needsWindow, needed] at unneeded
  cases unneeded

theorem drop (d : b.IsDrop h) : b.Guards h := by
  obtain ⟨calls, rfl, drops⟩ := d
  refine of_none (List.forall_mem_cons.mpr ⟨rfl, fun e he => ?_⟩)
  exact Event.needsWindow_of_isUnguarded (Event.isUnguarded_of_isCredential (drops.2 e he))

theorem append (first : b.Guards h) (second : b.Guards g) : b.Guards (h ++ g) := by
  intro before c failure after needed split
  -- A window does not reach from one part into the other, so each call keeps the one it has.
  rcases List.append_eq_append_iff.mp split with ⟨t, rfl, rest⟩ | ⟨t, rfl, rest⟩
  · obtain ⟨earlier, opening, closing, later, rfl, rfl, opens, closes⟩ :=
      second t c failure after needed rest
    exact ⟨h ++ earlier, opening, closing, later, by simp, rfl, opens, closes⟩
  · cases t with
    | nil =>
      obtain ⟨earlier, opening, closing, later, start, rfl, opens, closes⟩ :=
        second [] c failure after needed rest.symm
      simp at start
    | cons e t =>
      obtain ⟨rfl, rfl⟩ := List.cons.inj rest
      obtain ⟨earlier, opening, closing, later, rfl, rfl, opens, closes⟩ :=
        first before c failure t needed rfl
      exact ⟨earlier, opening, closing, later ++ g, rfl, by simp, opens, closes⟩

theorem window {c : Call} (w : b.IsWindow c g) : b.Guards g := by
  obtain ⟨opening, failure, closing, rfl, opens, closes⟩ := w
  intro before c' failure' after needed split
  have credential (e : Event) (h : e.isCredential = true) : ¬ e.needsWindow = true := by
    simp [Event.needsWindow_of_isUnguarded (Event.isUnguarded_of_isCredential h)]
  have step (s : WindowStep) {calls : History} (all : ∀ e ∈ calls, e.isCredential = true) :
      ∀ e ∈ Event.window s :: calls, ¬ e.needsWindow = true :=
    List.forall_mem_cons.mpr ⟨by simp [Event.needsWindow], fun e he => credential e (all e he)⟩
  obtain ⟨rfl, ⟨⟩, rfl⟩ := split_unique (P := fun e => e.needsWindow = true) split
    (step .acquire opens.2) (step .release closes.2) needed
  exact ⟨[], opening, closing, [], rfl, by simp, opens, closes⟩

end Bracket.Guards

section

variable {α : Type} (b : Bracket Sys) (v : Verbosity) (op : Sys α) (k : Kernel)

theorem bracketed_run :
    ∃ k₁, (b.acquire.run.run (k.record (.window .acquire))).2.SameButText k₁ ∧
      let closed := b.release.run.run ((op.run k₁).2.record (.window .release))
      (bracketed b v op).run.run k =
        ((closed.1.map fun _ => (op.run k₁).1).mapError (Error.privilege "release"), closed.2) := by
  have rest (k₁ : Kernel) :
      let closed := b.release.run.run ((op.run k₁).2.record (.window .release))
      (do
        let result ← ExceptT.lift op
        ExceptT.lift (Sys.record (.window .release))
        b.release.adapt (Error.privilege "release")
        return result : ExceptT Error Sys α).run.run k₁ =
        ((closed.1.map fun _ => (op.run k₁).1).mapError (Error.privilege "release"), closed.2) := by
    simp only [Sys.run_except_bind, Sys.run_lift, Sys.run_adapt, Sys.run_record]
    rcases b.release.run.run ((op.run k₁).2.record (.window .release)) with ⟨_ | _, k₂⟩ <;> rfl
  unfold bracketed
  simp only [Sys.run_except_bind, Sys.run_lift, Sys.run_record]
  rcases h : b.acquire.run.run (k.record (.window .acquire)) with ⟨cause | ⟨⟩, k₁⟩
  · exact ⟨_, Sys.within_debug v .low .privs _ k₁, rest _⟩
  · exact ⟨k₁, Kernel.SameButText.chains.refl k₁, rest k₁⟩

theorem bracketed_closes (modest : b.IsModest) {c : Call}
    (calls : ∀ k, ∃ failure, (op.run k).2.events = k.events ++ [.call c failure]) :
    ∃ opening failure k₁ result,
      k₁.events = k.events ++ .window .acquire :: opening ++ [.call c failure] ++
        [.window .release] ∧
      b.acquire.run.MayRecord opening ∧
      (bracketed b v op).run.run k =
        (((b.release.run.run k₁).1.map fun _ => result).mapError (Error.privilege "release"),
          (b.release.run.run k₁).2) := by
  obtain ⟨k₁, noted, ran⟩ := bracketed_run b v op k
  obtain ⟨opening, opened, acquires⟩ := modest.acquire.mayRecord (k.record (.window .acquire))
  obtain ⟨failure, called⟩ := calls k₁
  refine ⟨opening, failure, (op.run k₁).2.record (.window .release), (op.run k₁).1, ?_, acquires,
    ran⟩
  change (op.run k₁).2.events ++ [.window .release] = _
  rw [called, noted.events, opened]
  simp [Kernel.record]

theorem bracketed_isWindow (modest : b.IsModest) {c : Call}
    (calls : ∀ k, ∃ failure, (op.run k).2.events = k.events ++ [.call c failure]) :
    ∃ g, ((bracketed b v op).run.run k).2.events = k.events ++ g ∧ b.IsWindow c g := by
  obtain ⟨opening, failure, k₁, result, opened, acquires, ran⟩ :=
    bracketed_closes b v op k modest calls
  obtain ⟨closing, closed, releases⟩ := modest.release.mayRecord k₁
  refine ⟨_, ?_, opening, failure, closing, rfl, acquires, releases⟩
  rw [ran, closed, opened]
  simp

theorem dropPrivileges_run :
    ∃ k₁, let dropped := b.dropPermanently.run.run (k.record (.window .drop))
      (dropPrivileges b v).run.run k = (dropped.1.mapError (Error.privilege "drop"), k₁) ∧
        dropped.2.SameButText k₁ := by
  unfold dropPrivileges
  simp only [Sys.run_except_bind, Sys.run_lift, Sys.run_adapt, Sys.run_record]
  rcases b.dropPermanently.run.run (k.record (.window .drop)) with ⟨cause | ⟨⟩, k₁⟩
  · exact ⟨k₁, rfl, Kernel.SameButText.chains.refl k₁⟩
  · exact ⟨_, rfl, Sys.within_debug v .medium .privs "privileges dropped" k₁⟩

end

namespace History

def guarded (h : History) : History := h.filter fun e => !e.isUnguarded

variable {h g : History}

theorem guarded_append : guarded (h ++ g) = guarded h ++ guarded g := List.filter_append ..

theorem guarded_of_unguarded (all : ∀ e ∈ h, e.isUnguarded = true) : guarded h = [] := by
  refine List.filter_eq_nil_iff.mpr fun e he => ?_
  simp [all e he]

theorem guarded_of_credentials (all : ∀ e ∈ h, e.isCredential = true) : guarded h = [] :=
  guarded_of_unguarded fun e he => Event.isUnguarded_of_isCredential (all e he)

theorem guarded_cons {e : Event} (he : e.isUnguarded = false) :
    guarded (e :: h) = e :: guarded h := by
  unfold guarded
  rw [List.filter_cons_of_pos (by simp [he])]

theorem guarded_window {b : Bracket Sys} {c : Call} (needed : c.isGuarded = true)
    (w : b.IsWindow c h) :
    ∃ failure, guarded h = [.window .acquire, .call c failure, .window .release] := by
  obtain ⟨opening, failure, closing, rfl, opens, closes⟩ := w
  have called : (Event.call c failure).isUnguarded = false := by
    simp [Event.isUnguarded, Event.needsWindow, needed]
  refine ⟨failure, ?_⟩
  rw [List.cons_append, guarded_cons rfl, guarded_append, guarded_of_credentials opens.2,
    guarded_cons called, guarded_cons rfl, guarded_of_credentials closes.2, List.nil_append]

theorem guarded_drop {b : Bracket Sys} (d : b.IsDrop h) : guarded h = [.window .drop] := by
  obtain ⟨calls, rfl, drops⟩ := d
  rw [guarded_cons rfl, guarded_of_credentials drops.2]

end History

end ArpProbe
