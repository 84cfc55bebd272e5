import ArpProbe.Proofs.Probe.Asides
import ArpProbe.Proofs.Probe.Stages

/-! What becomes of privileges while a probe is set up: a window for the socket, one for its tie to
the interface unless there is none, and the drop. Each stage adds its own to the record. -/

namespace ArpProbe

open Sys (Within)
open Kernel (AddsAsides)

namespace Event

def opensSocket : Event → Bool
  | call .packetSocket _ => true
  | _ => false

def tiesSocket : Event → Bool
  | call (.bindToDevice _) _ => true
  | _ => false

end Event

namespace Probe

inductive Phase where
  | limited
  | socket
  | source
  | dropped

/-- What can have happened to the privileges in each phase, in order. -/
inductive Outline : Phase → History → Prop
  | limited : Outline .limited []
  | socket (failure : Option Errno) :
    Outline .socket [.window .acquire, .call .packetSocket failure, .window .release]
  | untied {h : History} (before : Outline .socket h) : Outline .source h
  | tied {h : History} (before : Outline .socket h) (name : String) (failure : Option Errno) :
    Outline .source
      (h ++ [.window .acquire, .call (.bindToDevice name) failure, .window .release])
  | dropped {h : History} (before : Outline .source h) : Outline .dropped (h ++ [.window .drop])

theorem Outline.eq_nil {h : History} (o : Outline .limited h) : h = [] := by
  cases o
  rfl

theorem Outline.once {phase : Phase} {h : History} (o : Outline phase h) :
    h.countP Event.opensSocket ≤ 1 ∧ h.countP Event.tiesSocket ≤ 1 := by
  have socket {h : History} (o : Outline .socket h) :
      h.countP Event.opensSocket = 1 ∧ h.countP Event.tiesSocket = 0 := by
    cases o
    exact ⟨rfl, rfl⟩
  have source {h : History} (o : Outline .source h) :
      h.countP Event.opensSocket ≤ 1 ∧ h.countP Event.tiesSocket ≤ 1 := by
    cases o with
    | untied before =>
      obtain ⟨opened, tied⟩ := socket before
      omega
    | tied before name failure =>
      obtain ⟨opened, tied⟩ := socket before
      rw [List.countP_append, List.countP_append, opened, tied]
      exact ⟨Nat.le_refl _, Nat.le_refl _⟩
  cases o with
  | limited => simp
  | socket failure => exact ⟨Nat.le_refl _, Nat.zero_le _⟩
  | untied before => exact source (.untied before)
  | tied before name failure => exact source (.tied before name failure)
  | dropped before =>
    rw [List.countP_append, List.countP_append]
    exact source before

def Stage.phase : Stage → Phase
  | openSocket => .limited
  | checkSocket _ | findInterface | findTarget _ | readSource _ _ | openSource _ _ _
  | tieSource _ _ _ => .socket
  | pickSource _ _ _ | bind _ _ | readBack _ _ | drop _ _ _ => .source
  | ready _ => .dropped

structure Recorded (b : Bracket Sys) (phase : Phase) (h : History) : Prop where
  windows : b.Guards h
  outline : Outline phase h.guarded
  quiet : ∀ e ∈ h, e.isProbing = false

namespace Recorded

variable {b : Bracket Sys} {phase : Phase} {h g : History}

theorem append (r : Recorded b phase h) {phase' : Phase} (windows : b.Guards g)
    (outline : Outline phase' (h.guarded ++ g.guarded)) (quiet : ∀ e ∈ g, e.isProbing = false) :
    Recorded b phase' (h ++ g) where
  windows := r.windows.append windows
  outline := by rwa [History.guarded_append]
  quiet e he := (List.mem_append.mp he).elim (r.quiet e) (quiet e)

theorem asides (r : Recorded b phase h) (all : ∀ e ∈ g, e.isAside = true) :
    Recorded b phase (h ++ g) := by
  have unguarded (e : Event) (he : e ∈ g) : e.isUnguarded = true :=
    (Bool.and_eq_true_iff.mp (all e he)).1
  refine r.append (.of_none fun e he => Event.needsWindow_of_isUnguarded (unguarded e he)) ?_
    fun e he => ?_
  · rw [History.guarded_of_unguarded unguarded, List.append_nil]
    exact r.outline
  · simpa using (Bool.and_eq_true_iff.mp (all e he)).2

theorem untied (r : Recorded b .socket h) : Recorded b .source h :=
  ⟨r.windows, .untied r.outline, r.quiet⟩

theorem window (r : Recorded b phase h) {c : Call} (w : b.IsWindow c g)
    {phase' : Phase} (needed : c.isGuarded = true)
    (outline : ∀ failure, Outline phase'
      (h.guarded ++ [.window .acquire, .call c failure, .window .release])) :
    Recorded b phase' (h ++ g) := by
  obtain ⟨failure, guarded⟩ := History.guarded_window needed w
  refine r.append (.window w) (by rw [guarded]; exact outline failure) ?_
  obtain ⟨opening, failure, closing, rfl, opens, closes⟩ := w
  have called : (Event.call c failure).isProbing = false := by
    cases c with
    | packetSocket | bindToDevice => rfl
    | _ => cases needed
  simp only [List.forall_mem_append, List.forall_mem_cons, List.cons_append]
  exact ⟨rfl, fun e he => Event.isProbing_of_isCredential (opens.2 e he), called, rfl,
    fun e he => Event.isProbing_of_isCredential (closes.2 e he)⟩

theorem socket (r : Recorded b .limited h) (w : b.IsWindow .packetSocket g) :
    Recorded b .socket (h ++ g) := by
  refine r.window w rfl fun failure => ?_
  rw [r.outline.eq_nil]
  exact .socket failure

theorem tied (r : Recorded b .socket h) {name : String} (w : b.IsWindow (.bindToDevice name) g) :
    Recorded b .source (h ++ g) := r.window w rfl fun failure => .tied r.outline name failure

theorem dropped (r : Recorded b .source h) (d : b.IsDrop g) : Recorded b .dropped (h ++ g) := by
  refine r.append (.drop d) ?_ ?_
  · rw [History.guarded_drop d]
    exact .dropped r.outline
  · obtain ⟨calls, rfl, drops⟩ := d
    exact List.forall_mem_cons.mpr
      ⟨rfl, fun e he => Event.isProbing_of_isCredential (drops.2 e he)⟩

end Recorded

def Leaves (b : Bracket Sys) (h : History) (k : Kernel) (r : Except Error Stage × Kernel) : Prop :=
  ∃ g, r.2.events = k.events ++ g ∧ (∃ phase, Recorded b phase (h ++ g)) ∧
    ∀ s', r.1 = .ok s' → Recorded b s'.phase (h ++ g)

namespace Leaves

variable {α : Type} {b : Bracket Sys} {phase : Phase} {h g : History} {k : Kernel}
  {x : ExceptT Error Sys α} {next : α → Stage}

theorem of_recorded (added : (x.run.run k).2.events = k.events ++ g)
    (now : Recorded b phase (h ++ g)) (goes : ∀ a, Recorded b (next a).phase (h ++ g)) :
    Leaves b h k ((x >>= fun a => pure (next a)).run.run k) := by
  rw [Sys.run_bind_pure]
  refine ⟨g, added, ⟨phase, now⟩, fun s' returned => ?_⟩
  rcases hx : (x.run.run k).1 with e | a <;> rw [hx] at returned
  · cases returned
  · cases returned
    exact goes a

theorem asides (had : Recorded b phase h) (only : Within AddsAsides x.run)
    (goes : ∀ a, Recorded b (next a).phase h) :
    Leaves b h k ((x >>= fun a => pure (next a)).run.run k) := by
  obtain ⟨g, added, all⟩ := only k
  exact of_recorded added (had.asides all) fun a => (goes a).asides all

end Leaves

end Probe

theorem Source.bindToDevice_run (name : String) (b : Bracket Sys) (v : Verbosity) (k : Kernel) :
    let window := (bracketed b v (Sys.perform (.bindToDevice name)).run).run.run k
    ∃ k₁, (bindToDevice name b v).run.run k = (window.1.map fun _ => (), k₁) ∧
      window.2.SameButText k₁ ∧ ∀ e, window.1 = .error e → k₁ = window.2 := by
  unfold bindToDevice
  simp only [Sys.run_except_bind]
  rcases (bracketed b v (Sys.perform (.bindToDevice name)).run).run.run k with
    ⟨e | ⟨cause | ⟨⟩⟩, k₁⟩
  · exact ⟨k₁, rfl, Kernel.SameButText.chains.refl k₁, fun _ _ => rfl⟩
  · exact ⟨_, rfl, Sys.within_print .log _ k₁, nofun⟩
  · exact ⟨k₁, rfl, Kernel.SameButText.chains.refl k₁, nofun⟩

namespace Probe

variable {c : Config} {b : Bracket Sys}

theorem Stage.step_leaves (modest : b.IsModest) (s : Stage) {h : History}
    (had : Recorded b s.phase h) (k : Kernel) : Leaves b h k ((s.step c b).run.run k) := by
  cases s with
  | openSocket =>
    obtain ⟨g, added, w⟩ := bracketed_isWindow b c.verbosity
      (Sys.perform .packetSocket).run k modest (Sys.query_adds _ _)
    exact .of_recorded added (had.socket w) fun _ => had.socket w
  | checkSocket socket => exact .asides had (Kernel.AddsAsides.chains.pure _) fun _ => had
  | findInterface => exact .asides had (within_findInterface c) fun _ => had
  | findTarget i => exact .asides had (Target.within_resolve _) fun _ => had
  | readSource i target =>
    refine .asides had (Kernel.AddsAsides.chains.pure _) fun given => ?_
    split
    · exact had.untied
    · exact had
  | openSource i target given =>
    refine .asides had ((within_asides_query (fun _ => rfl) _).adapt _) fun given => ?_
    split
    · exact had
    · exact had.untied
  | tieSource i target given =>
    obtain ⟨g, added, w⟩ := bracketed_isWindow b c.verbosity
      (Sys.perform (.bindToDevice i.name)).run k modest (Sys.query_adds _ _)
    -- A warning that the tie failed is printed after the window and leaves the record as it is.
    obtain ⟨k', ran, noted, _⟩ := Source.bindToDevice_run i.name b c.verbosity k
    exact .of_recorded (by rw [ran, noted.events, added]) (had.tied w) fun _ => had.tied w
  | pickSource i target given =>
    exact .asides had (Source.within_pick target given c.modes c.verbosity) fun _ => had
  | bind i q => exact .asides had ((within_asides_query (fun _ => rfl) _).adapt _) fun _ => had
  | readBack i q => exact .asides had (within_readBack c i q) fun _ => had
  | drop i q endpoint =>
    obtain ⟨k', ran, noted⟩ := dropPrivileges_run b c.verbosity k
    obtain ⟨calls, added, drops⟩ := modest.dropPermanently.mayRecord (k.record (.window .drop))
    have d : b.IsDrop (.window .drop :: calls) := ⟨calls, rfl, drops⟩
    refine .of_recorded (g := .window .drop :: calls) ?_ (had.dropped d) fun _ => had.dropped d
    rw [ran, noted.events, added]
    simp [Kernel.record]
  | ready p =>
    have still : Within AddsAsides (pure p : ExceptT Error Sys Prober).run :=
      Kernel.AddsAsides.chains.pure _
    exact @Leaves.asides _ _ _ _ k _ Stage.ready had still fun _ => had

end Probe

end ArpProbe
