import ArpProbe.Proofs.Kernel.Recording
import ArpProbe.Proofs.Probe.Verdict

/-! Setting a probe up, stage by stage. Each stage starts where the one before it ended well, with
what was found so far, and the first that fails is the end of it all. -/

namespace ArpProbe

namespace Source

def pick (target : Ipv4) (source : Option Ipv4) (modes : Modes) (v : Verbosity) :
    ExceptT Error Sys Ipv4 := do
  let address := known target source modes
  let address ←
    if source.isSome || !address.isUnspecified then do
      (Sys.perform (.inetBind address)).adapt (Error.source "bind")
      pure address
    else routed target
  ExceptT.lift (Sys.debug v .medium .socket s!"source address {address} for target {target}")
  if !modes.dad && address.isUnspecified then throw .noSourceAddress
  else return address

theorem discover_eq (target : Ipv4) (source : Option Ipv4) (name : String) (modes : Modes)
    (b : Bracket Sys) (v : Verbosity) :
    discover target source name modes b v =
      if modes.dad && source.isNone then return .unspecified
      else (do
        (Sys.perform .inetSocket).adapt (Error.source "socket")
        if name ≠ "" then bindToDevice name b v
        pick target source modes v) := by
  unfold discover checked pick
  simp only [bind_assoc, pure_bind]
  split
  · rfl
  · congr 1
    funext _
    split
    · rw [bind_assoc]
      congr 1
      funext _
      split <;> simp only [bind_assoc, pure_bind]
    · split <;> simp only [bind_assoc, pure_bind]

end Source

namespace Probe

def findInterface (c : Config) : ExceptT Error Sys Interface := do
  let i ← Resolver.resolve (c.discovery.map Strategy.ofMethod) c.hint c.modes.dad c.verbosity
  ExceptT.lift (Sys.debug c.verbosity .medium .device
    s!"using interface {i.name} (index {i.index.toInt})")
  return i

def addresses (c : Config) (i : Interface) : ExceptT Error Sys Endpoint := do
  let (hardwareType, me) ← Sys.packetName.adapt Error.bind
  if me.isEmpty then throw (.noLinkAddress i.name c.modes.dad)
  if ¬ i.agreesWith me.length then
    ExceptT.lift (Sys.debug c.verbosity .low .device
      (s!"{i.name} reports {i.addressLength} bytes addresses, " ++
        s!"socket bound with {me.length}"))
  let he ← ExceptT.lift (broadcast i me.length c.modes.quiet)
  ExceptT.lift (Sys.debug c.verbosity .high .socket
    s!"bound to hardware type {hardwareType}, {me.length} bytes address")
  return ⟨hardwareType, me, he⟩

theorem endpoint_eq (c : Config) (i : Interface) :
    endpoint c i = (do
      (Sys.perform (.packetBind i.index)).adapt Error.bind
      addresses c i) := rfl

def readBack (c : Config) (i : Interface) (q : Query) : ExceptT Error Sys Endpoint := do
  let endpoint ← addresses c i
  if ¬ c.modes.quiet then
    ExceptT.lift (Sys.print .report s!"ARPING {q.target} from {q.source} {i.name}\n")
  return endpoint

inductive Stage where
  | openSocket
  | checkSocket (socket : Except IoError Unit)
  | findInterface
  | findTarget (i : Interface)
  | readSource (i : Interface) (target : Ipv4)
  | openSource (i : Interface) (target : Ipv4) (given : Option Ipv4)
  | tieSource (i : Interface) (target : Ipv4) (given : Option Ipv4)
  | pickSource (i : Interface) (target : Ipv4) (given : Option Ipv4)
  | bind (i : Interface) (q : Query)
  | readBack (i : Interface) (q : Query)
  | drop (i : Interface) (q : Query) (endpoint : Endpoint)
  | ready (p : Prober)

def Stage.step (c : Config) (b : Bracket Sys) : Stage → ExceptT Error Sys Stage
  | openSocket => do
    let socket ← bracketed b c.verbosity (Sys.perform .packetSocket).run
    return checkSocket socket
  | checkSocket socket => do
    ExceptT.mk (pure (socket.mapError Error.socket))
    return findInterface
  | findInterface => do
    let i ← Probe.findInterface c
    return findTarget i
  | findTarget i => do
    let target ← Target.resolve c.target
    return readSource i target
  | readSource i target => do
    let given ← ExceptT.mk (pure (Source.ofText c.source))
    return if c.modes.dad && given.isNone then bind i ⟨target, .unspecified, c.modes.dad⟩
      else openSource i target given
  | openSource i target given => do
    (Sys.perform .inetSocket).adapt (Error.source "socket")
    return if i.name ≠ "" then tieSource i target given else pickSource i target given
  | tieSource i target given => do
    Source.bindToDevice i.name b c.verbosity
    return pickSource i target given
  | pickSource i target given => do
    let source ← Source.pick target given c.modes c.verbosity
    return bind i ⟨target, source, c.modes.dad⟩
  | bind i q => do
    (Sys.perform (.packetBind i.index)).adapt Error.bind
    return readBack i q
  | readBack i q => do
    let endpoint ← Probe.readBack c i q
    return drop i q endpoint
  | drop i q endpoint => do
    dropPrivileges b c.verbosity
    return ready (.fresh c.modes c.count c.timeout endpoint q i.index)
  | ready p => return ready p

variable {c : Config} {b : Bracket Sys}

/-- From a stage on, one after another up to the first that fails, or to a prober that is ready. -/
inductive Ends (c : Config) (b : Bracket Sys) : Stage → Kernel → Except Error Prober × Kernel → Prop
  | ready (p : Prober) (k : Kernel) : Ends c b (.ready p) k (.ok p, k)
  | failed {s : Stage} {k k' : Kernel} {e : Error}
    (fails : (s.step c b).run.run k = (.error e, k')) : Ends c b s k (.error e, k')
  | next {s s' : Stage} {k k' : Kernel} {r : Except Error Prober × Kernel}
    (step : (s.step c b).run.run k = (.ok s', k')) (rest : Ends c b s' k' r) : Ends c b s k r

namespace Ends

theorem bind {α : Type} {x : ExceptT Error Sys α} {s : Stage} {next : α → Stage}
    {f : α → ExceptT Error Sys Prober} {k : Kernel}
    (step : s.step c b = x >>= fun a => pure (next a))
    (rest : ∀ a k', Ends c b (next a) k' ((f a).run.run k')) :
    Ends c b s k ((x >>= f).run.run k) := by
  have run := Sys.run_bind_pure x next k
  rw [← step] at run
  rw [Sys.run_except_bind]
  rcases h : x.run.run k with ⟨e | a, k'⟩ <;> rw [h] at run
  · exact .failed run
  · exact .next run (rest a k')

theorem bind_then {α : Type} {x : ExceptT Error Sys α} {y : α → ExceptT Error Sys Unit} {s : Stage}
    {next : α → Stage} {f : α → ExceptT Error Sys Prober} {k : Kernel}
    (step : s.step c b = (x >>= fun a => y a >>= fun _ => pure a) >>= fun a => pure (next a))
    (rest : ∀ a k', Ends c b (next a) k' ((f a).run.run k')) :
    Ends c b s k ((x >>= fun a => y a >>= fun _ => f a).run.run k) := by
  have both (g : α → ExceptT Error Sys Prober) : (x >>= fun a => y a >>= fun _ => g a) =
      (x >>= fun a => y a >>= fun _ => pure a) >>= g := by simp only [bind_assoc, pure_bind]
  rw [both]
  exact .bind step rest

end Ends

theorem setUp_ends {k k₁ : Kernel}
    (limited : (limitPrivileges (m := Sys)).run.run k = (.ok b, k₁)) :
    Ends c b .openSocket k₁ ((setUp c).run.run k) := by
  unfold setUp
  rw [Sys.run_except_bind, limited]
  refine .bind rfl fun socket k₂ => .bind rfl fun _ k₃ => .bind_then rfl fun i k₄ => ?_
  refine .bind rfl fun target k₅ => .bind rfl fun given k₆ => ?_
  -- There are three ways to a source address, and from there on they have the same stages.
  have bound (source : Ipv4) (k : Kernel) :
      let q : Query := ⟨target, source, c.modes.dad⟩
      Ends c b (.bind i q) k ((do
        let endpoint ← endpoint c i
        if ¬ c.modes.quiet then
          ExceptT.lift (Sys.print .report s!"ARPING {target} from {source} {i.name}\n")
        dropPrivileges b c.verbosity
        return Prober.fresh c.modes c.count c.timeout endpoint q i.index :
          ExceptT Error Sys Prober).run.run k) := by
    intro q
    have dropped (endpoint : Endpoint) (k : Kernel) : Ends c b (.drop i q endpoint) k ((do
        dropPrivileges b c.verbosity
        return Prober.fresh c.modes c.count c.timeout endpoint q i.index :
          ExceptT Error Sys Prober).run.run k) := .bind rfl fun _ k => .ready _ k
    simp only [endpoint_eq, bind_assoc]
    refine .bind rfl fun _ k => ?_
    by_cases loud : ¬ c.modes.quiet = true
    · simp only [if_pos loud]
      exact .bind_then (by simp only [Stage.step, readBack, if_pos loud]; rfl) dropped
    · simp only [if_neg loud]
      exact .bind (by simp only [Stage.step, readBack, if_neg loud, bind_pure]) dropped
  simp only [Source.discover_eq]
  by_cases unasked : (c.modes.dad && given.isNone) = true
  · simp only [if_pos unasked, pure_bind]
    exact bound .unspecified k₆
  · have picked (k : Kernel) :=
      @Ends.bind c b _ (Source.pick target given c.modes c.verbosity) (.pickSource i target given)
        (fun source => .bind i ⟨target, source, c.modes.dad⟩) _ k rfl bound
    simp only [if_neg unasked, bind_assoc]
    refine .bind rfl fun _ k₇ => ?_
    by_cases named : i.name ≠ ""
    · simp only [if_pos named, bind_assoc]
      exact .bind rfl fun _ k₈ => picked k₈
    · simp only [if_neg named]
      exact picked k₇

namespace Ends

variable {s s' : Stage} {k k' : Kernel} {e : Error} {r : Except Error Prober × Kernel}

theorem after (ends : Ends c b s k r) (step : (s.step c b).run.run k = (.ok s', k')) :
    Ends c b s' k' r := by
  cases ends with
  | ready p k =>
    cases step
    exact .ready p k
  | failed fails =>
    rw [fails] at step
    cases step
  | next step' rest =>
    rw [step] at step'
    cases step'
    exact rest

end Ends

inductive Starts (c : Config) (b : Bracket Sys) (k : Kernel) : Nat → Stage → Kernel → Prop
  | first {k₁ : Kernel} (limited : (limitPrivileges (m := Sys)).run.run k = (.ok b, k₁)) :
    Starts c b k 0 .openSocket k₁
  | next {n : Nat} {s s' : Stage} {k₁ k₂ : Kernel} (before : Starts c b k n s k₁)
    (step : (s.step c b).run.run k₁ = (.ok s', k₂)) : Starts c b k (n + 1) s' k₂

namespace Starts

variable {n m : Nat} {s s' : Stage} {k k₁ k₂ : Kernel}

theorem ends (starts : Starts c b k n s k₁) : Ends c b s k₁ ((setUp c).run.run k) := by
  induction starts with
  | first limited => exact setUp_ends limited
  | next before step ih => exact ih.after step

theorem unique (starts : Starts c b k n s k₁) (starts' : Starts c b k n s' k₂) :
    s = s' ∧ k₁ = k₂ := by
  induction starts generalizing s' k₂ with
  | first limited =>
    cases starts' with
    | first limited' =>
      rw [limited] at limited'
      cases limited'
      exact ⟨rfl, rfl⟩
  | next before step ih =>
    cases starts' with
    | next before' step' =>
      obtain ⟨rfl, rfl⟩ := ih before'
      rw [step] at step'
      cases step'
      exact ⟨rfl, rfl⟩

theorem last {e : Error} (starts : Starts c b k n s k₁)
    (fails : (s.step c b).run.run k₁ = (.error e, k₂)) (later : n < m) {s' : Stage} {k' : Kernel} :
    ¬ Starts c b k m s' k' := by
  intro starts'
  induction starts' with
  | first limited => exact Nat.not_lt_zero n later
  | next before step ih =>
    rcases Nat.lt_succ_iff_lt_or_eq.mp later with earlier | rfl
    · exact ih earlier
    · obtain ⟨rfl, rfl⟩ := starts.unique before
      rw [fails] at step
      cases step

end Starts

theorem Stage.step_ready {s : Stage} {p : Prober} {k k' : Kernel}
    (step : (s.step c b).run.run k = (.ok (.ready p), k')) :
    (∃ i q endpoint, s = .drop i q endpoint) ∨ s = .ready p ∧ k' = k := by
  have found {α : Type} {x : ExceptT Error Sys α} {next : α → Stage}
      (h : (x >>= fun a => pure (next a)).run.run k = (.ok (.ready p), k')) :
      ∃ a, .ready p = next a := by
    rw [Sys.run_bind_pure] at h
    rcases hx : (x.run.run k).1 with e | a <;> rw [hx] at h
    · cases h
    · exact ⟨a, (Except.ok.inj (congrArg Prod.fst h)).symm⟩
  cases s with
  | drop i q endpoint => exact .inl ⟨i, q, endpoint, rfl⟩
  | ready p' =>
    cases step
    exact .inr ⟨rfl, rfl⟩
  | readSource =>
    obtain ⟨_, next⟩ := found step
    split at next <;> cases next
  | openSource =>
    obtain ⟨_, next⟩ := found step
    split at next <;> cases next
  | _ => obtain ⟨_, ⟨⟩⟩ := found step

theorem Starts.of_ready {n : Nat} {p : Prober} {k k₁ : Kernel}
    (starts : Starts c b k n (.ready p) k₁) :
    ∃ m i q endpoint k₀, Starts c b k m (.drop i q endpoint) k₀ ∧
      (Stage.step c b (.drop i q endpoint)).run.run k₀ = (.ok (.ready p), k₁) := by
  generalize h : Stage.ready p = s at starts
  induction starts with
  | first => cases h
  | next before step ih =>
    subst h
    rcases Stage.step_ready step with ⟨i, q, endpoint, rfl⟩ | ⟨rfl, rfl⟩
    · exact ⟨_, i, q, endpoint, _, before, step⟩
    · exact ih rfl

theorem Ends.cases {n : Nat} {s : Stage} {k k₁ : Kernel} {r : Except Error Prober × Kernel}
    (ends : Ends c b s k₁ r) (starts : Starts c b k n s k₁) :
    (∃ n s k₁ e k₂, Starts c b k n s k₁ ∧ (s.step c b).run.run k₁ = (.error e, k₂)) ∨
      ∃ n p k₁, Starts c b k n (.ready p) k₁ := by
  induction ends generalizing n with
  | ready p k₁ => exact .inr ⟨n, p, k₁, starts⟩
  | failed fails => exact .inl ⟨n, _, _, _, _, starts, fails⟩
  | next step rest ih => exact ih (starts.next step)

end Probe

end ArpProbe
