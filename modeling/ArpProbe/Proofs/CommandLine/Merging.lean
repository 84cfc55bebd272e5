import ArpProbe.CommandLine.Request

/-! How a request is filled in from the settings of a file. The request wins over the settings, and
these over the defaults. A value in the file that is wrong does harm only where it is needed. -/

namespace ArpProbe

namespace DiscoveryMethod

def names : List String := ["ifaddrs", "sysfs", "ioctl"]

def unknownText (name : String) : String := "unknown discovery method " ++ Text.quoted name

theorem name_mem_names (m : DiscoveryMethod) : m.name ∈ names := by
  cases m <;> decide

theorem ofName?_cases (s : String) :
    (∃ m : DiscoveryMethod, m.name = s ∧ ofName? s = .ok m) ∨
      s ∉ names ∧ ofName? s = .error (unknownText s) := by
  unfold ofName?
  split
  · exact .inl ⟨ifaddrs, rfl, rfl⟩
  · exact .inl ⟨sysfs, rfl, rfl⟩
  · exact .inl ⟨ioctl, rfl, rfl⟩
  · next first second third =>
    refine .inr ⟨?_, rfl⟩
    simp only [names, List.mem_cons, List.not_mem_nil, or_false, not_or]
    exact ⟨first, second, third⟩

end DiscoveryMethod

namespace Settings

open DiscoveryMethod

variable (s : Settings)

def KnowsMethods : Prop :=
  ∀ listed ∈ s.discovery, listed ≠ [] ∧ ∀ name ∈ listed, name ∈ names

structure Lists (methods : List DiscoveryMethod) : Prop where
  listed : ∀ listed ∈ s.discovery, methods.map name = listed
  standing : s.discovery = none → methods = [ifaddrs, sysfs, ioctl]

inductive Mistakes : Error → Prop
  | empty (none : s.discovery = some []) : Mistakes (.config "empty discovery list")
  | unknown {known rest : List String} {name : String}
    (listed : s.discovery = some (known ++ name :: rest)) (before : ∀ name ∈ known, name ∈ names)
    (first : name ∉ names) : Mistakes (.config (unknownText name))

theorem mapM_cases (listed : List String) :
    let read := listed.mapM fun name => (ofName? name).mapError Error.config
    (∃ methods : List DiscoveryMethod, read = .ok methods ∧ methods.map name = listed) ∨
      ∃ known name rest, listed = known ++ name :: rest ∧ (∀ name ∈ known, name ∈ names) ∧
        name ∉ names ∧ read = .error (.config (unknownText name)) := by
  induction listed with
  | nil => exact .inl ⟨[], rfl, rfl⟩
  | cons first others ih =>
    intro read
    have step : read = ((ofName? first).mapError Error.config).bind fun m =>
        (others.mapM fun name => (ofName? name).mapError Error.config).bind fun methods =>
          .ok (m :: methods) := List.mapM_cons
    rcases ofName?_cases first with ⟨m, rfl, found⟩ | ⟨unknown, found⟩
    · rw [found] at step
      rcases ih with ⟨methods, rest, rfl⟩ | ⟨known, name, rest, rfl, before, unknown, failed⟩
      · exact .inl ⟨m :: methods, by rw [step, rest]; rfl, rfl⟩
      · refine .inr ⟨m.name :: known, name, rest, rfl, ?_, unknown, by rw [step, failed]; rfl⟩
        exact List.forall_mem_cons.mpr ⟨m.name_mem_names, before⟩
    · rw [found] at step
      -- The first unknown name settles it, whatever stands behind.
      exact .inr ⟨[], first, others, rfl, nofun, unknown, step⟩

theorem methods_cases :
    (∃ methods, s.methods = .ok methods ∧ s.KnowsMethods ∧ s.Lists methods) ∨
      ∃ e, s.methods = .error e ∧ ¬ s.KnowsMethods ∧ s.Mistakes e := by
  unfold methods
  split
  · next none =>
    exact .inl ⟨defaults, rfl, by simp [KnowsMethods, none], ⟨by simp [none], fun _ => rfl⟩⟩
  · next empty =>
    exact .inr ⟨_, rfl, fun knows => (knows [] empty).1 rfl, .empty empty⟩
  · next listed some given =>
    rcases mapM_cases listed with
      ⟨methods, read, rfl⟩ | ⟨known, name, rest, rfl, before, unknown, read⟩
    · refine .inl ⟨methods, read, ?_, ?_, ?_⟩
      · rw [KnowsMethods, given]
        rintro _ ⟨⟩
        refine ⟨some, fun name member => ?_⟩
        obtain ⟨m, _, rfl⟩ := List.mem_map.mp member
        exact m.name_mem_names
      · rw [given]
        rintro _ ⟨⟩
        rfl
      · intro none
        cases given.symm.trans none
    · refine .inr ⟨_, read, fun knows => ?_, .unknown given before unknown⟩
      exact unknown ((knows _ given).2 name (by simp))

end Settings

namespace CommandLine

namespace Request

def IsTimed (r : Request) (s : Settings) : Prop := r.interval ≠ none ∨ s.interval ≠ some 0

structure Completes (r : Request) (s : Settings) (c : Config) : Prop where
  level : c.verbosity.level = (r.level <|> s.debug).getD 0
  interface : c.interface = (r.config.interface.filter (· ≠ "") <|> s.interface.filter (· ≠ ""))
  interval : c.interval = (r.interval <|> s.interval).getD 1
  discovery : s.Lists c.discovery
  zone : c.verbosity.zone = if s.timeZone = some "utc" then .utc else .localTime
  format : c.verbosity.format = if s.timeFormat = some "rfc2822" then .rfc2822 else .short
  target : c.target = r.config.target
  source : c.source = r.config.source
  modes : c.modes = r.config.modes
  count : c.count = r.config.count
  timeout : c.timeout = r.config.timeout

inductive Fails (r : Request) (s : Settings) : Error → Prop
  | interval (isOpen : r.interval = none) (zero : s.interval = some 0) :
    Fails r s (.config "interval must be at least 1 second")
  | methods {e : Error} (timed : r.IsTimed s) (mistaken : s.Mistakes e) : Fails r s e

def seconds (r : Request) (s : Settings) : Except Error Nat :=
  match r.interval with
  | some n => .ok n
  | none => s.seconds

def filled (r : Request) (s : Settings) (interval : Nat) (methods : List DiscoveryMethod) :
    Config :=
  { r.config with
    interface := r.config.interface <|> s.interfaceName
    interval
    discovery := methods
    verbosity := ⟨r.level.getD s.level, s.zone, s.format⟩ }

theorem merge_eq (r : Request) (s : Settings) : r.merge s =
    (r.seconds s).bind fun interval => s.methods.bind fun methods =>
      .ok (r.filled s interval methods) := by
  unfold merge seconds
  cases r.interval <;> rfl

theorem seconds_cases (r : Request) (s : Settings) :
    (r.seconds s = .ok ((r.interval <|> s.interval).getD 1) ∧ r.IsTimed s) ∨
      r.seconds s = .error (.config Settings.zeroIntervalText) ∧ r.interval = none ∧
        s.interval = some 0 := by
  unfold seconds IsTimed Settings.seconds
  cases r.interval with
  | some n => exact .inl ⟨rfl, .inl nofun⟩
  | none =>
    cases s.interval with
    | none => exact .inl ⟨rfl, .inr nofun⟩
    | some n =>
      cases n with
      | zero => exact .inr ⟨rfl, rfl, rfl⟩
      | succ n => exact .inl ⟨rfl, .inr nofun⟩

theorem filled_completes {r : Request} (named : r.config.interface ≠ some "") {s : Settings}
    {methods : List DiscoveryMethod} (lists : s.Lists methods) :
    r.Completes s (r.filled s ((r.interval <|> s.interval).getD 1) methods) := by
  have own : r.config.interface.filter (· ≠ "") = r.config.interface := by
    cases name : r.config.interface with
    | none => rfl
    | some name' =>
      have written : name' ≠ "" := fun empty => named (by rw [name, empty])
      simp [written]
  constructor
  case interface => rw [own]; rfl
  case level => unfold filled; cases r.level <;> rfl
  case discovery => exact lists
  all_goals rfl

theorem merge_cases {r : Request} (named : r.config.interface ≠ some "") (s : Settings) :
    (∃ c, r.merge s = .ok c ∧ s.KnowsMethods ∧ r.IsTimed s ∧ r.Completes s c) ∨
      ∃ e, r.merge s = .error e ∧ ¬ (s.KnowsMethods ∧ r.IsTimed s) ∧ r.Fails s e := by
  rw [merge_eq]
  rcases r.seconds_cases s with ⟨interval, timed⟩ | ⟨wrong, isOpen, zero⟩
  · rw [interval]
    rcases s.methods_cases with ⟨methods, read, knows, lists⟩ | ⟨e, read, unknown, mistaken⟩
    · rw [read]
      exact .inl ⟨_, rfl, knows, timed, filled_completes named lists⟩
    · rw [read]
      exact .inr ⟨e, rfl, fun fine => unknown fine.1, .methods timed mistaken⟩
  · rw [wrong]
    refine .inr ⟨_, rfl, fun fine => ?_, .interval isOpen zero⟩
    rcases fine.2 with given | right
    · exact given isOpen
    · exact right zero

end Request

theorem ok_of_bind {ε α β : Type} {x : Except ε α} {f : α → Except ε β} {b : β}
    (ok : x >>= f = .ok b) : ∃ a, x = .ok a ∧ f a = .ok b := by
  cases x with
  | error e => cases ok
  | ok a => exact ⟨a, rfl, ok⟩

theorem request_of_parse {arguments : List String} {r : Request}
    (asked : parse arguments = .ok (.probe r)) :
    ∃ items target, readItems rules arguments = .ok items ∧ operands items = [target] ∧
      request items target = .ok r := by
  unfold parse at asked
  split at asked
  · cases asked
  · next items read =>
    unfold action at asked
    split at asked
    · cases asked
    · split at asked
      · cases asked
      · split at asked
        · next target given =>
          refine ⟨items, target, read, given, ?_⟩
          cases whole : request items target with
          | error refusal =>
            rw [whole] at asked
            cases asked
          | ok r' =>
            rw [whole] at asked
            rw [Action.probe.inj (Except.ok.inj asked)]
        · cases asked

theorem interface_of_request {items : List Item} {target : String} {r : Request}
    (whole : request items target = .ok r) :
    r.config.interface = (valueOf? items 'I').filter (· ≠ "") := by
  obtain ⟨count, -, whole⟩ := ok_of_bind whole
  obtain ⟨timeout, -, whole⟩ := ok_of_bind whole
  obtain ⟨interval, -, whole⟩ := ok_of_bind whole
  obtain ⟨level, -, whole⟩ := ok_of_bind whole
  cases whole
  rfl

theorem named_of_parse {arguments : List String} {r : Request}
    (asked : parse arguments = .ok (.probe r)) : r.config.interface ≠ some "" := by
  obtain ⟨items, target, -, -, whole⟩ := request_of_parse asked
  intro empty
  rw [interface_of_request whole, Option.filter_eq_some_iff] at empty
  exact of_decide_eq_true empty.2 rfl

/-- A request that was read from a command line can be filled in unless the file has a wrong list of
methods, or a wrong interval where it is needed. Each value is then taken from where it should be,
and else the error tells what was wrong first. -/
theorem merge_settles {arguments : List String} {r : Request}
    (asked : parse arguments = .ok (.probe r)) (s : Settings) :
    ((∃ c, r.merge s = .ok c) ↔ s.KnowsMethods ∧ r.IsTimed s) ∧
      (∀ c, r.merge s = .ok c → r.Completes s c) ∧ ∀ e, r.merge s = .error e → r.Fails s e := by
  rcases Request.merge_cases (named_of_parse asked) s with
    ⟨c, merged, knows, timed, completes⟩ | ⟨e, merged, wrong, fails⟩
  · rw [merged]
    refine ⟨⟨fun _ => ⟨knows, timed⟩, fun _ => ⟨c, rfl⟩⟩, ?_, nofun⟩
    rintro _ ⟨⟩
    exact completes
  · rw [merged]
    refine ⟨⟨?_, fun fine => absurd fine wrong⟩, ?_, ?_⟩
    · rintro ⟨_, ⟨⟩⟩
    · rintro _ ⟨⟩
    · rintro _ ⟨⟩
      exact fails

theorem merge_settles_preferred :
    let r : Request := {
      config := { target := "10.0.0.9", modes := { quiet := true } }
      interval := some 2
      level := some 0 }
    let s : Settings := {
      debug := some 3
      interface := some ""
      interval := some 0
      discovery := some ["ioctl", "sysfs", "ioctl"] }
    parse ["-d0", "10.0.0.9", "-qi", "2"] = .ok (.probe r) ∧
      ∃ c, r.merge s = .ok c ∧ r.Completes s c ∧ c.verbosity.level = 0 ∧ c.interval = 2 ∧
        c.interface = none ∧ c.discovery = [.ioctl, .sysfs, .ioctl] := by
  intro r s
  have asked : parse ["-d0", "10.0.0.9", "-qi", "2"] = .ok (.probe r) := by rfl
  obtain ⟨fine, completes, _⟩ := merge_settles asked s
  have knows : s.KnowsMethods := by
    rintro _ ⟨⟩
    decide
  obtain ⟨c, merged⟩ := fine.mpr ⟨knows, .inl nofun⟩
  refine ⟨asked, c, merged, completes c merged, ?_⟩
  cases merged
  exact ⟨rfl, rfl, rfl, rfl⟩

end CommandLine

end ArpProbe
