import ArpProbe.Proofs.Kernel.Recording
import ArpProbe.Proofs.Prober.Handling
import ArpProbe.Proofs.Prober.History

/-! What can happen to a prober, one thing at a time, with what its kernel remembers of each.
Whatever holds of a prober and its history is kept by events if it is kept by each of these
moves. -/

namespace ArpProbe

def Call.waits : Call → Bool
  | poll _ | readSignal | readTimer => true
  | _ => false

namespace Prober

inductive Move (p : Prober) : History → Prober → Prop
  | waited {c : Call} (waits : c.waits = true) (failure : Option Errno) : Move p [.call c failure] p
  | unsent {octets : Octets} (encoded : p.frame.encode? = some octets) (e : Errno) :
    Move p [.call (.send p.index p.session.endpoint.he octets) (some e)] p
  | sent {octets : Octets} (encoded : p.frame.encode? = some octets) (now : Instant) (n : Nat) :
    Move p [.call (.send p.index p.session.endpoint.he octets) none, .written octets n]
      (p.afterSend now octets.length (.ok n)).1
  | expired (expirations : UInt64) :
    Move p [] { p with session := (p.session.expire expirations).1 }
  | unreceived (e : Errno) : Move p [.call .receive (some e)] (p.afterFailure (.system e)).1
  | received (now : Instant) (packet : Octets) (link : LinkInfo) :
    Move p [.call .receive none, .taken packet link] (p.afterReceive now packet link).1
  | lost (packet : Octets) (link : LinkInfo) :
    Move p [.call .receive none, .taken packet link] p.halt
  | clockless : Move p [] p.halt
  | unencodable (failed : p.frame.encode? = none) : Move p [] p.halt

inductive Moves (p : Prober) : History → Prober → Prop
  | none : Moves p [] p
  | more {p' p'' : Prober} {h g : History} (before : Moves p h p') (going : p'.stuck = p.stuck)
    (move : Move p' g p'') : Moves p (h ++ g) p''

theorem Move.stuck {p p' : Prober} {g : History} (m : p.Move g p') :
    p'.stuck = p.stuck ∨ p'.stuck = true := by
  cases m with
  | sent => exact .inl (p.stuck_afterSend _ _ _)
  | received => exact .inl (p.stuck_afterReceive _ _ _)
  | waited | unsent | expired | unreceived => exact .inl rfl
  | lost | clockless | unencodable => exact .inr rfl

namespace Moves

variable {p p' p'' : Prober} {h g : History}

theorem single (m : p.Move g p') : p.Moves g p' := more none rfl m

theorem trans (first : p.Moves h p') (going : p'.stuck = p.stuck) (second : p'.Moves g p'') :
    p.Moves (h ++ g) p'' := by
  induction second with
  | none => rwa [List.append_nil]
  | more before still m ih =>
    rw [← List.append_assoc]
    exact more ih (still.trans going) m

theorem same {α : Type} {f : Prober → α}
    (each : ∀ {p p' : Prober} {g : History}, p.Move g p' → f p' = f p) (m : p.Moves h p') :
    f p' = f p := by
  induction m with
  | none => rfl
  | more before going move ih => exact (each move).trans ih

theorem stuck (m : p.Moves h p') (was : p.stuck = true) : p'.stuck = true := by
  cases m with
  | none => exact was
  | more before going m =>
    rcases m.stuck with same | now
    · rw [same, going, was]
    · exact now

end Moves

def Leads (p : Prober) (k : Kernel) (p' : Prober) (k' : Kernel) : Prop :=
  ∃ g, k'.events = k.events ++ g ∧ p.Moves g p'

namespace Leads

variable {p p' p'' : Prober} {k k' k'' : Kernel}

theorem still (p : Prober) {k k' : Kernel} (same : k'.events = k.events) : p.Leads k p k' :=
  ⟨[], by rw [same, List.append_nil], .none⟩

theorem move {g : History} (m : p.Move g p') (recorded : k'.events = k.events ++ g) :
    p.Leads k p' k' := ⟨g, recorded, .single m⟩

theorem trans (first : p.Leads k p' k') (going : p'.stuck = p.stuck)
    (second : p'.Leads k' p'' k'') : p.Leads k p'' k'' := by
  obtain ⟨g, eg, m⟩ := first
  obtain ⟨g', eg', m'⟩ := second
  exact ⟨g ++ g', by rw [eg', eg, List.append_assoc], m.trans going m'⟩

end Leads

variable (v : Verbosity) (p : Prober) (k : Kernel)

theorem events_told (notes : List Note) : (k.told v notes).events = k.events :=
  (k.sameButText_told v notes).events

theorem send_leads : p.Leads k ((p.send v).run k).1.1 ((p.send v).run k).2 := by
  rw [send_run]
  cases encoded : p.frame.encode? with
  | none => exact .move (.unencodable encoded) (List.append_nil _).symm
  | some octets =>
    have fault := k.events_takeFault .clock
    rcases h : k.takeFault .clock with ⟨_ | e, k₁⟩ <;> rw [h] at fault
    · simp only [Sys.run_send]
      cases (k₁.sends.headD .complete).written octets with
      | ok n =>
        refine .move (.sent encoded k₁.monotonic n) ?_
        rw [events_told, ← fault]
        exact List.append_assoc ..
      | error e =>
        refine .move (.unsent encoded e) ?_
        rw [events_told, ← fault]
        rfl
    · exact .move .clockless (by rw [fault, List.append_nil])

theorem events_receive (arrival : Arrival) :
    ((p.receive v arrival).run k).2.events = k.events ++ arrival.record := by
  cases arrival with
  | failed e =>
    rw [receive_run]
    exact events_told ..
  | frame octets link =>
    obtain ⟨faults, stuck | received⟩ := receive_frame_cases v p k octets link
    · rw [stuck]
    · rw [received]
      exact events_told ..

theorem receive_leads (arrival : Arrival) :
    p.Leads k ((p.receive v arrival).run k).1.1 ((p.receive v arrival).run k).2 := by
  have recorded := events_receive v p k arrival
  cases arrival with
  | failed e => exact .move (.unreceived e) recorded
  | frame octets link =>
    obtain ⟨faults, stuck | received⟩ := receive_frame_cases v p k octets link
    · rw [stuck] at recorded ⊢
      exact .move (.lost _ link) recorded
    · rw [received] at recorded ⊢
      exact .move (.received k.monotonic _ link) recorded

theorem timer_leads (expirations : UInt64) :
    p.Leads k ((p.timer v expirations).run k).1.1 ((p.timer v expirations).run k).2 := by
  have expired : p.Leads k { p with session := (p.session.expire expirations).1 } k :=
    .move (.expired expirations) (List.append_nil _).symm
  rcases timer_cases v p k expirations with ⟨_, sends⟩ | ⟨_, ends⟩
  · rw [sends]
    exact expired.trans rfl (send_leads v _ k)
  · rw [ends]
    exact expired

theorem handle_leads (input : Input) :
    p.Leads k ((p.handle v input).run k).1.1 ((p.handle v input).run k).2 := by
  cases input with
  | send => exact send_leads v p k
  | timer expirations => exact timer_leads v p k expirations
  | signal number => exact .still p (events_told v k _)
  | receive arrival => exact receive_leads v p k arrival

end Prober

end ArpProbe
