import ArpProbe.Proofs.EventLoop.Occasions
import ArpProbe.Proofs.EventLoop.Onward
import ArpProbe.Proofs.Session.Ledger

/-! What the occasions of a run enter in the books of its session: the expirations that were read,
the frames that went out whole, and the frames that were accepted. Nothing else changes a session,
and an accepted frame decides whether the run goes on. -/

namespace ArpProbe

open Session (Entry)

namespace Occasion

variable (me : Octets) (q : Query) (o : Occasion)

def answer? : Option (Frame × PacketClass) :=
  match o.step, o.circumstances.fault? .clock with
  | .handle (.receive (.frame octets link)), none =>
    match Frame.parse (octets.take Sys.receiveCapacity) link me q with
    | .ok f => some (f, link.packetClass)
    | .error _ => none
  | _, _ => none

def expired : List Entry :=
  match o.step with
  | .handle (.timer expirations) => [.expired expirations]
  | _ => []

def sent (wrote : Bool) : List Entry :=
  if wrote then [.sent o.circumstances.monotonic] else []

def accepted : List Entry := ((o.answer? me q).map fun (f, pc) => .accepted f pc).toList

def entries (wrote : Bool) : List Entry := o.expired ++ o.sent wrote ++ o.accepted me q

variable (s : Session) (c : Circumstances) (wrote : Bool)

theorem sentAt_entries :
    (o.entries me q wrote).filterMap Entry.sentAt? =
      if wrote then [o.circumstances.monotonic] else [] := by
  have expired : o.expired.filterMap Entry.sentAt? = [] := by
    unfold Occasion.expired
    split <;> rfl
  have accepted : (o.accepted me q).filterMap Entry.sentAt? = [] := by
    unfold Occasion.accepted
    cases o.answer? me q <;> rfl
  rw [entries, List.filterMap_append, List.filterMap_append, expired, accepted, List.nil_append,
    List.append_nil]
  cases wrote <;> rfl

theorem lastSent?_entries :
    Entry.lastSent? (o.entries me q wrote) =
      if wrote then some o.circumstances.monotonic else none := by
  rw [Entry.lastSent?, sentAt_entries]
  cases wrote <;> rfl

theorem sends_entries : Entry.sends (o.entries me q wrote) = if wrote then 1 else 0 := by
  rw [Entry.sends_eq_length, sentAt_entries]
  cases wrote <;> rfl

theorem replay_send :
    s.replay (entries me q ⟨c, .handle .send⟩ wrote) =
      if wrote then s.recordSend c.monotonic else s := by cases wrote <;> rfl

theorem replay_timer (expirations : UInt64) :
    s.replay (entries me q ⟨c, .handle (.timer expirations)⟩ wrote) =
      if wrote then (s.expire expirations).1.recordSend c.monotonic
      else (s.expire expirations).1 := by cases wrote <;> rfl

end Occasion

namespace Prober

variable (v : Verbosity) (p : Prober) (k : Kernel)

theorem session_afterSend (now : Instant) (octets : Octets) (n : Nat) (c : Call) :
    (p.afterSend now octets.length (.ok n)).1.session =
      if [Event.call c none, .written octets n].any Event.isProbe then p.session.recordSend now
      else p.session := by
  rw [afterSend]
  by_cases whole : n = octets.length <;> simp [whole, Event.isProbe]

theorem send_enters :
    let sends := (p.send v).run k
    sends.1.1.session =
      if (k.since sends.2).any Event.isProbe then p.session.recordSend k.monotonic
      else p.session := by
  obtain ⟨faults, stuck | ⟨octets, _, sends⟩⟩ := send_cases v p k
  · rw [stuck]
    have nothing : k.since { k with faults } = [] :=
      Kernel.since_of_append (List.append_nil _).symm
    simp only [nothing]
    rfl
  · rw [sends]
    simp only
    cases (k.sends.headD .complete).written octets with
    | ok n =>
      rw [Kernel.since_of_append (events_told ..)]
      exact p.session_afterSend k.monotonic octets n _
    | error e =>
      rw [Kernel.since_of_append (events_told ..)]
      rfl

theorem timer_enters (expirations : UInt64) :
    let expired := (p.session.expire expirations).1
    let went := (p.timer v expirations).run k
    went.1.1.session =
      if (k.since went.2).any Event.isProbe then expired.recordSend k.monotonic
      else expired := by
  intro expired went
  rcases timer_cases v p k expirations with ⟨_, sends⟩ | ⟨_, ends⟩
  · have same : went = _ := sends
    rw [same]
    exact send_enters v { p with session := expired } k
  · have same : went = _ := ends
    have nothing : k.since k = [] := Kernel.since_of_append (List.append_nil _).symm
    rw [same, nothing]
    rfl

theorem receive_enters (arrival : Arrival) :
    let o : Occasion := ⟨k.circumstances, .handle (.receive arrival)⟩
    let receives := (p.receive v arrival).run k
    match o.answer? p.session.endpoint.me p.query with
    | some (f, pc) =>
      receives.1.1.session = (p.session.accept f pc).1 ∧ receives.1.2 = (p.session.accept f pc).2
    | none => receives.1.1.session = p.session := by
  cases arrival with
  | failed e => rfl
  | frame octets link =>
    obtain ⟨faults, received⟩ := receive_frame_run v p k octets link
    simp only [Occasion.answer?, k.fault?_circumstances, received]
    cases (k.takeFault .clock).1 with
    | some e => rfl
    | none =>
      simp only [if_true, afterReceive]
      cases Frame.parse (octets.take Sys.receiveCapacity) link p.session.endpoint.me p.query with
      | error reject => rfl
      | ok f => exact ⟨rfl, rfl⟩

theorem take_enters (s : Step) :
    let o : Occasion := ⟨k.circumstances, s⟩
    let went := (s.take v p).run k
    went.1.1.session = p.session.replay
      (o.entries p.session.endpoint.me p.query ((k.since went.2).any Event.isProbe)) := by
  intro o went
  have idle (still : s.isSending = false) : (k.since went.2).any Event.isProbe = false := by
    rw [Kernel.since_of_append (p.take_records v k still)]
    exact s.record_idle
  cases s with
  | wait | readSignal | readTimer | stop | tell =>
    rw [idle rfl]
    rfl
  | handle input =>
    cases input with
    | signal number =>
      rw [idle rfl]
      rfl
    | receive arrival =>
      have received := receive_enters v p k arrival
      rw [idle rfl]
      simp only at received
      change went.1.1.session = p.session.replay (o.accepted p.session.endpoint.me p.query)
      rw [Occasion.accepted]
      split at received
      · next f pc answer =>
        rw [answer]
        exact received.1
      · next none =>
        rw [none]
        exact received
    | send =>
      exact (p.send_enters v k).trans (Occasion.replay_send _ _ _ k.circumstances _).symm
    | timer expirations =>
      exact (p.timer_enters v k expirations).trans
        (Occasion.replay_timer _ _ _ k.circumstances _ expirations).symm

variable {k} {s : Step}

theorem take_accepts {f : Frame} {pc : PacketClass}
    (answer : (⟨k.circumstances, s⟩ : Occasion).answer? p.session.endpoint.me p.query =
      some (f, pc)) :
    ((s.take v p).run k).1.1.session = (p.session.accept f pc).1 ∧
      ((s.take v p).run k).1.2 = (p.session.accept f pc).2 := by
  cases s with
  | handle input =>
    cases input with
    | receive arrival =>
      have received := receive_enters v p k arrival
      simp only [answer] at received
      exact received
    | send | timer | signal => cases answer
  | wait | readSignal | readTimer | tell | stop => cases answer

theorem take_unanswered
    (none : (⟨k.circumstances, s⟩ : Occasion).answer? p.session.endpoint.me p.query = none) :
    let o : Occasion := ⟨k.circumstances, s⟩
    let went := (s.take v p).run k
    went.1.1.session =
      (p.session.replay o.expired).replay (o.sent ((k.since went.2).any Event.isProbe)) := by
  intro o went
  have nothing : o.accepted p.session.endpoint.me p.query = [] := by
    rw [Occasion.accepted, none]
    rfl
  rw [take_enters v p k s, Occasion.entries, nothing, List.append_nil]
  exact List.foldl_append

end Prober

end ArpProbe
