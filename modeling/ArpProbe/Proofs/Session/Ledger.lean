import ArpProbe.Proofs.Prober.Destination

/-! A session as the books of what was done to it. Whatever was sent, expired and accepted, in any
order, its counters are counts of that, its destination is the one it began with or the sender of
the first accepted frame, and the time it measures runs from the last probe. -/

namespace ArpProbe.Session

inductive Entry where
  | sent (sentAt : Instant)
  | expired (expirations : UInt64)
  | accepted (frame : Frame) (packetClass : PacketClass)
  deriving DecidableEq, Repr

namespace Entry

def isSent : Entry → Bool
  | sent _ => true
  | _ => false

def isAccepted : Entry → Bool
  | accepted _ _ => true
  | _ => false

def isBroadcast : Entry → Bool
  | accepted _ pc => pc ≠ .host
  | _ => false

def isRequest : Entry → Bool
  | accepted f _ => f.isRequest
  | _ => false

def sentAt? : Entry → Option Instant
  | sent t => some t
  | _ => none

def responder? : Entry → Option Octets
  | accepted f _ => some f.senderHw
  | _ => none

variable (h g : List Entry) (e : Entry)

def sends : Nat := h.countP isSent

def answers : Nat := h.countP isAccepted

def broadcastAnswers : Nat := h.countP isBroadcast

def requests : Nat := h.countP isRequest

def broadcasts (broadcastOnly : Bool) : Nat :=
  if broadcastOnly then sends h else sends (h.takeWhile (!·.isAccepted))

def firstResponder? : Option Octets := h.findSome? responder?

def lastSent? : Option Instant := (h.filterMap sentAt?).getLast?

theorem isSent_of_isAccepted (accepted : e.isAccepted = true) : e.isSent = false := by
  cases e with
  | accepted => rfl
  | sent | expired => cases accepted

theorem broadcastAnswers_le_answers : broadcastAnswers h ≤ answers h := by
  refine List.countP_mono_left fun e _ met => ?_
  cases e with
  | accepted => rfl
  | sent | expired => cases met

theorem requests_le_answers : requests h ≤ answers h := by
  refine List.countP_mono_left fun e _ met => ?_
  cases e with
  | accepted => rfl
  | sent | expired => cases met

theorem broadcasts_le_sends (broadcastOnly : Bool) : broadcasts h broadcastOnly ≤ sends h := by
  unfold broadcasts
  split
  · exact Nat.le_refl _
  · exact Tally.before_le h

theorem answers_eq_zero_iff : answers h = 0 ↔ firstResponder? h = none := by
  rw [answers, List.countP_eq_zero, firstResponder?, List.findSome?_eq_none_iff]
  refine forall₂_congr fun e _ => ?_
  cases e <;> simp [isAccepted, responder?]

theorem sends_eq_length : sends h = (h.filterMap sentAt?).length := by
  rw [sends, List.length_filterMap_eq_countP]
  congr 1
  funext e
  cases e <;> rfl

theorem sends_eq_zero_iff : sends h = 0 ↔ lastSent? h = none := by
  rw [sends_eq_length, lastSent?, List.getLast?_eq_none_iff, List.length_eq_zero_iff]

theorem broadcasts_concat (broadcastOnly : Bool) :
    broadcasts (h ++ [e]) broadcastOnly =
      broadcasts h broadcastOnly + if !broadcastOnly && 0 < answers h then 0 else sends [e] := by
  cases broadcastOnly with
  | true => exact List.countP_append
  | false =>
    simp only [Bool.not_false, Bool.true_and, decide_eq_true_eq]
    exact Tally.before_concat h e isSent_of_isAccepted

theorem firstResponder?_concat :
    firstResponder? (h ++ [e]) = (firstResponder? h).or e.responder? := by
  rw [firstResponder?, List.findSome?_append]
  cases e <;> rfl

theorem lastSent?_concat : lastSent? (h ++ [e]) = e.sentAt?.or (lastSent? h) := by
  rw [lastSent?, List.filterMap_append, List.getLast?_append]
  cases e <;> rfl

variable {e}

theorem broadcasts_concat_of (broadcastOnly : Bool) (unsent : e.isSent = false) :
    broadcasts (h ++ [e]) broadcastOnly = broadcasts h broadcastOnly := by
  have none : sends [e] = 0 := Tally.countP_concat_of [] e unsent
  rw [broadcasts_concat, none, ite_self, Nat.add_zero]

theorem firstResponder?_concat_of (silent : e.isAccepted = false) :
    firstResponder? (h ++ [e]) = firstResponder? h := by
  rw [firstResponder?_concat]
  cases e with
  | accepted => cases silent
  | sent | expired => exact Option.or_none

theorem lastSent?_concat_of (unsent : e.isSent = false) :
    lastSent? (h ++ [e]) = lastSent? h := by
  rw [lastSent?_concat]
  cases e with
  | sent => cases unsent
  | accepted | expired => rfl

end Entry

open Entry

def enter (s : Session) : Entry → Session
  | .sent t => s.recordSend t
  | .expired n => (s.expire n).1
  | .accepted f pc => (s.accept f pc).1

def replay (s : Session) (entries : List Entry) : Session := entries.foldl enter s

theorem lastSend_enter (s : Session) (e : Entry) :
    (s.enter e).lastSend = e.sentAt?.or s.lastSend := by
  cases e with
  | sent | expired => rfl
  | accepted f pc =>
    change (Session.turn _ f.senderHw).lastSend = s.lastSend
    unfold turn
    split <;> rfl

theorem lastSend_replay (s : Session) (entries : List Entry) :
    (s.replay entries).lastSend = (lastSent? entries).or s.lastSend := by
  induction entries generalizing s with
  | nil => rfl
  | cons e rest ih =>
    have last : lastSent? (e :: rest) = (lastSent? rest).or e.sentAt? := by
      rw [lastSent?, List.filterMap_cons]
      cases e.sentAt? with
      | none => exact Option.or_none.symm
      | some t =>
        rw [List.getLast?_cons, lastSent?]
        cases (rest.filterMap sentAt?).getLast? <;> rfl
    exact (ih _).trans (by rw [lastSend_enter, last, Option.or_assoc])

theorem sent_replay (s : Session) (entries : List Entry) :
    (s.replay entries).counters.sent = s.counters.sent + UInt32.ofNat (sends entries) := by
  induction entries generalizing s with
  | nil => exact (UInt32.add_zero _).symm
  | cons e rest ih =>
    have counted : sends (e :: rest) = sends rest + if e.isSent then 1 else 0 := List.countP_cons
    refine (ih _).trans ?_
    rw [counted, Nat.add_comm, UInt32.ofNat_add, ← UInt32.add_assoc]
    congr 1
    cases e with
    | sent t => rfl
    | expired n => exact (UInt32.add_zero _).symm
    | accepted f pc =>
      change (Session.turn _ f.senderHw).counters.sent = s.counters.sent + 0
      rw [counters_turn, UInt32.add_zero]
      rfl

def opened (modes : Modes) (count timeout : Int) (start : Endpoint) : Session :=
  { modes, count, timeout, endpoint := start }

/-- The state of a session after entries, with counters modulo their width. -/
structure Ledger (modes : Modes) (start : Endpoint) (h : List Entry) (s : Session) : Prop where
  sameModes : s.modes = modes
  sent : s.counters.sent = UInt32.ofNat (sends h)
  broadcastSent : s.counters.broadcastSent = UInt32.ofNat (broadcasts h modes.broadcastOnly)
  received : s.counters.received = UInt32.ofNat (answers h)
  broadcastReceived : s.counters.broadcastReceived = UInt32.ofNat (broadcastAnswers h)
  requestReceived : s.counters.requestReceived = UInt32.ofNat (requests h)
  unicasting : s.unicasting = (!modes.broadcastOnly && 0 < answers h)
  endpoint : s.endpoint =
    { start with
      he := if modes.broadcastOnly then start.he else (firstResponder? h).getD start.he }
  lastSend : s.lastSend = lastSent? h

namespace Ledger

variable {modes : Modes} {start : Endpoint} {h g : List Entry} {s : Session}

theorem opened (count timeout : Int) :
    Ledger modes start [] (opened modes count timeout start) := by
  refine ⟨rfl, rfl, ?_, rfl, rfl, rfl, ?_, ?_, rfl⟩
  · cases bo : modes.broadcastOnly <;> rfl
  · simp [Session.opened, answers]
  · cases bo : modes.broadcastOnly <;> rfl

theorem send (l : Ledger modes start h s) (t : Instant) :
    Ledger modes start (h ++ [.sent t]) (s.recordSend t) where
  sameModes := l.sameModes
  sent := by
    rw [sends, Tally.countP_concat h _ rfl, UInt32.ofNat_add]
    exact congrArg (· + 1) l.sent
  broadcastSent := by
    rw [broadcasts_concat, UInt32.ofNat_add, ← l.broadcastSent, ← l.unicasting]
    simp only [recordSend, Counters.send]
    cases s.unicasting <;> simp [sends, isSent]
  received := by
    rw [answers, Tally.countP_concat_of h _ rfl]
    exact l.received
  broadcastReceived := by
    rw [broadcastAnswers, Tally.countP_concat_of h _ rfl]
    exact l.broadcastReceived
  requestReceived := by
    rw [requests, Tally.countP_concat_of h _ rfl]
    exact l.requestReceived
  unicasting := by
    rw [answers, Tally.countP_concat_of h _ rfl]
    exact l.unicasting
  endpoint := by
    rw [firstResponder?_concat_of h rfl]
    exact l.endpoint
  lastSend := (lastSent?_concat h (.sent t)).symm

theorem expire (l : Ledger modes start h s) (n : UInt64) :
    Ledger modes start (h ++ [.expired n]) (s.expire n).1 where
  sameModes := l.sameModes
  sent := by
    rw [sends, Tally.countP_concat_of h _ rfl]
    exact l.sent
  broadcastSent := by
    rw [broadcasts_concat_of h modes.broadcastOnly rfl]
    exact l.broadcastSent
  received := by
    rw [answers, Tally.countP_concat_of h _ rfl]
    exact l.received
  broadcastReceived := by
    rw [broadcastAnswers, Tally.countP_concat_of h _ rfl]
    exact l.broadcastReceived
  requestReceived := by
    rw [requests, Tally.countP_concat_of h _ rfl]
    exact l.requestReceived
  unicasting := by
    rw [answers, Tally.countP_concat_of h _ rfl]
    exact l.unicasting
  endpoint := by
    rw [firstResponder?_concat_of h rfl]
    exact l.endpoint
  lastSend := l.lastSend.trans (lastSent?_concat_of h rfl).symm

theorem accept (l : Ledger modes start h s) (f : Frame) (pc : PacketClass) :
    Ledger modes start (h ++ [.accepted f pc]) (s.accept f pc).1 where
  sameModes := (modes_turn _ _).trans l.sameModes
  sent := by
    rw [sends, Tally.countP_concat_of h _ rfl, Session.accept, counters_turn]
    exact l.sent
  broadcastSent := by
    rw [broadcasts_concat_of h modes.broadcastOnly rfl, Session.accept, counters_turn]
    exact l.broadcastSent
  received := by
    rw [answers, Tally.countP_concat h _ rfl, UInt32.ofNat_add, Session.accept, counters_turn]
    exact congrArg (· + 1) l.received
  broadcastReceived := by
    rw [broadcastAnswers, Session.accept, counters_turn, Counters.accept]
    by_cases host : pc = .host
    · rw [if_pos host, Tally.countP_concat_of h _ (by simp [isBroadcast, host])]
      exact l.broadcastReceived
    · rw [if_neg host, Tally.countP_concat h _ (by simp [isBroadcast, host]), UInt32.ofNat_add]
      exact congrArg (· + 1) l.broadcastReceived
  requestReceived := by
    rw [requests, Session.accept, counters_turn, Counters.accept]
    cases request : f.isRequest with
    | true =>
      rw [if_pos rfl, Tally.countP_concat h _ request, UInt32.ofNat_add]
      exact congrArg (· + 1) l.requestReceived
    | false =>
      rw [if_neg Bool.false_ne_true, Tally.countP_concat_of h _ request]
      exact l.requestReceived
  unicasting := by
    rw [answers, Tally.countP_concat h _ rfl]
    simp only [Session.accept, unicasting_turn, l.unicasting, l.sameModes]
    cases modes.broadcastOnly <;> simp
  endpoint := by
    -- That there was an answer before and that somebody was the first to answer are the same.
    have turned : (0 < answers h) = ((firstResponder? h).isSome = true) := by
      rw [Nat.pos_iff_ne_zero, ne_eq, answers_eq_zero_iff, Option.isSome_iff_ne_none]
    rw [firstResponder?_concat, responder?]
    simp only [Session.accept, endpoint_turn, l.unicasting, l.sameModes, l.endpoint, turned]
    cases modes.broadcastOnly <;> cases firstResponder? h <;> rfl
  lastSend := by
    rw [lastSent?_concat_of h rfl, ← l.lastSend]
    exact lastSend_enter s (.accepted f pc)

theorem enter (l : Ledger modes start h s) (e : Entry) :
    Ledger modes start (h ++ [e]) (s.enter e) := by
  cases e with
  | sent t => exact l.send t
  | expired n => exact l.expire n
  | accepted f pc => exact l.accept f pc

theorem replay (l : Ledger modes start h s) (entries : List Entry) :
    Ledger modes start (h ++ entries) (s.replay entries) := by
  induction entries generalizing h s with
  | nil =>
    rw [List.append_nil]
    exact l
  | cons e rest ih =>
    have next := ih (l.enter e)
    rwa [List.append_assoc] at next

end Ledger

structure Balance (modes : Modes) (start : Endpoint) (entries : List Entry) (s : Session) :
    Prop where
  sent : s.counters.sent.toNat = sends entries
  received : s.counters.received.toNat = answers entries
  broadcastReceived : s.counters.broadcastReceived.toNat = broadcastAnswers entries
  requestReceived : s.counters.requestReceived.toNat = requests entries
  broadcastSent : s.counters.broadcastSent.toNat = broadcasts entries modes.broadcastOnly
  broadcastSent_le : s.counters.broadcastSent ≤ s.counters.sent
  broadcastReceived_le : s.counters.broadcastReceived ≤ s.counters.received
  requestReceived_le : s.counters.requestReceived ≤ s.counters.received
  unicasting : s.unicasting = true ↔ modes.broadcastOnly = false ∧ 0 < s.counters.received
  unturned : s.unicasting = false → s.endpoint.he = start.he
  turned : s.unicasting = true → firstResponder? entries = some s.endpoint.he
  same : s.endpoint.he = start.he ↔
    s.unicasting = false ∨ firstResponder? entries = some start.he
  unsent : ∀ now, s.elapsed now = none ↔ s.counters.sent = 0
  elapsed : ∀ now, s.elapsed now =
    (lastSent? entries).map fun t => ⟨now.nanoseconds - t.nanoseconds⟩

namespace Ledger

variable {modes : Modes} {start : Endpoint} {entries : List Entry} {s : Session}
  (l : Ledger modes start entries s)
include l

theorem turned (turned : s.unicasting = true) : firstResponder? entries = some s.endpoint.he := by
  have left := turned
  rw [l.unicasting, Bool.and_eq_true, Bool.not_eq_true', decide_eq_true_eq] at left
  obtain ⟨leaves, answered⟩ := left
  have some : firstResponder? entries ≠ none := by
    rw [ne_eq, ← answers_eq_zero_iff]
    exact Nat.ne_of_gt answered
  obtain ⟨responder, first⟩ := Option.ne_none_iff_exists'.mp some
  rw [l.endpoint, leaves, first]
  rfl

theorem unturned (unturned : s.unicasting = false) : s.endpoint.he = start.he := by
  rw [l.endpoint]
  cases bo : modes.broadcastOnly with
  | true => rfl
  | false =>
    rw [l.unicasting, bo, Bool.not_false, Bool.true_and, decide_eq_false_iff_not, Nat.not_lt,
      Nat.le_zero, answers_eq_zero_iff] at unturned
    rw [unturned]
    rfl

theorem balance (few : entries.length < UInt32.size) : Balance modes start entries s := by
  have sendsFit : sends entries < UInt32.size := Nat.lt_of_le_of_lt List.countP_le_length few
  have answersFit : answers entries < UInt32.size := Nat.lt_of_le_of_lt List.countP_le_length few
  -- Whatever is counted, there is no more of it than entries, so that no counter wraps around.
  have toNat {c : UInt32} {n m : Nat} (counts : c = UInt32.ofNat n) (most : n ≤ m)
      (fits : m < UInt32.size) : c.toNat = n := by
    rw [counts, UInt32.toNat_ofNat_of_lt' (Nat.lt_of_le_of_lt most fits)]
  have sent := toNat l.sent (Nat.le_refl _) sendsFit
  have received := toNat l.received (Nat.le_refl _) answersFit
  have broadcastSent := toNat l.broadcastSent (broadcasts_le_sends _ _) sendsFit
  have broadcastReceived := toNat l.broadcastReceived (broadcastAnswers_le_answers _) answersFit
  have requestReceived := toNat l.requestReceived (requests_le_answers _) answersFit
  refine ⟨sent, received, broadcastReceived, requestReceived, broadcastSent, ?_, ?_, ?_, ?_,
    l.unturned, l.turned, ?_, fun now => ?_, fun now => ?_⟩
  · rw [UInt32.le_iff_toNat_le, broadcastSent, sent]
    exact broadcasts_le_sends _ _
  · rw [UInt32.le_iff_toNat_le, broadcastReceived, received]
    exact broadcastAnswers_le_answers _
  · rw [UInt32.le_iff_toNat_le, requestReceived, received]
    exact requests_le_answers _
  · rw [UInt32.lt_iff_toNat_lt, received, l.unicasting]
    simp
  · cases turned : s.unicasting with
    | false => simp [l.unturned turned]
    | true => simp [l.turned turned]
  · rw [Session.elapsed, Option.map_eq_none_iff, l.lastSend, ← sends_eq_zero_iff, ← sent]
    exact UInt32.toNat_inj (b := 0)
  · rw [Session.elapsed, l.lastSend]
    rfl

end Ledger

/-- Whatever is done to a session, in any order, its state is an exact account of it, unless a
counter overflows. -/
theorem replay_balanced (modes : Modes) (count timeout : Int) (start : Endpoint)
    {entries : List Entry} (few : entries.length < UInt32.size) :
    Balance modes start entries ((opened modes count timeout start).replay entries) :=
  ((Ledger.opened count timeout).replay entries).balance few

theorem replay_balanced_interleaved :
    let me : Octets := [2, 0, 0, 0, 0, 1]
    let peer : Octets := [2, 0, 0, 0, 0, 9]
    let start : Endpoint := ⟨1, me, List.replicate 6 255⟩
    let reply : Frame := ⟨1, 0x0800, 2, peer, ⟨10, 0, 0, 9⟩, me, ⟨10, 0, 0, 1⟩⟩
    let entries : List Entry := [.sent ⟨5⟩, .accepted reply .host, .sent ⟨9⟩, .expired 3,
      .accepted { reply with operation := 1, senderHw := [2, 0, 0, 0, 0, 7] } .broadcast]
    let s := (opened {} 5 0 start).replay entries
    entries.length < UInt32.size ∧ Balance {} start entries s ∧ s.unicasting = true ∧
      firstResponder? entries = some peer ∧ s.endpoint.he = peer ∧
      s.counters = ⟨2, 1, 2, 1, 1⟩ := by
  intro me peer start reply entries s
  have few : entries.length < UInt32.size := by decide
  have balance := replay_balanced {} 5 0 start few
  have turned : s.unicasting = true := by decide
  have first := balance.turned turned
  exact ⟨few, balance, turned, rfl, (Option.some.inj first).symm, by decide⟩

/-- A responder may claim the broadcast address for its own. The session has turned then, and its
destination is still the one that it began with. -/
theorem replay_turns_in_place :
    let me : Octets := [2, 0, 0, 0, 0, 1]
    let broadcast : Octets := List.replicate 6 255
    let q : Query := ⟨⟨10, 0, 0, 9⟩, ⟨10, 0, 0, 1⟩, false⟩
    let packet : Octets :=
      [0, 1, 8, 0, 6, 4, 0, 2] ++ broadcast ++ [10, 0, 0, 9] ++ me ++ [10, 0, 0, 1]
    let f : Frame := ⟨1, 0x0800, 2, broadcast, q.target, me, q.source⟩
    let s := (opened {} 5 0 ⟨1, me, broadcast⟩).replay [.sent ⟨0⟩, .accepted f .host]
    Frame.parse packet ⟨.host, 1⟩ me q = .ok f ∧ s.unicasting = true ∧
      ¬ (s.endpoint.he = broadcast ↔ s.unicasting = false) := by
  intro me broadcast q packet f s
  exact ⟨rfl, by decide, by decide⟩

end ArpProbe.Session
