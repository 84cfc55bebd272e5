import ArpProbe.Prober
import ArpProbe.Proofs.Prober.History

/-! The counters of a session as an account of what its kernel saw. The account is exact modulo the
width of the counters. -/

namespace ArpProbe

namespace Session

variable (s : Session) (responder : Octets)

@[simp]
theorem modes_turn : (s.turn responder).modes = s.modes := by
  unfold turn
  split <;> rfl

@[simp]
theorem count_turn : (s.turn responder).count = s.count := by
  unfold turn
  split <;> rfl

@[simp]
theorem timeout_turn : (s.turn responder).timeout = s.timeout := by
  unfold turn
  split <;> rfl

@[simp]
theorem me_turn : (s.turn responder).endpoint.me = s.endpoint.me := by
  unfold turn
  split <;> rfl

@[simp]
theorem counters_turn : (s.turn responder).counters = s.counters := by
  unfold turn
  split <;> rfl

@[simp]
theorem unicasting_turn :
    (s.turn responder).unicasting = (s.unicasting || !s.modes.broadcastOnly) := by
  unfold turn
  cases s.modes.broadcastOnly <;> cases h : s.unicasting <;> simp [h]

end Session

/-- The state of a prober after a history, with the modes, the own address and the query that it
started with. -/
structure Account (modes : Modes) (me : Octets) (q : Query) (h : History) (p : Prober) : Prop where
  sameModes : p.session.modes = modes
  sameMe : p.session.endpoint.me = me
  sameQuery : p.query = q
  sent : p.session.counters.sent = UInt32.ofNat h.probes
  broadcastSent :
    p.session.counters.broadcastSent = UInt32.ofNat (h.broadcasts modes.broadcastOnly me q)
  received : p.session.counters.received = UInt32.ofNat (h.answers me q)
  unicasting : p.session.unicasting = (!modes.broadcastOnly && 0 < h.answers me q)
  netDown : p.netDown = h.networkDown

namespace Account

variable {modes : Modes} {me : Octets} {q : Query} {h : History} {p : Prober}

theorem idle (a : Account modes me q h p) {e : Event} (he : e.isIdle me q = true) :
    Account modes me q (h ++ [e]) p := by
  simp only [Event.isIdle, Bool.and_eq_true, Bool.not_eq_true'] at he
  obtain ⟨⟨noProbe, noAnswer⟩, up⟩ := he
  have probes := h.probes_append_of noProbe
  have broadcasts := h.broadcasts_append_of me q modes.broadcastOnly noProbe
  have answers := h.answers_append_of me q noAnswer
  have down := h.networkDown_append_of up
  exact ⟨a.sameModes, a.sameMe, a.sameQuery, probes ▸ a.sent, broadcasts ▸ a.broadcastSent,
    answers ▸ a.received, answers ▸ a.unicasting, down ▸ a.netDown⟩

theorem probe (a : Account modes me q h p) (now : Instant) (frame : Octets) :
    Account modes me q (h ++ [.written frame frame.length])
      { p with session := p.session.recordSend now } := by
  have one : History.probes [.written frame frame.length] = 1 := by
    simp [History.probes, Event.isProbe]
  have answers := h.answers_append_of me q (e := .written frame frame.length) rfl
  have down := h.networkDown_append_of (e := .written frame frame.length) rfl
  refine ⟨a.sameModes, a.sameMe, a.sameQuery, ?_, ?_, answers ▸ a.received, answers ▸ a.unicasting,
    down ▸ a.netDown⟩
  · rw [h.probes_append, one, UInt32.ofNat_add, ← a.sent]
    rfl
  · rw [h.broadcasts_append, one, UInt32.ofNat_add, ← a.broadcastSent, ← a.unicasting]
    simp only [Session.recordSend, Counters.send]
    cases p.session.unicasting <;> simp

theorem send (a : Account modes me q h p) (now : Instant) (frame : Octets) (n : Nat) :
    Account modes me q (h ++ [.written frame n]) (p.afterSend now frame.length (.ok n)).1 := by
  by_cases complete : n = frame.length
  · rw [complete, Prober.afterSend, if_pos rfl]
    exact a.probe now frame
  · rw [Prober.afterSend, if_neg complete]
    exact a.idle (by simp [Event.isIdle, Event.isProbe, Event.isAnswer, Event.isNetworkDown,
      complete])

theorem answer (a : Account modes me q h p) {packet : Octets} {link : LinkInfo} {f : Frame}
    (parsed : Frame.parse packet link me q = .ok f) :
    Account modes me q (h ++ [.taken packet link])
      { p with session := (p.session.accept f link.packetClass).1 } := by
  have one : History.answers me q [.taken packet link] = 1 := by
    simp [History.answers, Event.isAnswer, parsed, Except.isOk, Except.toBool]
  have probes := h.probes_append_of (e := .taken packet link) rfl
  have broadcasts := h.broadcasts_append_of me q modes.broadcastOnly (e := .taken packet link) rfl
  have down := h.networkDown_append_of (e := .taken packet link) rfl
  refine ⟨?_, ?_, a.sameQuery, ?_, ?_, ?_, ?_, down ▸ a.netDown⟩
  · simpa [Session.accept] using a.sameModes
  · simpa [Session.accept] using a.sameMe
  · simpa [Session.accept, Counters.accept, probes] using a.sent
  · simpa [Session.accept, Counters.accept, broadcasts] using a.broadcastSent
  · rw [h.answers_append, one, UInt32.ofNat_add, ← a.received]
    simp only [Session.accept, Session.counters_turn, Counters.accept]
    rfl
  -- Having turned before or turning now, the prober has left the broadcast address.
  · rw [h.answers_append, one]
    simp only [Session.accept, Session.unicasting_turn, a.unicasting, a.sameModes]
    cases modes.broadcastOnly <;> simp

theorem receive (a : Account modes me q h p) (now : Instant) (packet : Octets) (link : LinkInfo) :
    Account modes me q (h ++ [.taken packet link]) (p.afterReceive now packet link).1 := by
  have reading : Frame.parse packet link p.session.endpoint.me p.query =
      Frame.parse packet link me q := by rw [a.sameMe, a.sameQuery]
  cases parsed : Frame.parse packet link me q with
  | error reject =>
    rw [Prober.afterReceive, reading, parsed]
    exact a.idle (by simp [Event.isIdle, Event.isProbe, Event.isAnswer, Event.isNetworkDown,
      parsed, Except.isOk, Except.toBool])
  | ok f =>
    rw [Prober.afterReceive, reading, parsed]
    exact a.answer parsed

theorem failure (a : Account modes me q h p) (e : Errno) :
    Account modes me q (h ++ [.call .receive (some e)]) (p.afterFailure (.system e)).1 := by
  have probes := h.probes_append_of (e := .call .receive (some e)) rfl
  have answers := h.answers_append_of me q (e := .call .receive (some e)) rfl
  have broadcasts :=
    h.broadcasts_append_of me q modes.broadcastOnly (e := .call .receive (some e)) rfl
  refine ⟨a.sameModes, a.sameMe, a.sameQuery, probes ▸ a.sent, broadcasts ▸ a.broadcastSent,
    answers ▸ a.received, answers ▸ a.unicasting, ?_⟩
  rw [h.networkDown_append, History.networkDown_singleton, ← a.netDown]
  simp [Prober.afterFailure, IoError.errno?, Event.isNetworkDown]

end Account

end ArpProbe
