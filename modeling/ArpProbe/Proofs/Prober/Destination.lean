import ArpProbe.Proofs.Prober.Account
import ArpProbe.Proofs.Prober.Moves

/-! Where probes go: to the broadcast address, and from the first answer on to the station that gave
it. The next frame of a prober, and where it is sent, are read off the history. -/

namespace ArpProbe

def Event.responder? (me : Octets) (q : Query) : Event → Option Octets
  | taken packet link =>
    match Frame.parse packet link me q with
    | .ok f => some f.senderHw
    | .error _ => none
  | _ => none

theorem Session.endpoint_turn (s : Session) (responder : Octets) :
    (s.turn responder).endpoint =
      if s.modes.broadcastOnly || s.unicasting then s.endpoint
      else { s.endpoint with he := responder } := by
  unfold turn
  split <;> rfl

namespace History

def responder? (me : Octets) (q : Query) (h : History) : Option Octets :=
  h.findSome? (Event.responder? me q)

def destination (broadcastOnly : Bool) (broadcast me : Octets) (q : Query) (h : History) : Octets :=
  if broadcastOnly then broadcast else (h.responder? me q).getD broadcast

theorem responder?_append_of {me : Octets} {q : Query} {h g : History}
    (silent : ∀ e ∈ g, e.responder? me q = none) :
    responder? me q (h ++ g) = h.responder? me q := by
  have later : g.findSome? (Event.responder? me q) = none := List.findSome?_eq_none_iff.mpr silent
  rw [responder?, List.findSome?_append, later, Option.or_none, responder?]

end History

section

variable (modes : Modes) (start : Endpoint) (q : Query)

/-- A frame handed to the link goes where the history before it says, and is what a prober with
these modes, this endpoint at first and this query has to say. -/
def Event.IsDirected (before : History) : Event → Prop
  | .call (.send _ destination frame) _ =>
    destination = before.destination modes.broadcastOnly start.he start.me q ∧
      Frame.encode?
        { hardwareType := HardwareType.onWire start.hardwareType
          protocolType := protocolIpv4
          operation := if modes.advert then Operation.reply else Operation.request
          senderHw := start.me
          senderIp := q.source
          targetHw := if modes.advert then start.me else destination
          targetIp := q.target } = some frame
  | _ => True

def History.IsDirected (h : History) : Prop :=
  ∀ before e after, h = before ++ e :: after → e.IsDirected modes start q before

structure Prober.Aims (h : History) (p : Prober) : Prop where
  sameModes : p.session.modes = modes
  sameQuery : p.query = q
  endpoint : p.session.endpoint =
    { start with he := h.destination modes.broadcastOnly start.he start.me q }
  unicasting : p.session.unicasting =
    (!modes.broadcastOnly && (h.responder? start.me q).isSome)

end

variable {modes : Modes} {start : Endpoint} {q : Query} {h g : History} {p p' : Prober}

theorem History.isDirected_concat {e : Event} :
    History.IsDirected modes start q (h ++ [e]) ↔
      h.IsDirected modes start q ∧ e.IsDirected modes start q h := by
  constructor
  · intro directed
    refine ⟨fun before e' after split => ?_, directed h e [] rfl⟩
    exact directed before e' (after ++ [e]) (by rw [split, List.append_assoc, List.cons_append])
  · rintro ⟨directed, last⟩ before e' after split
    -- It is the last event, or it stands before the last.
    rcases after.eq_nil_or_concat with rfl | ⟨rest, e'', rfl⟩
    · obtain ⟨rfl, same⟩ := List.append_inj' split rfl
      cases same
      exact last
    · rw [List.concat_eq_append, ← List.cons_append, ← List.append_assoc] at split
      obtain ⟨rfl, _⟩ := List.append_inj' split rfl
      exact directed before e' rest rfl

theorem Event.isDirected_of_not_send {e : Event}
    (other : ∀ index destination frame failure, e ≠ .call (.send index destination frame) failure) :
    e.IsDirected modes start q h := by
  cases e with
  | call c failure =>
    cases c with
    | send index destination frame => exact absurd rfl (other index destination frame failure)
    | _ => trivial
  | _ => trivial

namespace Prober.Aims

theorem keep (a : Aims modes start q h p) (sameModes : p'.session.modes = p.session.modes)
    (sameQuery : p'.query = p.query) (sameEndpoint : p'.session.endpoint = p.session.endpoint)
    (sameTurn : p'.session.unicasting = p.session.unicasting)
    (silent : ∀ e ∈ g, e.responder? start.me q = none) : Aims modes start q (h ++ g) p' where
  sameModes := sameModes.trans a.sameModes
  sameQuery := sameQuery.trans a.sameQuery
  endpoint := by
    rw [sameEndpoint, a.endpoint, History.destination, History.destination,
      History.responder?_append_of silent]
  unicasting := by rw [sameTurn, a.unicasting, History.responder?_append_of silent]

theorem answered (a : Aims modes start q h p) {packet : Octets} {link : LinkInfo} {f : Frame}
    (parsed : Frame.parse packet link start.me q = .ok f) :
    Aims modes start q (h ++ [.call .receive none, .taken packet link])
      { p with session := (p.session.accept f link.packetClass).1 } := by
  have last : List.findSome? (Event.responder? start.me q)
      [.call .receive none, .taken packet link] = some f.senderHw := by
    rw [List.findSome?_cons_of_isNone rfl, List.findSome?_cons]
    simp only [Event.responder?, parsed]
  have answer : History.responder? start.me q (h ++ [.call .receive none, .taken packet link]) =
      (h.responder? start.me q).or (some f.senderHw) := by
    rw [History.responder?, List.findSome?_append, last, History.responder?]
  refine ⟨?_, a.sameQuery, ?_, ?_⟩
  · simpa [Session.accept] using a.sameModes
  -- Only the first answer turns the prober, and only where it leaves the broadcast address at all.
  · simp only [Session.accept, Session.endpoint_turn, a.sameModes, a.unicasting, a.endpoint,
      History.destination, answer]
    cases modes.broadcastOnly <;> cases h.responder? start.me q <;> rfl
  · simp only [Session.accept, Session.unicasting_turn, a.sameModes, a.unicasting, answer]
    cases modes.broadcastOnly <;> simp

theorem received (a : Aims modes start q h p) (now : Instant) (packet : Octets) (link : LinkInfo) :
    Aims modes start q (h ++ [.call .receive none, .taken packet link])
      (p.afterReceive now packet link).1 := by
  have reading : Frame.parse packet link p.session.endpoint.me p.query =
      Frame.parse packet link start.me q := by rw [a.endpoint, a.sameQuery]
  cases parsed : Frame.parse packet link start.me q with
  | error reject =>
    rw [Prober.afterReceive, reading, parsed]
    exact a.keep rfl rfl rfl rfl (by simp [Event.responder?, parsed])
  | ok f =>
    rw [Prober.afterReceive, reading, parsed]
    exact a.answered parsed

theorem move (a : Aims modes start q h p) (m : p.Move g p') (going : p'.stuck = false) :
    Aims modes start q (h ++ g) p' := by
  cases m with
  | waited | unsent | unreceived | expired =>
    exact a.keep rfl rfl rfl rfl (by simp [Event.responder?])
  | sent encoded now n =>
    rw [Prober.afterSend]
    split <;> exact a.keep rfl rfl rfl rfl (by simp [Event.responder?])
  | received now packet link => exact a.received now packet link
  | lost | clockless | unencodable => cases going

theorem frame_eq (a : Aims modes start q h p) :
    p.frame = Frame.probe start.hardwareType start.me
      (h.destination modes.broadcastOnly start.he start.me q) modes.advert q.source q.target := by
  rw [Prober.frame, a.endpoint, a.sameModes, a.sameQuery]

theorem directs (a : Aims modes start q h p) {octets : Octets}
    (encoded : p.frame.encode? = some octets) (index : Int32) (failure : Option Errno) :
    Event.IsDirected modes start q h
      (.call (.send index p.session.endpoint.he octets) failure) := by
  rw [a.frame_eq] at encoded
  rw [a.endpoint]
  exact ⟨rfl, encoded⟩

end Prober.Aims

open Prober

theorem Prober.Move.isDirected (m : p.Move g p') (a : Aims modes start q h p)
    (directed : h.IsDirected modes start q) : History.IsDirected modes start q (h ++ g) := by
  have pair {e e' : Event} (first : e.IsDirected modes start q h)
      (second : e'.IsDirected modes start q (h ++ [e])) :
      History.IsDirected modes start q (h ++ [e, e']) := by
    rw [List.append_cons, History.isDirected_concat, History.isDirected_concat]
    exact ⟨⟨directed, first⟩, second⟩
  cases m with
  | waited waits failure =>
    refine History.isDirected_concat.mpr ⟨directed, Event.isDirected_of_not_send ?_⟩
    rintro _ _ _ _ ⟨⟩
    cases waits
  | unsent encoded e => exact History.isDirected_concat.mpr ⟨directed, a.directs encoded _ _⟩
  | sent encoded now n => exact pair (a.directs encoded _ _) trivial
  | unreceived e => exact History.isDirected_concat.mpr ⟨directed, trivial⟩
  | received | lost => exact pair trivial trivial
  | expired | clockless | unencodable => simpa using directed

theorem Prober.Moves.isDirected (m : p.Moves g p') (a : Aims modes start q h p)
    (directed : h.IsDirected modes start q) (going : p.stuck = false) :
    History.IsDirected modes start q (h ++ g) ∧
      (p'.stuck = false → Aims modes start q (h ++ g) p') := by
  induction m with
  | none => simpa using ⟨directed, fun _ => a⟩
  | more before still move ih =>
    obtain ⟨directed, aims⟩ := ih
    have a := aims (still.trans going)
    rw [← List.append_assoc]
    exact ⟨move.isDirected a directed, a.move move⟩

def Prober.TurnsOnce (p p' : Prober) : Prop :=
  p'.session.endpoint = p.session.endpoint ∧ p'.session.unicasting = p.session.unicasting ∨
    p.session.unicasting = false ∧ p'.session.unicasting = true

theorem Prober.TurnsOnce.trans {p₁ p₂ p₃ : Prober} (first : p₁.TurnsOnce p₂)
    (second : p₂.TurnsOnce p₃) : p₁.TurnsOnce p₃ := by
  rcases first with ⟨e, u⟩ | ⟨before, after⟩
  · rcases second with ⟨e', u'⟩ | ⟨before', after'⟩
    · exact .inl ⟨e'.trans e, u'.trans u⟩
    · exact .inr ⟨u ▸ before', after'⟩
  · rcases second with ⟨_, u'⟩ | ⟨before', _⟩
    · exact .inr ⟨before, u'.trans after⟩
    -- A prober that has turned does not turn again.
    · rw [after] at before'
      cases before'

theorem Prober.afterReceive_turnsOnce (p : Prober) (now : Instant) (packet : Octets)
    (link : LinkInfo) : p.TurnsOnce (p.afterReceive now packet link).1 := by
  rw [afterReceive]
  cases Frame.parse packet link p.session.endpoint.me p.query with
  | error reject => exact .inl ⟨rfl, rfl⟩
  | ok f =>
    by_cases stays : p.session.modes.broadcastOnly || p.session.unicasting
    · refine .inl ⟨?_, ?_⟩
      · simp [Session.accept, Session.endpoint_turn, stays]
      · simp only [Session.accept, Session.unicasting_turn]
        cases h : p.session.unicasting <;> simp_all
    · simp only [Bool.or_eq_true, not_or, Bool.not_eq_true] at stays
      refine .inr ⟨stays.2, ?_⟩
      simp [Session.accept, Session.unicasting_turn, stays.1]

theorem Prober.Moves.turnsOnce (m : p.Moves g p') : p.TurnsOnce p' := by
  induction m with
  | none => exact .inl ⟨rfl, rfl⟩
  | more before still move ih =>
    refine ih.trans ?_
    cases move with
    | sent encoded now n =>
      rw [afterSend]
      split <;> exact .inl ⟨rfl, rfl⟩
    | received now packet link => exact afterReceive_turnsOnce _ now packet link
    | waited | unsent | expired | unreceived | lost | clockless | unencodable =>
      exact .inl ⟨rfl, rfl⟩

end ArpProbe
