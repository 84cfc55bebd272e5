import ArpProbe.Proofs.Frame.Bounds
import ArpProbe.Proofs.Prober.Constants
import ArpProbe.Proofs.Prober.Destination

/-! The lengths of the addresses that a prober holds. Both have one length to begin with, and an
answer only ever brings another address of that length, so every frame is written whole and every
destination fits the socket address that it is put into. -/

namespace ArpProbe

def Endpoint.IsLevel (e : Endpoint) : Prop := e.he.length = e.me.length

structure Endpoint.Fits (e : Endpoint) : Prop where
  nonempty : 1 ≤ e.me.length
  stored : e.me.length ≤ StoredAddress.capacity
  level : e.IsLevel

theorem StoredAddress.octets_hold {address : Octets} (fits : address.length ≤ capacity) :
    (hold address).octets = address := by
  have whole : min (min address.length capacity) capacity = address.length := by omega
  rw [octets, hold, store, whole, List.take_of_length_le fits, List.take_left]

theorem Frame.length_senderHw {packet : Octets} {link : LinkInfo} {me : Octets} {q : Query}
    {f : Frame} (accepted : parse packet link me q = .ok f) : f.senderHw.length = me.length := by
  have found := Wire.parse_finds packet link me q
  rw [accepted] at found
  obtain ⟨rfl, met⟩ := found
  have answer := (Wire.isAnswer_iff packet link me q).mpr met
  have long := answer.length
  exact Wire.length_slice (by omega)

/-- A frame handed to the link with addresses of `n` octets: neither it nor its destination is
cut. -/
def Event.IsWhole (n : Nat) : Event → Prop
  | .call (.send index destination frame) _ =>
    (LinkSocketAddress.ofAddress index destination).address.octets = destination ∧
      destination.length = n ∧ frame.length = 8 + 2 * (4 + n) ∧
      frame[4]? = some (UInt8.ofNat n)
  | _ => True

namespace Prober

variable {p p' : Prober} {h g : History}

theorem level_afterReceive (level : p.session.endpoint.IsLevel) (now : Instant) (packet : Octets)
    (link : LinkInfo) : (p.afterReceive now packet link).1.session.endpoint.IsLevel := by
  rw [afterReceive]
  cases accepted : Frame.parse packet link p.session.endpoint.me p.query with
  | error reject => exact level
  | ok f =>
    have answered := Frame.length_senderHw accepted
    simp only [Session.accept, Session.endpoint_turn]
    split
    · exact level
    · exact answered

theorem Move.level (m : p.Move g p') (level : p.session.endpoint.IsLevel) :
    p'.session.endpoint.IsLevel := by
  cases m with
  | sent encoded now n =>
    rw [afterSend]
    split <;> exact level
  | received now packet link => exact level_afterReceive level now packet link
  | waited | unsent | expired | unreceived | lost | clockless | unencodable => exact level

theorem Moves.level (m : p.Moves h p') (level : p.session.endpoint.IsLevel) :
    p'.session.endpoint.IsLevel := by
  induction m with
  | none => exact level
  | more before going move ih => exact move.level ih

theorem Moves.fits (m : p.Moves h p') (fits : p.session.endpoint.Fits) :
    p'.session.endpoint.Fits where
  nonempty := by
    rw [m.sameMe]
    exact fits.nonempty
  stored := by
    rw [m.sameMe]
    exact fits.stored
  level := m.level fits.level

theorem encode_frame (level : p.session.endpoint.IsLevel) :
    ∃ octets, p.frame.encode? = some octets ∧
      octets.length = 8 + 2 * (4 + p.session.endpoint.me.length) ∧
      octets[4]? = some (UInt8.ofNat p.session.endpoint.me.length) := by
  refine Frame.encode_of_level (f := p.frame) ?_
  rw [frame, Frame.probe]
  split
  · rfl
  · exact level

theorem isWhole_send (fits : p.session.endpoint.Fits) {octets : Octets}
    (encoded : p.frame.encode? = some octets) (failure : Option Errno) :
    Event.IsWhole p.session.endpoint.me.length
      (.call (.send p.index p.session.endpoint.he octets) failure) := by
  obtain ⟨written, encodes, length, octet⟩ := encode_frame fits.level
  rw [encoded] at encodes
  cases encodes
  have level : p.session.endpoint.he.length = p.session.endpoint.me.length := fits.level
  have stored : p.session.endpoint.he.length ≤ StoredAddress.capacity := level ▸ fits.stored
  exact ⟨StoredAddress.octets_hold stored, level, length, octet⟩

theorem Move.isWhole (m : p.Move g p') (fits : p.session.endpoint.Fits) :
    ∀ e ∈ g, e.IsWhole p.session.endpoint.me.length := by
  cases m with
  | @waited c waits failure =>
    cases c with
    | poll | readSignal | readTimer => simp [Event.IsWhole]
    | _ => cases waits
  | unsent encoded e => exact List.forall_mem_singleton.mpr (isWhole_send fits encoded _)
  | sent encoded now n =>
    exact List.forall_mem_cons.mpr
      ⟨isWhole_send fits encoded _, List.forall_mem_singleton.mpr trivial⟩
  | unreceived | received | lost => simp [Event.IsWhole]
  | expired | clockless | unencodable => simp

theorem Moves.isWhole (m : p.Moves h p') (fits : p.session.endpoint.Fits) :
    ∀ e ∈ h, e.IsWhole p.session.endpoint.me.length := by
  induction m with
  | none => simp
  | more before going move ih =>
    have now := move.isWhole (before.fits fits)
    rw [before.sameMe] at now
    exact List.forall_mem_append.mpr ⟨ih, now⟩

/-- The frame of a prober can be written and its destination put into a socket address, neither is
cut, and no packet is read beyond its end. -/
structure IsSafe (p : Prober) : Prop where
  nonempty : 1 ≤ p.session.endpoint.me.length
  stored : p.session.endpoint.me.length ≤ 8
  level : p.session.endpoint.he.length = p.session.endpoint.me.length
  writes : ∃ octets octet, p.frame.encode? = some octets ∧
    octets.length = 8 + 2 * (4 + p.session.endpoint.me.length) ∧ octets[4]? = some octet ∧
    octet.toNat = p.session.endpoint.me.length
  addresses : ∀ index, (LinkSocketAddress.ofAddress index p.session.endpoint.he).address.octets =
    p.session.endpoint.he
  reads : ∀ packet link, Frame.parseWithin? packet link p.session.endpoint.me p.query =
    some (Frame.parse packet link p.session.endpoint.me p.query)

theorem isSafe_of_fits (fits : p.session.endpoint.Fits) : p.IsSafe where
  nonempty := fits.nonempty
  stored := fits.stored
  level := fits.level
  writes := by
    obtain ⟨octets, encoded, length, octet⟩ := encode_frame fits.level
    have short : p.session.endpoint.me.length < 256 := Nat.lt_of_le_of_lt fits.stored (by decide)
    exact ⟨octets, _, encoded, length, octet, UInt8.toNat_ofNat_of_lt' short⟩
  addresses index := by
    have level : p.session.endpoint.he.length = p.session.endpoint.me.length := fits.level
    exact StoredAddress.octets_hold (level ▸ fits.stored)
  reads packet link := Frame.parseWithin?_eq packet link _ _

end Prober

end ArpProbe
