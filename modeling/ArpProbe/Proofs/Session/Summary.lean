import ArpProbe.Proofs.Session.Ledger

/-! The summary of a session as text on the counts in its books. The counters that it shows are
those counts modulo their width. -/

namespace ArpProbe.Session

open Entry

def breakdownText (requests broadcasts : Nat) : String :=
  if requests = 0 ∧ broadcasts = 0 then ""
  else " (" ++ (if requests = 0 then "" else s!"{requests} request(s)") ++
    (if requests = 0 ∨ broadcasts = 0 then "" else ", ") ++
    (if broadcasts = 0 then "" else s!"{broadcasts} broadcast(s)") ++ ")"

def summaryText (sent broadcastSent received requests broadcasts : Nat) : String :=
  s!"Sent {sent} probes ({broadcastSent} broadcast(s))\n" ++
    s!"Received {received} response(s)" ++ breakdownText requests broadcasts ++ "\n"

def shown (n : Nat) : Nat := n % UInt32.size

theorem join_breakdown (c : Counters) :
    String.join c.breakdown =
      breakdownText c.requestReceived.toNat c.broadcastReceived.toNat := by
  have none (n : UInt32) : n.toNat = 0 ↔ ¬ 0 < n := by
    rw [UInt32.lt_iff_toNat_lt]
    exact ⟨fun zero => by simp [zero], fun zero => Nat.eq_zero_of_not_pos zero⟩
  simp only [Counters.breakdown, breakdownText, none]
  by_cases requests : 0 < c.requestReceived <;> by_cases broadcasts : 0 < c.broadcastReceived <;>
    simp [requests, broadcasts, String.append_assoc] <;> rfl

theorem summary_eq (s : Session) :
    s.summary = summaryText s.counters.sent.toNat s.counters.broadcastSent.toNat
      s.counters.received.toNat s.counters.requestReceived.toNat
      s.counters.broadcastReceived.toNat := by
  simp only [summary, summaryParts, String.join_append, join_breakdown, String.join_cons,
    String.join_nil, String.append_empty]
  rfl

theorem Ledger.summary {modes : Modes} {start : Endpoint} {h : List Entry} {s : Session}
    (l : Ledger modes start h s) :
    s.summary = summaryText (shown (sends h)) (shown (broadcasts h modes.broadcastOnly))
      (shown (answers h)) (shown (requests h)) (shown (broadcastAnswers h)) := by
  rw [summary_eq, l.sent, l.broadcastSent, l.received, l.requestReceived, l.broadcastReceived]
  simp only [UInt32.toNat_ofNat']
  rfl

end ArpProbe.Session
