import ArpProbe.Proofs.EventLoop.Expirations
import ArpProbe.Proofs.EventLoop.Foreign
import ArpProbe.Proofs.EventLoop.Reporting
import ArpProbe.Proofs.Frame.ReportLine
import ArpProbe.Proofs.Session.Summary

/-! The report of a whole run: a line for each frame that is accepted and for each signal that was
not expected, in the order in which they come, and a summary that counts these lines. -/

namespace ArpProbe

open Kernel (Prints Writes)
open Session (Entry summaryText shown)

namespace Occasion

def line? (me : Octets) (q : Query) (last : Option Instant) (o : Occasion) : Option String :=
  match o.answer? me q with
  | some (f, pc) => some (f.report pc q me (last.map o.circumstances.monotonic.since) ++ "\n")
  | none => o.step.surprise?

end Occasion

/-- A kind of lines that tells of a kind of entries in the books: an accepted frame is such an entry
if it brings such a line, and nothing else is or does. -/
structure Tells (told : String → Bool) (mark : Entry → Bool) : Prop where
  sent : ∀ t, mark (.sent t) = false
  expired : ∀ n, mark (.expired n) = false
  accepted : ∀ f pc q me elapsed,
    told (f.report pc q me elapsed ++ "\n") = mark (.accepted f pc)
  silent : told "" = false
  surprise : ∀ rest, told (programName ++ rest) = false

namespace Tells

theorem answers : Tells ReportLine.isAnswer Entry.isAccepted where
  sent _ := rfl
  expired _ := rfl
  accepted := Frame.isAnswer_report
  silent := by decide
  surprise rest := by
    rw [ReportLine.isAnswer, ReportLine.begins_append, ReportLine.begins_append]
    rfl

theorem requests : Tells ReportLine.isRequest Entry.isRequest where
  sent _ := rfl
  expired _ := rfl
  accepted := Frame.isRequest_report
  silent := by decide
  surprise rest := by
    rw [ReportLine.isRequest, ReportLine.begins_append, ReportLine.begins_append]
    rfl

theorem broadcasts : Tells ReportLine.isBroadcast Entry.isBroadcast where
  sent _ := rfl
  expired _ := rfl
  accepted := Frame.isBroadcast_report
  silent := by decide
  surprise rest := by
    rw [ReportLine.isBroadcast, ReportLine.begins_append]
    rfl

variable {told : String → Bool} {mark : Entry → Bool} (t : Tells told mark)
include t

theorem surprise? {s : Step} : told (s.surprise?.getD "") = false := by
  cases line : s.surprise? with
  | none => exact t.silent
  | some text =>
    unfold Step.surprise? at line
    split at line
    · next number =>
      split at line
      · cases line
      · cases line
        simp only [String.append_assoc]
        exact t.surprise _
    · cases line

theorem countP_entries (o : Occasion) (me : Octets) (q : Query) (last : Option Instant)
    (wrote : Bool) :
    (o.entries me q wrote).countP mark =
      if told ((o.line? me q last).getD "") then 1 else 0 := by
  have expired : o.expired.countP mark = 0 := by
    unfold Occasion.expired
    split
    · next n _ => rw [List.countP_singleton, t.expired, if_neg Bool.false_ne_true]
    · rfl
  have sent : (o.sent wrote).countP mark = 0 := by
    unfold Occasion.sent
    split
    · rw [List.countP_singleton, t.sent, if_neg Bool.false_ne_true]
    · rfl
  rw [Occasion.entries, List.countP_append, List.countP_append, expired, sent, Nat.zero_add,
    Occasion.accepted, Occasion.line?]
  cases o.answer? me q with
  | none =>
    simp only [t.surprise?]
    rfl
  | some answer =>
    obtain ⟨f, pc⟩ := answer
    simp only [Option.getD_some, t.accepted]
    exact List.countP_singleton

end Tells

namespace Prober

variable (v : Verbosity) {p : Prober} (k : Kernel)

theorem signal_prints (number : UInt32)
    (fine : (Step.surprise? (.handle (.signal number))).isSome = true → k.streams.report = none) :
    Prints ((Step.surprise? (.handle (.signal number))).getD "") k
      (k.told v (onSignal number).2) := by
  simp only [Step.surprise?, onSignal] at fine ⊢
  by_cases ends : SignalChannel.isTermination number
  · rw [if_pos ends, if_pos ends]
    exact .of_silent (k.writes_told_silent v (List.forall_mem_singleton.mpr rfl))
  · rw [if_neg ends] at fine
    rw [if_neg ends, if_neg ends]
    exact Sys.prints_tell v _ false .signal (fine rfl)

theorem accepted_prints (loud : p.session.modes.quiet = false) (fine : k.streams.report = none)
    (now : Instant) {packet : Octets} {link : LinkInfo} {f : Frame}
    (parsed : Frame.parse packet link p.session.endpoint.me p.query = .ok f) :
    Prints (f.report link.packetClass p.query p.session.endpoint.me
      (p.session.lastSend.map now.since) ++ "\n") k
      (k.told v (p.afterReceive now packet link).2.2) := by
  have notes : p.reportNotes now f link.packetClass = [.report (f.report link.packetClass p.query
      p.session.endpoint.me (p.session.elapsed now)) true .session] := by
    rw [reportNotes, loud]
    rfl
  simp only [afterReceive, parsed, notes]
  refine (Sys.prints_tell v _ true .session fine).then_silent ?_
  exact Kernel.writes_told_silent _ v (List.forall_mem_singleton.mpr rfl)

theorem receive_prints (loud : p.session.modes.quiet = false) (arrival : Arrival) :
    let o : Occasion := ⟨k.circumstances, .handle (.receive arrival)⟩
    let line? := o.line? p.session.endpoint.me p.query p.session.lastSend
    (line?.isSome = true → k.streams.report = none) →
      Prints (line?.getD "") k ((p.receive v arrival).run k).2 := by
  intro o line? fine
  cases arrival with
  | failed e =>
    rw [receive_run]
    exact .of_silent (Kernel.writes_told_silent (k.record _) v (List.forall_mem_singleton.mpr rfl))
  | frame octets link =>
    let later (faults : CallKind → List Errno) : Kernel :=
      { k with faults, events := k.events ++ (Arrival.frame octets link).record }
    have same (faults : CallKind → List Errno) : (later faults).output = k.output := rfl
    obtain ⟨faults, received⟩ := receive_frame_run v p k octets link
    simp only [line?, o, Occasion.line?, Occasion.answer?, k.fault?_circumstances] at fine ⊢
    rw [received]
    revert fine
    cases (k.takeFault .clock).1 with
    | some e => exact fun _ => .still rfl
    | none =>
      simp only [if_true]
      cases parsed : Frame.parse (octets.take Sys.receiveCapacity) link p.session.endpoint.me
          p.query with
      | error reject =>
        intro _
        simp only [afterReceive, parsed]
        refine .of_silent ((Writes.chains _).trans (.still (same faults)) ?_)
        exact Kernel.writes_told_silent _ v (List.forall_mem_singleton.mpr rfl)
      | ok f =>
        intro fine
        exact (accepted_prints v (later faults) loud (fine rfl) k.monotonic parsed).from_same
          (same faults)

theorem take_prints (loud : p.session.modes.quiet = false) (s : Step) :
    let o : Occasion := ⟨k.circumstances, s⟩
    let line? := o.line? p.session.endpoint.me p.query p.session.lastSend
    (line?.isSome = true → k.streams.report = none) →
      Prints (line?.getD "") k ((s.take v p).run k).2 := by
  intro o line? fine
  cases s with
  | wait | readSignal | readTimer | stop => exact .still rfl
  | tell topic message =>
    have told : ∀ n ∈ [Note.failure topic message], n.reportText? = none :=
      List.forall_mem_singleton.mpr rfl
    exact .of_silent (k.writes_told_silent v told)
  | handle input =>
    cases input with
    | send => exact .of_silent (send_silent v k p)
    | timer expirations =>
      simp only [Step.take]
      rcases timer_cases v p k expirations with ⟨_, sends⟩ | ⟨_, ends⟩
      · rw [sends]
        exact .of_silent (send_silent v k _)
      · rw [ends]
        exact .still rfl
    | signal number => exact signal_prints v k number fine
    | receive arrival => exact receive_prints v k loud arrival fine

theorem send_probes_le (p : Prober) : (k.since ((p.send v).run k).2).probes ≤ 1 := by
  rcases p.send_tries v k with ⟨_, tries⟩ | ⟨_, tries⟩
  · exact tries.probes_since
  · exact Nat.le_trans tries.probes_since (Nat.zero_le 1)

theorem take_probes (s : Step) :
    let went := (s.take v p).run k
    (k.since went.2).probes = if (k.since went.2).any Event.isProbe then 1 else 0 := by
  intro went
  have idle (still : s.isSending = false) : (k.since went.2).probes ≤ 1 := by
    have none : s.record.probes = 0 := s.record.probes_eq_zero_iff.mpr s.record_idle
    rw [Kernel.since_of_append (p.take_records v k still), none]
    exact Nat.zero_le 1
  have one : (k.since went.2).probes ≤ 1 := by
    cases s with
    | wait | readSignal | readTimer | tell | stop => exact idle rfl
    | handle input =>
      cases input with
      | signal | receive => exact idle rfl
      | send => exact send_probes_le v k p
      | timer expirations =>
        simp only [went, Step.take]
        rcases timer_cases v p k expirations with ⟨_, sends⟩ | ⟨_, ends⟩
        · rw [sends]
          exact send_probes_le v k _
        · have nothing : k.since k = [] := Kernel.since_of_append (List.append_nil _).symm
          rw [ends, nothing]
          exact Nat.zero_le 1
  cases wrote : (k.since went.2).any Event.isProbe with
  | true => exact Nat.le_antisymm one ((k.since went.2).probes_pos_iff.mpr wrote)
  | false => exact (k.since went.2).probes_eq_zero_iff.mpr wrote

end Prober

namespace Occasion

def CanReport (me : Octets) (q : Query) (o : Occasion) : Prop :=
  o.answer? me q ≠ none ∨ o.step.surprise? ≠ none → o.circumstances.streams.report = none

variable (v : Verbosity) {p : Prober} {o : Occasion} (k : Kernel)

theorem isSome_line? {me : Octets} {q : Query} {last : Option Instant}
    (line : (o.line? me q last).isSome = true) :
    o.answer? me q ≠ none ∨ o.step.surprise? ≠ none := by
  unfold line? at line
  split at line
  · next f pc answer =>
    rw [answer]
    exact .inl nofun
  · exact .inr (Option.isSome_iff_ne_none.mp line)

theorem meet_prints (loud : p.session.modes.quiet = false)
    (fine : o.CanReport p.session.endpoint.me p.query) :
    let met := (o.meet v p).run k
    met.1.report = (o.line? p.session.endpoint.me p.query p.session.lastSend).getD "" ∧
      Prints met.1.report k met.2 := by
  intro met
  have prints := Prober.take_prints v (k.under o.circumstances) loud o.step fun line =>
    fine (isSome_line? line)
  have prints := prints.from_same (k := k) rfl
  have same : met.1.report = _ := prints.reportSince_eq
  exact ⟨same, same ▸ prints⟩

theorem meet_enters :
    let r := ((o.meet v p).run k).1
    r.prober.session =
      p.session.replay (o.entries p.session.endpoint.me p.query r.hasWritten) :=
  p.take_enters v (k.under o.circumstances) o.step

theorem meet_loud :
    ((o.meet v p).run k).1.prober.session.modes.quiet = p.session.modes.quiet :=
  congrArg Modes.quiet (Prober.sameModes_take v o.step (k.under o.circumstances))

end Occasion

namespace EventLoop

variable (v : Verbosity)

theorem meetAll_append (p : Prober) (earlier later : List Occasion) (k : Kernel) :
    (meetAll v p (earlier ++ later)).run k =
      let first := (meetAll v p earlier).run k
      let second := (meetAll v first.1.1 later).run first.2
      ((second.1.1, first.1.2 ++ second.1.2), second.2) := by
  induction earlier generalizing p k with
  | nil => rfl
  | cons o rest ih =>
    rw [List.cons_append, meetAll_cons, meetAll_cons]
    simp only [ih, List.cons_append]

theorem length_meetAll (p : Prober) (occasions : List Occasion) (k : Kernel) :
    ((meetAll v p occasions).run k).1.2.length = occasions.length := by
  induction occasions generalizing p k with
  | nil => rfl
  | cons o rest ih =>
    rw [meetAll_cons]
    exact congrArg (· + 1) (ih _ _)

def book (me : Octets) (q : Query) (occasions : List Occasion) (reactions : List Reaction) :
    List Entry :=
  (occasions.zip reactions).flatMap fun (o, r) => o.entries me q r.hasWritten

theorem meetAll_enters (p : Prober) (occasions : List Occasion) (k : Kernel) :
    let met := (meetAll v p occasions).run k
    met.1.1.session =
      p.session.replay (book p.session.endpoint.me p.query occasions met.1.2) := by
  induction occasions generalizing p k with
  | nil => rfl
  | cons o rest ih =>
    obtain ⟨me, query⟩ := Occasion.meet_asks (o := o) (p := p) v k
    have later := ih ((o.meet v p).run k).1.prober ((o.meet v p).run k).2
    rw [me, query, Occasion.meet_enters] at later
    simp only [meetAll_cons] at later ⊢
    rw [later]
    exact List.foldl_append.symm

theorem meetAll_prints {p : Prober} (loud : p.session.modes.quiet = false)
    {occasions : List Occasion}
    (fine : ∀ o ∈ occasions, o.CanReport p.session.endpoint.me p.query) (k : Kernel) :
    let met := (meetAll v p occasions).run k
    Prints (String.join (met.1.2.map Reaction.report)) k met.2 := by
  induction occasions generalizing p k with
  | nil => exact .still rfl
  | cons o rest ih =>
    obtain ⟨now, later⟩ := List.forall_mem_cons.mp fine
    obtain ⟨me, query⟩ := Occasion.meet_asks (o := o) (p := p) v k
    rw [← me, ← query] at later
    have first := (Occasion.meet_prints v k loud now).2
    have others := ih ((Occasion.meet_loud v k).trans loud) later ((o.meet v p).run k).2
    simp only [meetAll_cons, List.map_cons, String.join_cons]
    exact first.trans others

theorem meetAll_records (p : Prober) (occasions : List Occasion) (k : Kernel) :
    ∃ g, ((meetAll v p occasions).run k).2.events = k.events ++ g := by
  induction occasions generalizing p k with
  | nil => exact ⟨[], (List.append_nil _).symm⟩
  | cons o rest ih =>
    obtain ⟨g, recorded, _⟩ := p.take_leads v (k.under o.circumstances) o.step
    obtain ⟨g', recorded'⟩ := ih ((o.meet v p).run k).1.prober ((o.meet v p).run k).2
    have first : ((o.meet v p).run k).2.events = k.events ++ g := recorded
    refine ⟨g ++ g', ?_⟩
    rw [meetAll_cons]
    simp only [recorded', first, List.append_assoc]

theorem meetAll_probes (p : Prober) (occasions : List Occasion) (k : Kernel) (me : Octets)
    (q : Query) :
    let met := (meetAll v p occasions).run k
    (k.since met.2).probes = Entry.sends (book me q occasions met.1.2) := by
  induction occasions generalizing p k with
  | nil =>
    have nothing : k.since k = [] := Kernel.since_of_append (List.append_nil _).symm
    change (k.since k).probes = 0
    rw [nothing]
    rfl
  | cons o rest ih =>
    let first := (o.meet v p).run k
    have others := ih first.1.prober first.2
    obtain ⟨g, recorded, _⟩ := p.take_leads v (k.under o.circumstances) o.step
    have recorded : first.2.events = k.events ++ g := recorded
    obtain ⟨g', recorded'⟩ := meetAll_records v first.1.prober rest first.2
    have one : (k.since first.2).probes = if first.1.hasWritten then 1 else 0 :=
      Prober.take_probes v (k.under o.circumstances) o.step
    simp only [meetAll_cons] at others ⊢
    rw [Kernel.since_trans recorded recorded', History.probes_append, one, others]
    refine Eq.trans ?_ List.countP_append.symm
    exact congrArg (· + _) (o.sends_entries me q first.1.hasWritten).symm

theorem countP_book {told : String → Bool} {mark : Entry → Bool} (t : Tells told mark) {p : Prober}
    (loud : p.session.modes.quiet = false) {occasions : List Occasion}
    (fine : ∀ o ∈ occasions, o.CanReport p.session.endpoint.me p.query) (k : Kernel) :
    let met := (meetAll v p occasions).run k
    (book p.session.endpoint.me p.query occasions met.1.2).countP mark =
      (met.1.2.map Reaction.report).countP told := by
  induction occasions generalizing p k with
  | nil => rfl
  | cons o rest ih =>
    obtain ⟨now, later⟩ := List.forall_mem_cons.mp fine
    obtain ⟨me, query⟩ := Occasion.meet_asks (o := o) (p := p) v k
    have line := (Occasion.meet_prints v k loud now).1
    have others := ih ((Occasion.meet_loud v k).trans loud) (me ▸ query ▸ later)
      ((o.meet v p).run k).2
    rw [me, query] at others
    simp only [meetAll_cons, List.map_cons, List.countP_cons] at others ⊢
    rw [line, ← others, Nat.add_comm, ← t.countP_entries o _ _ _ ((o.meet v p).run k).1.hasWritten]
    exact List.countP_append

theorem meetAll_asks (p : Prober) (occasions : List Occasion) (k : Kernel) :
    let met := (meetAll v p occasions).run k
    met.1.1.session.endpoint.me = p.session.endpoint.me ∧ met.1.1.query = p.query ∧
      met.1.1.session.modes.quiet = p.session.modes.quiet := by
  induction occasions generalizing p k with
  | nil => exact ⟨rfl, rfl, rfl⟩
  | cons o rest ih =>
    obtain ⟨me, query⟩ := Occasion.meet_asks (o := o) (p := p) v k
    obtain ⟨me', query', loud'⟩ := ih ((o.meet v p).run k).1.prober ((o.meet v p).run k).2
    rw [meetAll_cons]
    exact ⟨me'.trans me, query'.trans query, loud'.trans (Occasion.meet_loud v k)⟩

theorem meetAll_line {p : Prober} (unsent : p.session.lastSend = none)
    (loud : p.session.modes.quiet = false) {earlier later : List Occasion} {o : Occasion}
    (fine : o.CanReport p.session.endpoint.me p.query) (k : Kernel) :
    let met := (meetAll v p (earlier ++ o :: later)).run k
    ∃ sofar r rest, met.1.2 = sofar ++ r :: rest ∧ sofar.length = earlier.length ∧
      r.time = o.circumstances.monotonic ∧
      r.report = (o.line? p.session.endpoint.me p.query (Reaction.lastWrite sofar)).getD "" := by
  let first := (meetAll v p earlier).run k
  obtain ⟨me, query, quiet⟩ := meetAll_asks v p earlier k
  have sofar : first.1.1.session.lastSend = Reaction.lastWrite first.1.2 := by
    have remembers := meetAll_remembers v p earlier k
    simp only [unsent, Option.or_none] at remembers
    exact remembers
  have line := (Occasion.meet_prints v (p := first.1.1) (o := o) first.2 (quiet.trans loud)
    (by rw [me, query]; exact fine)).1
  rw [me, query, sofar] at line
  let now := (o.meet v first.1.1).run first.2
  exact ⟨first.1.2, now.1, ((meetAll v now.1.prober later).run now.2).1.2,
    congrArg (·.1.2) (meetAll_append v p earlier (o :: later) k), length_meetAll v p earlier k, rfl,
    line⟩

theorem ends_unasked_iff {me : Octets} {q : Query} {o : Occasion}
    (answered : (o.answer? me q).isSome = true) (sofar : List Reaction) :
    ReportLine.ends ReportLine.unasked ((o.line? me q (Reaction.lastWrite sofar)).getD "") = true ↔
      ∀ r ∈ sofar, r.hasWritten = false := by
  obtain ⟨⟨f, pc⟩, answer⟩ := Option.isSome_iff_exists.mp answered
  rw [Occasion.line?, answer]
  simp only [Option.getD_some, Frame.ends_unasked_iff]
  rw [Option.map_eq_none_iff, Reaction.lastWrite, Option.map_eq_none_iff, List.getLast?_eq_none_iff,
    List.filter_eq_nil_iff]
  simp only [Bool.not_eq_true]

theorem finish_prints {p : Prober} (loud : p.session.modes.quiet = false) {k : Kernel}
    (wrote : ((p.session.summaryParts.forM Sys.writeReport).run.run k).1 = .ok ()) :
    Prints p.session.summary k (p.finish.run.run k).2 := by
  rw [Prober.finish_run, loud]
  exact Sys.prints_writeReports wrote

/-- A run that can write its report leaves a complete and orderly one: what each occasion brings,
one after another, and the summary. On each occasion that is the line on the frame that was
accepted, with the time since the last whole frame went out, or on a signal that was not expected,
and nothing else. The summary counts the whole frames that went out and the lines on accepted
frames. -/
theorem report_complete (modes : Modes) (count timeout : Int) (endpoint : Endpoint) (q : Query)
    (index : Int32) (loud : modes.quiet = false) {occasions : List Occasion}
    (fine : ∀ o ∈ occasions, o.CanReport endpoint.me q) {k : Kernel} {c : Circumstances}
    (ending : let met := (meetAll v (.fresh modes count timeout endpoint q index) occasions).run k
      ((met.1.1.session.summaryParts.forM Sys.writeReport).run.run (met.2.under c)).1 = .ok ()) :
    let met := (meetAll v (.fresh modes count timeout endpoint q index) occasions).run k
    let ended := met.1.1.finish.run.run (met.2.under c)
    let lines := met.1.2.map Reaction.report
    let broadcasts :=
      Entry.broadcasts (book endpoint.me q occasions met.1.2) modes.broadcastOnly
    k.reportSince ended.2 = String.join lines ++
        summaryText (shown (k.since met.2).probes) (shown broadcasts)
          (shown (lines.countP ReportLine.isAnswer)) (shown (lines.countP ReportLine.isRequest))
          (shown (lines.countP ReportLine.isBroadcast)) ∧
      ∀ earlier o later, occasions = earlier ++ o :: later →
        ∃ sofar r rest, met.1.2 = sofar ++ r :: rest ∧ sofar.length = earlier.length ∧
          r.time = o.circumstances.monotonic ∧
          r.report = (o.line? endpoint.me q (Reaction.lastWrite sofar)).getD "" ∧
          ((o.answer? endpoint.me q).isSome = true →
            (ReportLine.ends ReportLine.unasked r.report = true ↔
              ∀ r' ∈ sofar, r'.hasWritten = false)) := by
  intro met ended lines broadcasts
  let fresh := Prober.fresh modes count timeout endpoint q index
  let entries := book endpoint.me q occasions met.1.2
  have loud' : met.1.1.session.modes.quiet = false :=
    (meetAll_asks v fresh occasions k).2.2.trans loud
  have ledger : Session.Ledger modes endpoint entries met.1.1.session := by
    have opened : Session.Ledger modes endpoint [] fresh.session := .opened count timeout
    exact (meetAll_enters v fresh occasions k).symm ▸ opened.replay entries
  have summary : met.1.1.session.summary = summaryText (shown (k.since met.2).probes)
      (shown broadcasts) (shown (lines.countP ReportLine.isAnswer))
      (shown (lines.countP ReportLine.isRequest))
      (shown (lines.countP ReportLine.isBroadcast)) := by
    have probes : (k.since met.2).probes = Entry.sends entries :=
      meetAll_probes v fresh occasions k endpoint.me q
    have answers : Entry.answers entries = _ := countP_book v .answers (p := fresh) loud fine k
    have requests : Entry.requests entries = _ := countP_book v .requests (p := fresh) loud fine k
    have broadcastAnswers : Entry.broadcastAnswers entries = _ :=
      countP_book v .broadcasts (p := fresh) loud fine k
    rw [ledger.summary, probes, answers, requests, broadcastAnswers]
  refine ⟨?_, fun earlier o later split => ?_⟩
  · have lines := meetAll_prints v (p := fresh) loud fine k
    have ends := (finish_prints loud' ending).from_same (k := met.2) rfl
    rw [summary] at ends
    exact (lines.trans ends).reportSince_eq
  · have here := fine o (by rw [split]; simp)
    subst split
    obtain ⟨sofar, r, rest, met, length, time, line⟩ :=
      meetAll_line v (p := fresh) rfl loud here k
    refine ⟨sofar, r, rest, met, length, time, line, fun answered => ?_⟩
    rw [line]
    exact ends_unasked_iff answered sofar

theorem report_complete_mixed :
    let me : Octets := [2, 0, 0, 0, 0, 1]
    let peer : Octets := [2, 0, 0, 0, 0, 9]
    let q : Query := ⟨⟨10, 0, 0, 9⟩, ⟨10, 0, 0, 1⟩, false⟩
    let packet (operation : UInt8) : Octets :=
      [0, 1, 8, 0, 6, 4, 0, operation] ++ peer ++ [10, 0, 0, 9] ++ me ++ [10, 0, 0, 1]
    let calm : Circumstances := Kernel.circumstances {}
    let amid (now : Nat) (s : Step) : Occasion := ⟨{ calm with monotonic := ⟨now⟩ }, s⟩
    let occasions := [amid 0 (.handle (.receive (.frame (packet 2) ⟨.host, 1⟩))),
      amid 1000 (.handle .send), amid 2000 (.handle (.signal 1)),
      amid 3000 (.handle (.receive (.failed 5))),
      amid 251000 (.handle (.receive (.frame (packet 1) ⟨.broadcast, 1⟩)))]
    let endpoint : Endpoint := ⟨1, me, List.replicate 6 255⟩
    let k : Kernel := {}
    let met := (meetAll {} (.fresh {} 3 0 endpoint q 2) occasions).run k
    (∀ o ∈ occasions, o.CanReport me q) ∧
      ((met.1.1.session.summaryParts.forM Sys.writeReport).run.run (met.2.under calm)).1 = .ok () ∧
      k.reportSince (met.1.1.finish.run.run (met.2.under calm)).2 =
        "Unicast reply from 10.0.0.9 [02:00:00:00:00:09]  UNSOLICITED?\n" ++
        "rarping: unexpected signal: 1\n" ++
        "Broadcast request from 10.0.0.9 [02:00:00:00:00:09]  0.250ms\n" ++
        "Sent 1 probes (0 broadcast(s))\n" ++
        "Received 2 response(s) (1 request(s), 1 broadcast(s))\n" := by
  intro me peer q packet calm amid occasions endpoint k met
  have fine : ∀ o ∈ occasions, o.CanReport me q := by
    intro o member
    simp only [occasions, List.mem_cons, List.not_mem_nil, or_false] at member
    rcases member with rfl | rfl | rfl | rfl | rfl <;> exact fun _ => rfl
  have wrote : ((met.1.1.session.summaryParts.forM Sys.writeReport).run.run
      (met.2.under calm)).1.toOption = some () := by decide +kernel
  have lines : String.join (met.1.2.map Reaction.report) =
      "Unicast reply from 10.0.0.9 [02:00:00:00:00:09]  UNSOLICITED?\n" ++
      "rarping: unexpected signal: 1\n" ++
      "Broadcast request from 10.0.0.9 [02:00:00:00:00:09]  0.250ms\n" := by decide +kernel
  have probes : (k.since met.2).probes = 1 := by decide +kernel
  have unanswered : Entry.broadcasts (book endpoint.me q occasions met.1.2)
      (Modes.broadcastOnly {}) = 0 := by decide +kernel
  have kinds : (met.1.2.map Reaction.report).countP ReportLine.isAnswer = 2 ∧
      (met.1.2.map Reaction.report).countP ReportLine.isRequest = 1 ∧
      (met.1.2.map Reaction.report).countP ReportLine.isBroadcast = 1 := by decide +kernel
  have complete := report_complete {} {} 3 0 endpoint q 2 rfl fine (k := k) (c := calm)
  have run : met = (meetAll {} (.fresh {} 3 0 endpoint q 2) occasions).run k := rfl
  simp only [← run] at complete
  -- From here on the run is not to be evaluated any more.
  clear_value met
  have ending : ((met.1.1.session.summaryParts.forM Sys.writeReport).run.run
      (met.2.under calm)).1 = .ok () := by
    revert wrote
    cases ((met.1.1.session.summaryParts.forM Sys.writeReport).run.run (met.2.under calm)).1 with
    | ok => exact fun _ => rfl
    | error e => exact fun wrote => nomatch wrote
  obtain ⟨report, _⟩ := complete ending
  have summary : summaryText (shown 1) (shown 0) (shown 2) (shown 1) (shown 1) =
      "Sent 1 probes (0 broadcast(s))\n" ++
        "Received 2 response(s) (1 request(s), 1 broadcast(s))\n" := by decide +kernel
  rw [lines, probes, unanswered, kinds.1, kinds.2.1, kinds.2.2, summary] at report
  refine ⟨fine, ending, report.trans ?_⟩
  rw [← String.append_assoc]

end EventLoop

end ArpProbe
