import ArpProbe.Proofs.Prober.Handling

/-! What a program writes, and in particular what it adds to the report: the lines of the notes that
it has to tell, and nothing else. -/

namespace ArpProbe

namespace Kernel

def Writes (P : Channel × String → Prop) (k k' : Kernel) : Prop :=
  ∃ o, k'.output = k.output ++ o ∧ ∀ x ∈ o, P x

def reportSince (k k' : Kernel) : String :=
  String.join (((k'.output.drop k.output.length).filter (·.1 = .report)).map Prod.snd)

namespace Writes

variable {P Q : Channel × String → Prop} {k k' : Kernel}

theorem chains (P : Channel × String → Prop) : Chains (Writes P) where
  refl k := ⟨[], (List.append_nil _).symm, by simp⟩
  trans := by
    rintro a b c ⟨o, eo, all⟩ ⟨o', eo', all'⟩
    refine ⟨o ++ o', by rw [eo', eo, List.append_assoc], fun x hx => ?_⟩
    exact (List.mem_append.mp hx).elim (all x) (all' x)

theorem mono (h : Writes P k k') (weaker : ∀ x, P x → Q x) : Writes Q k k' := by
  obtain ⟨o, written, all⟩ := h
  exact ⟨o, written, fun x hx => weaker x (all x hx)⟩

theorem still (same : k'.output = k.output) : Writes P k k' :=
  ⟨[], by rw [same, List.append_nil], by simp⟩

theorem reportSince_eq_empty (h : Writes (·.1 ≠ .report) k k') : k.reportSince k' = "" := by
  obtain ⟨o, written, silent⟩ := h
  have nothing : o.filter (·.1 = .report) = [] := by
    rw [List.filter_eq_nil_iff]
    intro x hx
    simpa using silent x hx
  rw [reportSince, written, List.drop_left, nothing]
  rfl

end Writes

theorem output_takeStreams (k : Kernel) : k.takeStreams.2.output = k.output := by
  unfold takeStreams
  split <;> rfl

theorem writes_told (k : Kernel) (v : Verbosity) (notes : List Note) :
    Writes (fun x => x.1 = .report → ∃ n ∈ notes, n.reportText? = some x.2) k (k.told v notes) := by
  refine (Writes.chains _).tellAll (fun k => .still k.output_takeStreams) ?_ v k
  intro k c text allowed
  exact ⟨[(c, text)], rfl, by simpa using allowed⟩

theorem writes_told_silent (k : Kernel) (v : Verbosity) {notes : List Note}
    (silent : ∀ n ∈ notes, n.reportText? = none) : Writes (·.1 ≠ .report) k (k.told v notes) := by
  refine (k.writes_told v notes).mono fun x allowed report => ?_
  obtain ⟨n, member, text⟩ := allowed report
  rw [silent n member] at text
  cases text

/-- Between the two kernels just this text was added to the report. -/
def Prints (text : String) (k k' : Kernel) : Prop :=
  ∃ o, k'.output = k.output ++ o ∧ String.join ((o.filter (·.1 = .report)).map Prod.snd) = text

namespace Prints

variable {text text' : String} {k k' k'' : Kernel}

theorem reportSince_eq (h : Prints text k k') : k.reportSince k' = text := by
  obtain ⟨o, written, same⟩ := h
  rw [reportSince, written, List.drop_left, same]

theorem trans (first : Prints text k k') (second : Prints text' k' k'') :
    Prints (text ++ text') k k'' := by
  obtain ⟨o, written, rfl⟩ := first
  obtain ⟨o', written', rfl⟩ := second
  refine ⟨o ++ o', by rw [written', written, List.append_assoc], ?_⟩
  rw [List.filter_append, List.map_append, String.join_append]

theorem of_silent (h : Writes (·.1 ≠ .report) k k') : Prints "" k k' := by
  have empty := h.reportSince_eq_empty
  obtain ⟨o, written, _⟩ := h
  rw [reportSince, written, List.drop_left] at empty
  exact ⟨o, written, empty⟩

theorem still (same : k'.output = k.output) : Prints "" k k' := of_silent (.still same)

theorem then_silent (h : Prints text k k') (silent : Writes (·.1 ≠ .report) k' k'') :
    Prints text k k'' := by
  have all := h.trans (of_silent silent)
  rwa [String.append_empty] at all

theorem from_same (h : Prints text k' k'') (same : k'.output = k.output) : Prints text k k'' := by
  obtain ⟨o, written, joined⟩ := h
  exact ⟨o, by rw [written, same], joined⟩

end Prints

end Kernel

namespace Sys

open Kernel (Prints Writes)

theorem run_onStream (pick : StreamFaults → Option Errno) (c : Channel) (text : String)
    (k : Kernel) :
    (onStream pick (print c text)).run.run k =
      match pick k.streams with
      | some e => (.error (.system e), k.takeStreams.2)
      | none => (.ok (), k.takeStreams.2.write c text) := by
  have taken : k.takeStreams.1 = k.streams := by
    unfold Kernel.takeStreams
    split <;> rfl
  change onStream pick (print c text) k = _
  unfold onStream
  simp only [ExceptT.mk, taken]
  cases pick k.streams <;> rfl

theorem run_writeReport (text : String) (k : Kernel) :
    (writeReport text).run.run k =
      match k.streams.report with
      | some e => (.error (.system e), k.takeStreams.2)
      | none => (.ok (), k.takeStreams.2.write .report text) := run_onStream _ _ _ k

theorem output_failure (v : Verbosity) (topic : Topic) (message : String) {k : Kernel}
    (fine : k.streams.diagnostic = none) : ((tell v (.failure topic message)).run k).2.output =
      k.output ++ [(.diagnostic, programName ++ ": " ++ message ++ "\n")] := by
  unfold tell writeDiagnostic
  rw [run_bind, run_onStream, fine]
  simp only [Kernel.write, ← k.output_takeStreams]
  rfl

theorem prints_write (text : String) (k : Kernel) :
    Prints text k (k.takeStreams.2.write .report text) :=
  ⟨[(.report, text)], by rw [Kernel.write, k.output_takeStreams], by simp⟩

theorem prints_forM {texts : List String} {k : Kernel}
    (wrote : ((texts.forM writeReport).run.run k).1 = .ok ()) :
    Prints (String.join texts) k ((texts.forM writeReport).run.run k).2 := by
  induction texts generalizing k with
  | nil => exact .still rfl
  | cons text rest ih =>
    rw [List.forM, run_except_bind, run_writeReport] at wrote ⊢
    cases met : k.streams.report with
    | some e =>
      rw [met] at wrote
      cases wrote
    | none =>
      rw [met] at wrote
      rw [String.join_cons]
      exact (prints_write text k).trans (ih wrote)

theorem prints_writeReports {texts : List String} {k : Kernel}
    (wrote : ((texts.forM writeReport).run.run k).1 = .ok ()) :
    Prints (String.join texts) k ((writeReports texts).run.run k).2 := by
  have flushed : Within (Writes (·.1 ≠ .report)) flushReport.run :=
    (Writes.chains _).onStream (fun k => .still k.output_takeStreams) _ ((Writes.chains _).pure ())
  have there := prints_forM wrote
  unfold writeReports
  rw [run_except_bind]
  rcases h : (texts.forM writeReport).run.run k with ⟨_ | ⟨⟩, k'⟩ <;> rw [h] at wrote there
  · cases wrote
  · exact there.then_silent (flushed k')

theorem prints_tell (v : Verbosity) (line : String) (flush : Bool) (topic : Topic) {k : Kernel}
    (fine : k.streams.report = none) :
    Prints (line ++ "\n") k ((tell v (.report line flush topic)).run k).2 := by
  have written : Prints (line ++ "\n") k ((if flush then writeReports [line ++ "\n"]
      else writeReport (line ++ "\n")).run.run k).2 := by
    cases flush with
    | false =>
      simp only [Bool.false_eq_true, if_false, run_writeReport, fine]
      exact prints_write _ k
    | true =>
      have each : (([line ++ "\n"].forM writeReport).run.run k).1 = .ok () := by
        rw [List.forM, run_except_bind, run_writeReport, fine]
        rfl
      have there := prints_writeReports each
      rwa [String.join_cons, String.join_nil, String.append_empty] at there
  unfold tell
  rw [run_bind]
  refine written.then_silent ?_
  rcases (if flush then writeReports [line ++ "\n"] else writeReport (line ++ "\n")).run.run k
    with ⟨cause | ⟨⟩, k'⟩
  · exact (Writes.chains _).debug (fun k text => ⟨[(.log, text)], rfl, by simp⟩) v _ _ _ k'
  · exact .still rfl

end Sys

end ArpProbe
