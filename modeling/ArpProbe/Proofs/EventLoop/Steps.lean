import ArpProbe.EventLoop
import ArpProbe.Proofs.Kernel.Running

/-! The loop taken apart into single steps, one after another: a poll returns, a descriptor is
read, an event is handled, a failure is told, waiting is given up. What the nested loop does is to
take the steps of its wakes in order up to the first that is final. -/

namespace ArpProbe

namespace Reading

variable {α : Type}

def failure? : Reading α → Option Errno
  | failed e => some e
  | _ => none

def outcome (descriptor : String) (size : Nat) (zero : α) : Reading α → Except IoError α
  | value a => .ok a
  | short n => if n = size then .ok zero else .error (.shortRead descriptor)
  | failed e => .error (.system e)

end Reading

theorem Sys.read_eq {α : Type} (c : Call) (descriptor : String) (size : Nat) (zero : α)
    (r : Reading α) :
    (Sys.read c descriptor size zero r).run = do
      Sys.record (.call c r.failure?)
      return r.outcome descriptor size zero := by
  cases r <;> rfl

inductive Step where
  | wait (delay : Duration) (found : List Descriptor) (failure : Option Errno)
  | readSignal (failure : Option Errno)
  | readTimer (failure : Option Errno)
  | handle (input : Input)
  | tell (topic : Topic) (message : String)
  | stop

namespace Step

def take (v : Verbosity) (p : Prober) : Step → Sys (Prober × Verdict)
  | wait delay found failure => do
    modify (·.advance delay)
    Sys.record (.call (.poll found) failure)
    return (p, .goOn)
  | readSignal failure => do
    Sys.record (.call .readSignal failure)
    return (p, .goOn)
  | readTimer failure => do
    Sys.record (.call .readTimer failure)
    return (p, .goOn)
  | handle .send => p.send v
  | handle (.timer expirations) => p.timer v expirations
  | handle (.signal number) => p.signal v number
  | handle (.receive arrival) => p.receive v arrival
  | tell topic message => do
    Sys.tell v (.failure topic message)
    return (p, .goOn)
  | stop => return (p, .final)

theorem take_handle (v : Verbosity) (p : Prober) (input : Input) :
    (handle input).take v p = p.handle v input := by
  cases input <;> rfl

def ofReading (reading : Step) (topic : Topic) (descriptor : String) :
    Except IoError Input → List Step
  | .ok input => [reading, handle input]
  | .error cause =>
    [reading, tell topic ("could not read " ++ descriptor ++ ": " ++ cause.text)]

def ofSignal (r : Reading UInt32) : List Step :=
  ofReading (readSignal r.failure?) .signal "signalfd"
    ((r.outcome "signalfd" 128 0).map Input.signal)

def ofTimer (r : Reading UInt64) : List Step :=
  ofReading (readTimer r.failure?) .timer "timerfd" ((r.outcome "timerfd" 8 0).map Input.timer)

def ofArrival (arrival : Arrival) : List Step := [handle (.receive arrival)]

end Step

/-- What a wake brings: of the descriptors that are ready, first the signal, then the timer, then
the socket. A poll that was interrupted brings nothing, any other failure the end. -/
def Wake.steps (w : Wake) : List Step :=
  match w.readiness with
  | .failed e =>
    .wait w.delay [] (some e) ::
      if e = Errno.interrupted || e = Errno.again then []
      else [.tell .main ("poll failed: " ++ Errno.text e), .stop]
  | .ready signal timer socket =>
    let found := signal.elim [] (fun _ => [Descriptor.signal]) ++
      timer.elim [] (fun _ => [Descriptor.timer]) ++ socket.elim [] fun _ => [Descriptor.socket]
    .wait w.delay found none ::
      (signal.elim [] Step.ofSignal ++ timer.elim [] Step.ofTimer ++ socket.elim [] Step.ofArrival)

namespace Ready

def steps : Ready → List Step
  | signal r => Step.ofSignal r
  | timer r => Step.ofTimer r
  | socket arrival => Step.ofArrival arrival

theorem descriptors_ofParts (signal : Option (Reading UInt32)) (timer : Option (Reading UInt64))
    (socket : Option Arrival) :
    (ofParts signal timer socket).map descriptor =
      signal.elim [] (fun _ => [Descriptor.signal]) ++
        timer.elim [] (fun _ => [Descriptor.timer]) ++
          socket.elim [] fun _ => [Descriptor.socket] := by
  cases signal <;> cases timer <;> cases socket <;> rfl

theorem steps_ofParts (signal : Option (Reading UInt32)) (timer : Option (Reading UInt64))
    (socket : Option Arrival) :
    (ofParts signal timer socket).flatMap steps =
      signal.elim [] Step.ofSignal ++ timer.elim [] Step.ofTimer ++
        socket.elim [] Step.ofArrival := by
  cases signal <;> cases timer <;> cases socket <;>
    simp [ofParts, steps]

end Ready

namespace EventLoop

variable (v : Verbosity)

def untilFinal (p : Prober) : List Step → Sys (Prober × Verdict)
  | [] => return (p, .goOn)
  | s :: rest => do
    match ← s.take v p with
    | (p, .goOn) => untilFinal p rest
    | (p, .final) => return (p, .final)

/-- Takes all steps, whatever their verdicts, and lists these. -/
def walk (p : Prober) : List Step → Sys (Prober × List Verdict)
  | [] => return (p, [])
  | s :: rest => do
    let (p, verdict) ← s.take v p
    let (p, verdicts) ← walk p rest
    return (p, verdict :: verdicts)

theorem untilFinal_append (p : Prober) (a b : List Step) :
    untilFinal v p (a ++ b) = do
      match ← untilFinal v p a with
      | (p, .goOn) => untilFinal v p b
      | (p, .final) => return (p, .final) := by
  induction a generalizing p with
  | nil => simp only [List.nil_append, untilFinal, pure_bind]
  | cons s rest ih =>
    simp only [List.cons_append, untilFinal, bind_assoc]
    congr 1
    funext ⟨p, verdict⟩
    cases verdict with
    | goOn => exact ih p
    | final => simp only [pure_bind]

theorem untilFinal_singleton (p : Prober) (s : Step) : untilFinal v p [s] = s.take v p := by
  refine Eq.trans ?_ (bind_pure (s.take v p))
  rw [untilFinal]
  congr 1
  funext ⟨p, verdict⟩
  cases verdict <;> rfl

theorem untilFinal_ofReading {p : Prober} {reading : Step} {e : Event}
    (h : reading.take v p = (do Sys.record e; return (p, .goOn))) (topic : Topic)
    (descriptor : String) (outcome : Except IoError Input) :
    untilFinal v p (Step.ofReading reading topic descriptor outcome) = (do
      Sys.record e
      match outcome with
      | .ok input => p.handle v input
      | .error cause => unreadable v p topic descriptor cause) := by
  cases outcome with
  | ok input =>
    rw [Step.ofReading, untilFinal, h]
    simp only [bind_assoc, pure_bind, untilFinal_singleton, Step.take_handle]
  | error cause =>
    rw [Step.ofReading, untilFinal, h]
    simp only [bind_assoc, pure_bind, untilFinal_singleton, Step.take, unreadable]

theorem serve_eq (p : Prober) (r : Ready) : serve v p r = untilFinal v p r.steps := by
  cases r with
  | signal r =>
    rw [serve, Ready.steps, Step.ofSignal, untilFinal_ofReading v rfl, Sys.readSignal, Sys.read_eq,
      bind_assoc]
    simp only [pure_bind]
    cases r.outcome "signalfd" 128 0 <;> rfl
  | timer r =>
    rw [serve, Ready.steps, Step.ofTimer, untilFinal_ofReading v rfl, Sys.readTimer, Sys.read_eq,
      bind_assoc]
    simp only [pure_bind]
    cases r.outcome "timerfd" 8 0 <;> rfl
  | socket arrival =>
    rw [serve, Ready.steps, Step.ofArrival, untilFinal_singleton, Step.take_handle]

theorem serveAll_eq (p : Prober) (rs : List Ready) :
    serveAll v p rs = untilFinal v p (rs.flatMap Ready.steps) := by
  induction rs generalizing p with
  | nil => rfl
  | cons r rest ih =>
    rw [List.flatMap_cons, untilFinal_append, serveAll, serve_eq]
    congr 1
    funext ⟨p, verdict⟩
    cases verdict with
    | goOn => exact ih p
    | final => rfl

theorem wake_eq (p : Prober) (w : Wake) : wake v p w = untilFinal v p w.steps := by
  obtain ⟨delay, readiness⟩ := w
  cases readiness with
  | failed e =>
    simp only [wake, Wake.steps, untilFinal, Step.take, bind_assoc, pure_bind]
    split <;> simp only [untilFinal, Step.take, bind_assoc, pure_bind]
  | ready signal timer socket =>
    simp only [wake, Wake.steps, untilFinal, Step.take, bind_assoc, pure_bind, serveAll_eq,
      Ready.descriptors_ofParts, Ready.steps_ofParts]

theorem loop_eq (p : Prober) (ws : List Wake) :
    loop v p ws = Prod.fst <$> untilFinal v p ((ws ++ [lastWake]).flatMap Wake.steps) := by
  induction ws generalizing p with
  | nil => rw [loop, wake_eq, List.nil_append, List.flatMap_singleton]; rfl
  | cons w rest ih =>
    rw [List.cons_append, List.flatMap_cons, untilFinal_append, loop, wake_eq, map_bind]
    congr 1
    funext ⟨p, verdict⟩
    cases verdict with
    | goOn => exact ih p
    | final => rfl

end EventLoop

end ArpProbe
