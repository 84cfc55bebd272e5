import ArpProbe.Frame.Report
import ArpProbe.Proofs.Text.Addresses

/-! The line on a frame as a row of parts, each of them legible before what comes behind it. The
target is told only as far as it is not the one who asked, and that it is not told can be seen. -/

namespace ArpProbe

open Text

namespace HardwareAddress

theorem not_bracket_of_upperPair {c : Char} {b : UInt8} (digit : c ∈ upperPair b) : c ≠ ']' := by
  have digits : ∀ d < 16, (Nat.digitChar d).toUpper ≠ ']' := by decide
  obtain ⟨lower, member, rfl⟩ := List.mem_map.mp digit
  obtain ⟨d, small, rfl⟩ := mem_octetDigits member
  exact digits d small

theorem not_bracket_of_chars {c : Char} {addr : Octets} (member : c ∈ chars addr) : c ≠ ']' := by
  induction addr with
  | nil => cases member
  | cons b bs ih =>
    cases bs with
    | nil => exact not_bracket_of_upperPair member
    | cons b' bs =>
      have split : c ∈ upperPair b ++ ':' :: chars (b' :: bs) := member
      rcases List.mem_append.mp split with pair | later
      · exact not_bracket_of_upperPair pair
      · rcases List.mem_cons.mp later with rfl | rest
        · decide
        · exact ih rest

def bracketed (addr : Octets) : List Char := '[' :: (chars addr ++ [']'])

theorem bracketed_legible : IsLegible bracketed fun _ => True := by
  have inner : IsLegible chars (Leaves (· ≠ ']')) :=
    .of_class chars_injective fun _ _ member => decide_eq_true (not_bracket_of_chars member)
  exact (inner.closed fun _ => leaves_cons.mpr rfl).prepend ['[']

end HardwareAddress

namespace Frame

section Foreign

variable {α : Type} [DecidableEq α]

/-- What is told of a value that could be our own. -/
def foreign (own value : α) : Option α := if value = own then none else some value

theorem foreign_injective (own : α) : Function.Injective (foreign own) := by
  intro x y same
  unfold foreign at same
  split at same <;> split at same
  · next left right => exact left.trans right.symm
  · cases same
  · cases same
  · exact Option.some_inj.mp same

end Foreign

def kindChars (host request : Bool) : List Char :=
  (if host then "Unicast ".toList else "Broadcast ".toList) ++
    if request then "request from ".toList else "reply from ".toList

def senderChars (ip : Ipv4) : List Char := ip.chars ++ [' ']

def namedChars (target : Option Ipv4 × Option Octets) : List Char :=
  optionally senderChars target.1 ++ optionally HardwareAddress.bracketed target.2

def targetChars (target : Option Ipv4 × Option Octets) : List Char :=
  optionally (fun named => "for ".toList ++ namedChars named) (foreign (none, none) target)

def timeChars (us : Nat) : List Char :=
  Nat.toDigits 10 (us / 1000) ++ '.' ::
    ((Nat.toDigits 10 (us % 1000)).leftpad 3 '0' ++ "ms".toList)

def delayChars : Option Nat → List Char
  | none => ' ' :: "UNSOLICITED?".toList
  | some us => ' ' :: timeChars us

def Spaced (r : List Char) : Prop := r.head? = some ' '

theorem Spaced.leaves {inside : Char → Bool} (outside : inside ' ' = false) {r : List Char}
    (spaced : Spaced r) : Leaves inside r := by
  intro c first
  rw [spaced, Option.mem_some_iff] at first
  rwa [← first]

theorem senderChars_legible : IsLegible senderChars fun _ => True :=
  Ipv4.chars_legible.closed fun _ => leaves_cons.mpr rfl

theorem namedChars_legible : IsLegible namedChars Spaced := by
  have address : IsLegible (optionally senderChars) (Leaves Char.isDigit) := by
    refine (senderChars_legible.mono fun _ _ => trivial).optionally (fun ip => ?_) fun _ => id
    obtain ⟨c, first, digit⟩ := ip.head_chars
    refine ⟨c, ?_, digit⟩
    rw [senderChars, List.head?_append, Option.mem_def.mp first]
    rfl
  have hardware : IsLegible (optionally HardwareAddress.bracketed) Spaced := by
    have one : IsLegible HardwareAddress.bracketed Spaced :=
      HardwareAddress.bracketed_legible.mono fun _ _ => trivial
    have begins (hw : Octets) :
        ∃ c ∈ (HardwareAddress.bracketed hw).head?, decide (c = '[') = true := ⟨'[', rfl, rfl⟩
    exact one.optionally begins fun _ => Spaced.leaves rfl
  refine address.append hardware fun hw r spaced => ?_
  cases hw with
  | none => exact spaced.leaves rfl
  | some hw => exact leaves_cons.mpr rfl

theorem targetChars_legible : IsLegible targetChars Spaced := by
  -- The mark of the target is missing just where both of its addresses are.
  have named := namedChars_legible.prepend "for ".toList
  have begins (target : Option Ipv4 × Option Octets) :
      ∃ c ∈ ("for ".toList ++ namedChars target).head?, decide (c = 'f') = true := ⟨'f', rfl, rfl⟩
  have told := named.optionally begins fun _ => Spaced.leaves rfl
  exact told.comp (foreign_injective (none, none))

theorem delayChars_spaced (us : Option Nat) : Spaced (delayChars us) := by
  cases us <;> rfl

theorem kindChars_legible :
    IsLegible (fun kind : Bool × Bool => kindChars kind.1 kind.2) fun _ => True := by
  have way := @IsLegible.either "Unicast ".toList "Broadcast ".toList nofun
  have operation := @IsLegible.either "request from ".toList "reply from ".toList nofun
  exact way.append operation fun _ _ _ => trivial

theorem timeChars_injective : Function.Injective timeChars := by
  intro us us' same
  have dot {r : List Char} : Leaves Char.isDigit ('.' :: r) := leaves_cons.mpr rfl
  have unit : Leaves Char.isDigit "ms".toList := leaves_cons.mpr rfl
  obtain ⟨ms, rest⟩ := Numeral.decimal_legible dot dot same
  obtain ⟨places, _⟩ := Numeral.padded_legible 3 unit unit (List.tail_eq_of_cons_eq rest)
  rw [← Nat.div_add_mod us 1000, ← Nat.div_add_mod us' 1000, ms, places]

theorem timeChars_ne_unasked {us : Nat} : timeChars us ≠ "UNSOLICITED?".toList := by
  intro same
  obtain ⟨c, first, digit⟩ := Numeral.head_toDigits (us / 1000)
  have head : (timeChars us).head? = some 'U' := same ▸ rfl
  rw [timeChars, List.head?_append, Option.mem_def.mp first] at head
  obtain rfl : c = 'U' := Option.some_inj.mp head
  cases digit

theorem delayChars_injective : Function.Injective delayChars := by
  intro us us' same
  cases us with
  | none =>
    cases us' with
    | none => rfl
    | some us' => exact absurd (List.tail_eq_of_cons_eq same).symm timeChars_ne_unasked
  | some us =>
    cases us' with
    | none => exact absurd (List.tail_eq_of_cons_eq same) timeChars_ne_unasked
    | some us' => exact congrArg some (timeChars_injective (List.tail_eq_of_cons_eq same))

variable (f : Frame) (c : PacketClass) (q : Query) (me : Octets) (elapsed : Option Duration)

theorem toList_targetText : (f.targetText q me).toList =
    targetChars (foreign q.source f.targetIp, foreign me f.targetHw) := by
  by_cases ip : f.targetIp = q.source <;> by_cases hw : f.targetHw = me <;>
    simp [targetText, targetChars, foreign, optionally, namedChars, senderChars, ip, hw,
      toString_self, Ipv4.toList_text, HardwareAddress.text, HardwareAddress.bracketed]

theorem toList_delayText :
    (delayText elapsed).toList = delayChars (elapsed.map Duration.microseconds) := by
  cases elapsed with
  | none => rfl
  | some d => simp [delayText, delayChars, timeChars, toString_self]

theorem toList_report : (f.report c q me elapsed).toList =
    kindChars (c = .host) f.isRequest ++ (senderChars f.senderIp ++
      (HardwareAddress.bracketed f.senderHw ++ ' ' ::
        (targetChars (foreign q.source f.targetIp, foreign me f.targetHw) ++
          delayChars (elapsed.map Duration.microseconds)))) := by
  rw [← toList_targetText, ← toList_delayText]
  by_cases host : c = .host <;> by_cases request : f.isRequest = true <;>
    simp [report, kindChars, senderChars, HardwareAddress.bracketed, HardwareAddress.text,
      toString_self, Ipv4.toList_text, host, request]

variable {f c q me elapsed}

/-- Two frames are told of in the same line just if all that the line is about is the same. -/
theorem report_eq_iff {f' : Frame} {c' : PacketClass} {elapsed' : Option Duration} :
    f.report c q me elapsed = f'.report c' q me elapsed' ↔
      (c = .host ↔ c' = .host) ∧ f.isRequest = f'.isRequest ∧
        f.senderIp = f'.senderIp ∧ f.senderHw = f'.senderHw ∧
        f.targetIp = f'.targetIp ∧ f.targetHw = f'.targetHw ∧
        elapsed.map Duration.microseconds = elapsed'.map Duration.microseconds := by
  rw [← String.toList_inj, toList_report, toList_report]
  constructor
  · intro same
    obtain ⟨kind, same⟩ := kindChars_legible (a := (_, _)) (b := (_, _)) trivial trivial same
    obtain ⟨senderIp, same⟩ := senderChars_legible trivial trivial same
    obtain ⟨senderHw, same⟩ := HardwareAddress.bracketed_legible trivial trivial same
    have same := List.tail_eq_of_cons_eq same
    obtain ⟨target, same⟩ := targetChars_legible (delayChars_spaced _) (delayChars_spaced _) same
    obtain ⟨way, request⟩ := Prod.mk.inj kind
    obtain ⟨targetIp, targetHw⟩ := Prod.mk.inj target
    exact ⟨decide_eq_decide.mp way, request, senderIp, senderHw, foreign_injective _ targetIp,
      foreign_injective _ targetHw, delayChars_injective same⟩
  · rintro ⟨way, request, senderIp, senderHw, targetIp, targetHw, delay⟩
    simp only [way, request, senderIp, senderHw, targetIp, targetHw, delay]

end Frame

end ArpProbe
