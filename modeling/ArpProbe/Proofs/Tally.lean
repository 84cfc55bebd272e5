/-! Counting the entries of a list, all of them or those before the first that is marked. -/

namespace ArpProbe.Tally

variable {α : Type} {mark counted : α → Bool} (l : List α) (a : α)

def before (mark counted : α → Bool) (l : List α) : Nat :=
  (l.takeWhile fun a => !mark a).countP counted

theorem countP_concat (counts : counted a = true) :
    (l ++ [a]).countP counted = l.countP counted + 1 := by
  rw [List.countP_append, List.countP_singleton, if_pos counts]

theorem countP_concat_of (not : counted a = false) :
    (l ++ [a]).countP counted = l.countP counted := by
  rw [List.countP_append, List.countP_singleton, not]
  rfl

theorem before_le : before mark counted l ≤ l.countP counted :=
  (List.takeWhile_sublist _).countP_le

theorem before_of_none (none : l.countP mark = 0) : before mark counted l = l.countP counted := by
  have all : ∀ a ∈ l, (!mark a) = true := by simpa [List.countP_eq_zero] using none
  have whole : (l ++ []).takeWhile (fun a => !mark a) = l ++ [].takeWhile fun a => !mark a :=
    List.takeWhile_append_of_pos all
  rw [List.append_nil, List.takeWhile_nil, List.append_nil] at whole
  rw [before, whole]

theorem before_concat (apart : ∀ a, mark a = true → counted a = false) :
    before mark counted (l ++ [a]) =
      before mark counted l + if 0 < l.countP mark then 0 else [a].countP counted := by
  induction l with
  | nil =>
    cases marked : mark a with
    | true => simp [before, marked, apart a marked]
    | false => simp [before, marked]
  | cons b l ih =>
    unfold before at ih ⊢
    cases marked : mark b with
    | true => simp [marked]
    | false =>
      have same : (b :: l).countP mark = l.countP mark := List.countP_cons_of_neg (by simp [marked])
      have goesOn (g : List α) : (b :: g).takeWhile (fun a => !mark a) =
          b :: g.takeWhile fun a => !mark a := by simp [marked]
      rw [same, List.cons_append, goesOn, goesOn, List.countP_cons, List.countP_cons, ih,
        Nat.add_right_comm]

end ArpProbe.Tally
