import Mathlib.Data.List.Basic

/-!
# Lists with a gap

Open files and the contents of files are known by number.  Where one of them is missing from a list, those behind it
have other numbers: `closeUp` gives them, and `Lacks` compares a list with one that has such a gap.
-/

namespace PipeShell

/-- The numbers behind a gap move up by one. -/
def closeUp (gap : Option Nat) (i : Nat) : Nat := if gap.any (· < i) then i - 1 else i

@[simp] theorem closeUp_none (i : Nat) : closeUp none i = i := rfl

theorem closeUp_some (gap i : Nat) : closeUp (some gap) i = if gap < i then i - 1 else i := by
  simp [closeUp]

theorem closeUp_of_le {gap i : Nat} (le : i ≤ gap) : closeUp (some gap) i = i := by
  rw [closeUp_some, if_neg (by omega)]

/-- Numbers apart from the gap stay different. -/
theorem closeUp_inj {gap : Option Nat} {i j : Nat} (hi : gap ≠ some i) (hj : gap ≠ some j) :
    closeUp gap i = closeUp gap j ↔ i = j := by
  cases gap with
  | none => rfl
  | some gap =>
    simp only [ne_eq, Option.some.injEq] at hi hj
    simp only [closeUp_some]
    split <;> split <;> omega

theorem set_eq_modify {α : Type} {l : List α} {i : Nat} {a : α} (present : l[i]? = some a) (f : α → α) :
    l.set i (f a) = l.modify i f := by
  apply List.ext_getElem?
  intro j
  rw [List.getElem?_set, List.getElem?_modify]
  by_cases own : i = j
  · subst own
    obtain ⟨inside, entry⟩ := List.getElem?_eq_some_iff.1 present
    simp [inside, entry]
  · simp [own]

/-- The list `l'` has what `l` has, apart from what stands at the gap; `R` is how the entries at each place in `l`
belong together. -/
structure Lacks {α β : Type} (gap : Option Nat) (R : Nat → α → β → Prop) (l : List α) (l' : List β) : Prop where
  length : l.length = l'.length + gap.toList.length
  inside : ∀ i, gap = some i → i < l.length
  entries : ∀ i, gap ≠ some i → Option.Rel (R i) l[i]? l'[closeUp gap i]?

namespace Lacks

variable {α β : Type} {gap : Option Nat} {R : Nat → α → β → Prop} {l : List α} {l' : List β} {i : Nat} {a : α} {b : β}

theorem closeUp_length (lacks : Lacks gap R l l') : closeUp gap l.length = l'.length := by
  have length := lacks.length
  cases gap with
  | none => simpa using length
  | some gap =>
    have inside := lacks.inside gap rfl
    simp only [Option.toList_some, List.length_singleton] at length
    rw [closeUp_some, if_pos inside]
    omega

theorem ne_length (lacks : Lacks gap R l l') : gap ≠ some l.length := fun same =>
  Nat.lt_irrefl _ (lacks.inside _ same)

theorem append (lacks : Lacks gap R l l') (last : R l.length a b) : Lacks gap R (l ++ [a]) (l' ++ [b]) where
  length := by
    have length := lacks.length
    simp only [List.length_append, List.length_singleton]
    omega
  inside i same := by
    have inside := lacks.inside i same
    rw [List.length_append]
    omega
  entries i other := by
    rcases Nat.lt_trichotomy i l.length with before | rfl | behind
    · have entry := lacks.entries i other
      rw [List.getElem?_append_left before]
      rw [List.getElem?_eq_getElem before] at entry ⊢
      cases there : l'[closeUp gap i]? with
      | none => rw [there] at entry; cases entry
      | some b =>
        rw [there] at entry
        rwa [List.getElem?_append_left (List.getElem?_eq_some_iff.1 there).1, there]
    · rw [lacks.closeUp_length, List.getElem?_concat_length, List.getElem?_concat_length]
      exact .some last
    · have length := lacks.length
      have far : l'.length + 1 ≤ closeUp gap i := by
        cases gap with
        | none =>
          simp only [Option.toList_none, List.length_nil] at length
          rw [closeUp_none]
          omega
        | some gap =>
          have inside := lacks.inside gap rfl
          simp only [Option.toList_some, List.length_singleton] at length
          rw [closeUp_some, if_pos (by omega)]
          omega
      rw [List.getElem?_eq_none (by rw [List.length_append, List.length_singleton]; omega),
        List.getElem?_eq_none (by rwa [List.length_append, List.length_singleton])]
      exact .none

/-- An entry changes in both lists. -/
theorem modify {f : α → α} {g : β → β} (lacks : Lacks gap R l l') (other : gap ≠ some i)
    (kept : ∀ a b, l[i]? = some a → l'[closeUp gap i]? = some b → R i a b → R i (f a) (g b)) :
    Lacks gap R (l.modify i f) (l'.modify (closeUp gap i) g) where
  length := by simpa using lacks.length
  inside j same := by simpa using lacks.inside j same
  entries j other' := by
    have entry := lacks.entries j other'
    simp only [List.getElem?_modify, closeUp_inj other other']
    by_cases own : i = j
    · subst own
      generalize l[i]? = x at entry kept ⊢
      generalize l'[closeUp gap i]? = y at entry kept ⊢
      cases entry with
      | none => exact .none
      | some entry =>
        simp only [if_true, Option.map_eq_map, Option.map_some]
        exact .some (kept _ _ rfl rfl entry)
    · simpa [own] using entry

/-- An entry changes in the longer list only, in a way that does not count. -/
theorem modify_left {f : α → α} (lacks : Lacks gap R l l') (kept : gap ≠ some i → ∀ a b, R i a b → R i (f a) b) :
    Lacks gap R (l.modify i f) l' := by
  by_cases own : gap = some i
  · refine ⟨by simpa using lacks.length, fun j same => by simpa using lacks.inside j same, fun j other => ?_⟩
    have behind : i ≠ j := fun same => other (same ▸ own)
    simpa [List.getElem?_modify, behind] using lacks.entries j other
  · have modified := lacks.modify (f := f) (g := id) own fun a b _ _ => kept own a b
    rwa [List.modify_id] at modified

/-- An entry changes in the shorter list only, in a way that does not count. -/
theorem modify_right {g : β → β} (lacks : Lacks gap R l l') (other : gap ≠ some i)
    (kept : ∀ a b, l'[closeUp gap i]? = some b → R i a b → R i a (g b)) :
    Lacks gap R l (l'.modify (closeUp gap i) g) := by
  have modified := lacks.modify (f := id) (g := g) other fun a b _ => kept a b
  rwa [List.modify_id] at modified

theorem refl {R : Nat → α → α → Prop} (same : ∀ i a, l[i]? = some a → R i a a) : Lacks none R l l where
  length := rfl
  inside _ := nofun
  entries i _ := by
    rw [closeUp_none]
    cases entry : l[i]? with
    | none => exact .none
    | some a => exact .some (same i a entry)

/-- The last entry is missing. -/
theorem concat {R : Nat → α → α → Prop} (same : ∀ i a, l[i]? = some a → R i a a) (last : α) :
    Lacks (some l.length) R (l ++ [last]) l where
  length := by simp
  inside i own := by
    cases own
    simp
  entries i other := by
    simp only [ne_eq, Option.some.injEq] at other
    rcases Nat.lt_or_gt_of_ne other with behind | before
    · rw [closeUp_some, if_pos behind, List.getElem?_eq_none (by rw [List.length_append, List.length_singleton]; omega),
        List.getElem?_eq_none (by omega)]
      exact .none
    · rw [closeUp_of_le (by omega), List.getElem?_append_left before, List.getElem?_eq_getElem before]
      exact .some (same i _ (List.getElem?_eq_getElem before))

end Lacks

end PipeShell
