import Mathlib.Algebra.BigOperators.Group.List.Basic
import Steward.Proofs.Deadlock.Schedule

/-! How a wait of bounded time divides it into slices. The slices add up to the whole time. Each is
twice the one before it, but the last, which takes the rest once half of the time is spent. -/

set_option autoImplicit false

namespace Steward.Deadlock.Backoff

variable {slice waited total longest first : Nat} {backoff : Backoff} {spans : List Nat}

/-- A wait that nothing but time ends goes on in these slices. -/
inductive Divides : Backoff → List Nat → Prop where
  | last {backoff : Backoff} (ended : backoff.spend.next? = none) :
      Divides backoff [backoff.current]
  | onward {backoff after : Backoff} {spans : List Nat} (next : backoff.spend.next? = some after)
      (rest : Divides after spans) : Divides backoff (backoff.current :: spans)

/-- The slice after one that passed counts it. -/
theorem waited_of_next? {after : Backoff} (next : backoff.spend.next? = some after) :
    after.waited = backoff.waited + backoff.current ∧ after.total = backoff.total := by
  unfold next? at next
  split at next
  · split at next
    · cases next
    · split at next <;> cases next <;> exact ⟨rfl, rfl⟩
  · cases next
    exact ⟨rfl, rfl⟩

/-- There is a next slice while there is time left. -/
theorem le_of_next?_none (bounded : backoff.total = some total)
    (ended : backoff.spend.next? = none) : total ≤ backoff.waited + backoff.current := by
  refine Decidable.byContradiction fun left => ?_
  by_cases half : total / 2 ≤ backoff.waited + backoff.current <;>
    simp [spend, next?, bounded, left, half] at ended

/-- A slice is the last one where it takes all the time that is left. -/
theorem eq_of_next?_none (within : waited ≤ total)
    (ended : (spend ⟨slice, waited, some total, longest⟩).next? = none) :
    current ⟨slice, waited, some total, longest⟩ = total - waited := by
  have spent := le_of_next?_none rfl ended
  simp only [current] at spent ⊢
  omega

/-- A slice that another one follows is not cut short. -/
theorem current_of_next? {after : Backoff}
    (next : (spend ⟨slice, waited, some total, longest⟩).next? = some after) :
    current ⟨slice, waited, some total, longest⟩ = slice := by
  have left := (eq_of_next? next).1
  simp only [current]
  omega

namespace Divides

theorem head?_eq (divides : Divides backoff spans) : spans.head? = some backoff.current := by
  cases divides <;> rfl

theorem sum (divides : Divides ⟨slice, waited, some total, longest⟩ spans)
    (within : waited ≤ total) : waited + spans.sum = total := by
  generalize start : (⟨slice, waited, some total, longest⟩ : Backoff) = backoff at divides
  induction divides generalizing slice waited with
  | last ended =>
    subst start
    rw [List.sum_singleton, eq_of_next?_none within ended]
    omega
  | onward next rest ih =>
    subst start
    obtain ⟨left, rfl⟩ := eq_of_next? next
    rw [List.sum_cons, current_of_next? next, ← Nat.add_assoc]
    exact ih (Nat.le_of_lt left) rfl

/-- No slice is longer than what is left of the time. -/
theorem le_left (divides : Divides ⟨slice, waited, some total, longest⟩ spans)
    (within : waited ≤ total) (index : Nat) (inside : index < spans.length) :
    spans[index] ≤ total - (waited + (spans.take index).sum) := by
  have whole := divides.sum within
  have parts : (spans.take index).sum + (spans[index] + (spans.drop (index + 1)).sum) =
      spans.sum := by
    rw [← List.sum_cons, ← List.drop_eq_getElem_cons, ← List.sum_append, List.take_append_drop]
  omega

/-- A wait that is to take the rest has no slice after that. -/
theorem eq_rest (divides : Divides ⟨total - waited, waited, some total, longest⟩ spans)
    (left : waited < total) : spans = [total - waited] := by
  generalize start : (⟨total - waited, waited, some total, longest⟩ : Backoff) = backoff at divides
  cases divides with
  | last ended =>
    subst start
    rw [eq_of_next?_none (Nat.le_of_lt left) ended]
  | onward next =>
    subst start
    have early := (eq_of_next? next).1
    omega

theorem doubles (divides : Divides ⟨slice, waited, some total, longest⟩ spans) (index : Nat)
    (early : index + 2 < spans.length) : spans[index + 1] = 2 * spans[index] := by
  generalize start : (⟨slice, waited, some total, longest⟩ : Backoff) = backoff at divides
  induction divides generalizing slice waited index with
  | last => simp at early
  | onward next rest ih =>
    subst start
    obtain ⟨left, rfl⟩ := eq_of_next? next
    cases index with
    | succ index => exact ih index (Nat.lt_of_succ_lt_succ early) rfl
    | zero =>
      simp only [List.getElem_cons_succ, List.getElem_cons_zero, current_of_next? next]
      by_cases half : total / 2 ≤ waited + slice
      · -- The slice after this one would be the last.
        rw [if_pos half] at rest
        simp [rest.eq_rest left] at early
      · rw [if_neg half] at rest
        generalize doubled : (⟨2 * slice, waited + slice, some total, longest⟩ : Backoff) = after
          at rest
        cases rest with
        | last => simp at early
        | onward later =>
          subst doubled
          exact current_of_next? later

/-- Once half of the time is spent, one slice takes the rest, if there is any. -/
theorem closes (divides : Divides ⟨slice, waited, some total, longest⟩ spans)
    (within : waited ≤ total) {count : Nat} (begun : 0 < count) (most : count ≤ spans.length)
    (half : total / 2 ≤ waited + (spans.take count).sum) :
    spans.drop count =
      if waited + (spans.take count).sum = total then []
      else [total - (waited + (spans.take count).sum)] := by
  generalize start : (⟨slice, waited, some total, longest⟩ : Backoff) = backoff at divides
  induction divides generalizing slice waited count with
  | last ended =>
    subst start
    obtain rfl : count = 1 := Nat.le_antisymm most begun
    have all := eq_of_next?_none within ended
    rw [if_pos (by simp [all]; omega)]
    rfl
  | @onward _ after spans next rest ih =>
    subst start
    obtain ⟨left, rfl⟩ := eq_of_next? next
    have uncut := current_of_next? next
    cases count with
    | zero => cases begun
    | succ count =>
      rw [List.take_succ_cons, List.sum_cons, uncut, ← Nat.add_assoc] at half ⊢
      rw [List.drop_succ_cons]
      cases count with
      | zero =>
        rw [List.take_zero, List.sum_nil, Nat.add_zero] at half ⊢
        rw [if_pos half] at rest
        rw [if_neg (Nat.ne_of_lt left), List.drop_zero]
        exact rest.eq_rest left
      | succ count =>
        exact ih (Nat.le_of_lt left) (Nat.succ_pos _) (Nat.le_of_succ_le_succ most) half rfl

end Divides

/-- A time is spent in these slices, to the last bit of it. -/
structure Spends (first total : Nat) (spans : List Nat) : Prop where
  opening : spans.head? = some (min first total)
  whole : spans.sum = total
  within : ∀ index (inside : index < spans.length),
    spans[index] ≤ total - (spans.take index).sum
  doubling : ∀ index (early : index + 2 < spans.length), spans[index + 1] = 2 * spans[index]
  closing : ∀ count, 0 < count → count ≤ spans.length → total / 2 ≤ (spans.take count).sum →
    spans.drop count = if (spans.take count).sum = total then []
      else [total - (spans.take count).sum]

theorem Divides.spends
    (divides : Divides { slice := first, total := some total, longest } spans) :
    Spends first total spans where
  opening := divides.head?_eq
  whole := by simpa using divides.sum (Nat.zero_le _)
  within index inside := by simpa using divides.le_left (Nat.zero_le _) index inside
  doubling := divides.doubles
  closing count begun most half := by
    simpa using divides.closes (Nat.zero_le _) begun most (by simpa using half)

end Steward.Deadlock.Backoff
