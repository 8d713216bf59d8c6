import Mathlib.Algebra.Ring.Nat
import Steward.Deadlock.Backoff

/-! The slices of a watched wait of bounded time. They double until half of the time is spent, and
one more takes the rest, so they are about as many as the time has binary digits. Only where the
first slice is nothing they are all nothing, and the time is never spent. -/

set_option autoImplicit false

namespace Steward.Deadlock.Backoff

variable {first total longest count : Nat} {backoff after : Backoff}

/-- The wait after so many slices that passed, if there is time left. -/
def afterSlices (backoff : Backoff) : Nat → Option Backoff
  | 0 => some backoff
  | count + 1 => (backoff.afterSlices count).bind fun earlier => earlier.spend.next?

/-- Where a wait of bounded time stands before a slice: it doubles still, and half of the time is
not spent; or it takes the rest. -/
inductive Stands (first total longest count : Nat) : Backoff → Prop where
  | doubling (early : count = 0 ∨ first * (2 ^ count - 1) < total / 2) :
      Stands first total longest count
        ⟨first * 2 ^ count, first * (2 ^ count - 1), some total, longest⟩
  | closing {waited : Nat} (few : count ≤ Nat.log2 total + 1) (left : waited < total) :
      Stands first total longest count ⟨total - waited, waited, some total, longest⟩

/-- A slice is followed by another where it was not cut short: by the rest once half of the time is
spent, and by one twice as long before. -/
theorem eq_of_next? {slice waited : Nat}
    (onward : (spend ⟨slice, waited, some total, longest⟩).next? = some after) :
    waited + slice < total ∧
      after = ⟨if total / 2 ≤ waited + slice then total - (waited + slice) else 2 * slice,
        waited + slice, some total, longest⟩ := by
  have follows : (spend ⟨slice, waited, some total, longest⟩).next? =
      if total ≤ waited + min slice (total - waited) then none
      else if total / 2 ≤ waited + min slice (total - waited) then
        some ⟨total - (waited + min slice (total - waited)),
          waited + min slice (total - waited), some total, longest⟩
      else some ⟨2 * slice, waited + min slice (total - waited), some total, longest⟩ := rfl
  rw [follows] at onward
  split at onward
  · cases onward
  · next unspent =>
    rw [Nat.min_eq_left (by omega)] at onward unspent
    refine ⟨Nat.lt_of_not_le unspent, ?_⟩
    split at onward <;> next half => cases onward; simp [half]

/-- While slices double, they are fewer than the time has binary digits. -/
theorem le_log2_of_early (grows : 0 < first ∨ total ≤ 1)
    (early : count = 0 ∨ first * (2 ^ count - 1) < total / 2) : count ≤ Nat.log2 total := by
  rcases early with rfl | early
  · exact Nat.zero_le _
  · have spent : 2 ^ count - 1 < total / 2 := by
      rcases grows with positive | short
      · exact Nat.lt_of_le_of_lt (Nat.le_mul_of_pos_left _ positive) early
      · have nothing : total / 2 = 0 := by omega
        rw [nothing] at early
        cases early
    exact (Nat.le_log2 (by omega)).2 (by omega)

namespace Stands

theorem few (grows : 0 < first ∨ total ≤ 1) (stands : Stands first total longest count backoff) :
    count ≤ Nat.log2 total + 1 := by
  cases stands with
  | doubling early => exact Nat.le_succ_of_le (le_log2_of_early grows early)
  | closing few => exact few

theorem next (grows : 0 < first ∨ total ≤ 1) (stands : Stands first total longest count backoff)
    (onward : backoff.spend.next? = some after) :
    Stands first total longest (count + 1) after := by
  cases stands with
  | doubling early =>
    have power : first * 2 ^ (count + 1) = 2 * (first * 2 ^ count) := by
      rw [Nat.pow_succ, Nat.mul_comm _ 2, Nat.mul_left_comm]
    have doubled : first * (2 ^ (count + 1) - 1) = first * (2 ^ count - 1) + first * 2 ^ count := by
      rw [← Nat.mul_add]
      congr 1
      have positive : 0 < 2 ^ count := Nat.two_pow_pos count
      omega
    -- The slice was not cut short, so the time waited and the next slice are what doubling gives.
    obtain ⟨left, rfl⟩ := eq_of_next? onward
    rw [← doubled] at left ⊢
    split
    · exact .closing (Nat.succ_le_succ (le_log2_of_early grows early)) left
    · next unspent =>
      rw [← power]
      exact .doubling (.inr (Nat.lt_of_not_le unspent))
  | closing few left =>
    -- The rest was taken.
    have early := (eq_of_next? onward).1
    omega

theorem afterSlices (grows : 0 < first ∨ total ≤ 1)
    (reached : Backoff.afterSlices { slice := first, total := some total, longest } count =
      some backoff) : Stands first total longest count backoff := by
  induction count generalizing backoff with
  | zero =>
    cases reached
    simpa using @doubling first total longest 0 (.inl rfl)
  | succ count ih =>
    obtain ⟨earlier, before, onward⟩ := Option.bind_eq_some_iff.1 reached
    exact (ih before).next grows onward

end Stands

/-- A wait of bounded time has few slices, if the first is something or the time next to nothing. -/
theorem few_of_afterSlices (grows : 0 < first ∨ total ≤ 1)
    (reached : afterSlices { slice := first, total := some total, longest } count = some backoff) :
    count ≤ Nat.log2 total + 1 := (Stands.afterSlices grows reached).few grows

/-- Nothing doubles to nothing. -/
theorem next?_of_nothing (long : 1 < total) :
    (spend ⟨0, 0, some total, longest⟩).next? = some ⟨0, 0, some total, longest⟩ := by
  have half : ¬total / 2 ≤ 0 := by omega
  have unspent : ¬total ≤ 0 := by omega
  simp [spend, current, next?, half, unspent]

end Steward.Deadlock.Backoff
