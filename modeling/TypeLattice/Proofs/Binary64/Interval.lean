import Mathlib.Order.Monotone.Basic
import TypeLattice.Binary64.Shortest

/-!
# Decimals and the numbers they read as

A decimal reads as a magnitude when it lies in the interval around it. Here: the intervals
of different magnitudes are disjoint, also where two of them share an end, and the search
for the shortest decimal ends inside the interval that it was given.

Results:

* `strictMono_scaled`: a greater magnitude is a greater number, within a binade and from
  one to the next;
* `eq_of_holds`: no decimal reads as two magnitudes;
* `holds_shortest`: the shortest decimal of a magnitude other than zero reads as it.
-/
namespace TypeLattice.Binary64

/-! ## Magnitudes and their values -/

theorem units_of_lt {n : Nat} (h : n < binade) : units n = n := by rw [units, if_pos h]

theorem units_of_le {n : Nat} (h : binade ≤ n) :
    units n = (binade + n % binade) * Nat.pow 2 (n / binade - 1) := by
  rw [units, if_neg (by omega)]

theorem units_lt_units_succ (n : Nat) : units n < units (n + 1) := by
  have hb : 0 < binade := by decide
  rcases Nat.lt_or_ge (n + 1) binade with h | h
  · rw [units_of_lt h, units_of_lt (by omega)]; omega
  rcases Nat.lt_or_ge n binade with h' | h'
  · have hn : n + 1 = binade := by omega
    rw [units_of_lt h', units_of_le h, hn, Nat.mod_self, Nat.div_self hb]
    simp; omega
  rw [units_of_le h', units_of_le h]
  have hp : 0 < Nat.pow 2 (n / binade - 1) := Nat.pow_pos (by decide)
  rcases Nat.lt_or_ge (n % binade + 1) binade with hr | hr
  · have he : (n + 1) / binade = n / binade ∧ (n + 1) % binade = n % binade + 1 := by
      unfold binade at *; omega
    rw [he.1, he.2]
    exact Nat.mul_lt_mul_of_pos_right (by omega) hp
  · -- the last number of a binade: the next one has no fraction and twice the weight
    have he : (n + 1) / binade - 1 = n / binade - 1 + 1 ∧ (n + 1) % binade = 0 := by
      unfold binade at *; omega
    rw [he.1, he.2]
    calc (binade + n % binade) * Nat.pow 2 (n / binade - 1)
        < binade * 2 * Nat.pow 2 (n / binade - 1) := by
          have := Nat.mod_lt n hb
          exact Nat.mul_lt_mul_of_pos_right (by omega) hp
      _ = (binade + 0) * Nat.pow 2 (n / binade - 1 + 1) := by
          rw [Nat.add_zero, Nat.mul_assoc, Nat.mul_comm 2]; rfl

theorem strictMono_units : StrictMono units := strictMono_nat_of_lt_succ units_lt_units_succ

theorem scaled_lt_scaled {m n : Nat} (h : m < n) : scaled m < scaled n := by
  have hp : ∀ k, 0 < Nat.pow 5 k := fun k => Nat.pow_pos (by decide)
  rw [scaled, scaled]
  exact Nat.mul_lt_mul_of_pos_right (strictMono_units h) (hp 1074)

theorem strictMono_scaled : StrictMono scaled := fun _ _ => scaled_lt_scaled

/-! ## Intervals -/

namespace Interval

theorem bounds_of_holds {i : Interval} {x : Nat} (h : i.holds x = true) :
    i.low ≤ 2 * x ∧ 2 * x ≤ i.high ∧ (i.closed = false → i.low < 2 * x ∧ 2 * x < i.high) := by
  unfold holds at h
  split at h
  · next hc => simp [hc] at h ⊢; omega
  · simp at h; omega

theorem holds_exact {n : Nat} (h : 0 < n) :
    (ofMagnitude n).holds (ofMagnitude n).exact = true := by
  have h1 : scaled (n - 1) < scaled n := strictMono_scaled (by omega)
  have h2 : scaled n < scaled (n + 1) := strictMono_scaled (by omega)
  unfold holds ofMagnitude
  split <;> simp <;> omega

theorem holds_of_onGrid? {i : Interval} {grid : Nat} {d : Decimal}
    (h : i.onGrid? grid = some d) : i.holds d.value = true := by
  unfold onGrid? at h
  dsimp only at h
  split at h
  · next hb ha =>
    split at h <;> cases h
    · exact hb
    · exact ha
  · next hb _ => cases h; exact hb
  · next _ ha => cases h; exact ha
  · cases h

/-- The search ends inside the interval, at the latest with the number itself. -/
theorem holds_fromGrid {i : Interval} (h : i.holds i.exact = true) (grid : Nat) :
    i.holds (i.fromGrid grid).value = true := by
  induction grid with
  | zero => rw [value_fromGrid_zero]; exact h
  | succ grid ih =>
    rw [fromGrid]
    cases hd : i.onGrid? (grid + 1) with
    | none => exact ih
    | some d => exact holds_of_onGrid? hd

end Interval

theorem holds_shortest {n : Nat} (h : 0 < n) :
    (Interval.ofMagnitude n).holds (shortest n).value = true :=
  Interval.holds_fromGrid (Interval.holds_exact h) _

theorem value_shortest_pos {n : Nat} (h : 0 < n) : 0 < (shortest n).value := by
  have hb := (Interval.bounds_of_holds (holds_shortest h)).1
  have hs : scaled 0 < scaled n := strictMono_scaled h
  unfold Interval.ofMagnitude at hb
  dsimp only at hb
  omega

/-- Neighbours share an end of their intervals; it belongs to the one of even magnitude. -/
theorem le_of_holds {m n x : Nat} (hm : (Interval.ofMagnitude m).holds x = true)
    (hn : (Interval.ofMagnitude n).holds x = true) : n ≤ m := by
  obtain ⟨-, hmx, hmo⟩ := Interval.bounds_of_holds hm
  obtain ⟨hnx, -, hno⟩ := Interval.bounds_of_holds hn
  unfold Interval.ofMagnitude at hmx hnx hmo hno
  simp only [decide_eq_false_iff_not] at hmx hnx hmo hno
  by_contra hlt
  have h1 : scaled (m + 1) ≤ scaled n := strictMono_scaled.monotone (by omega)
  have h2 : scaled m ≤ scaled (n - 1) := strictMono_scaled.monotone (by omega)
  rcases Nat.lt_or_ge (m + 1) n with h | h
  · -- a number between the two keeps their intervals apart
    have := strictMono_scaled h
    omega
  · have he : n = m + 1 := by omega
    subst he
    rw [Nat.add_sub_cancel] at *
    omega

theorem eq_of_holds {m n x : Nat} (hm : (Interval.ofMagnitude m).holds x = true)
    (hn : (Interval.ofMagnitude n).holds x = true) : m = n :=
  Nat.le_antisymm (le_of_holds hn hm) (le_of_holds hm hn)

/-- Numbers whose shortest decimals have the same value are the same. -/
theorem eq_of_value_shortest {m n : Nat} (hm : 0 < m) (hn : 0 < n)
    (h : (shortest m).value = (shortest n).value) : m = n := by
  have := holds_shortest hm
  rw [h] at this
  exact eq_of_holds this (holds_shortest hn)

end TypeLattice.Binary64
