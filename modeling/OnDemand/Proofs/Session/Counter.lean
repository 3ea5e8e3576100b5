import Mathlib.Algebra.Group.Nat.Defs
import Mathlib.Data.List.Nodup
import OnDemand.Session.Client

/-!
# The counter of transactions

Transactions are drawn from a counter of 32 bits that skips zero, so there are one less than the
counter has values.  Wherever the counter starts, it comes to each of them before it comes to any
again.
-/

namespace OnDemand.Client

variable {first counter : UInt32} {drawn : List UInt32}

/-- The transaction that is drawn when some were drawn already, the first of which is given. -/
def following (first : UInt32) (count : Nat) : UInt32 :=
  .ofNat ((first.toNat - 1 + count) % (2 ^ 32 - 1) + 1)

theorem toNat_following (first : UInt32) (count : Nat) :
    (following first count).toNat = (first.toNat - 1 + count) % (2 ^ 32 - 1) + 1 := by
  have small : (first.toNat - 1 + count) % (2 ^ 32 - 1) + 1 < 2 ^ 32 := by omega
  exact UInt32.toNat_ofNat_of_lt' small

theorem following_ne_zero (first : UInt32) (count : Nat) : following first count ≠ 0 := by
  apply UInt32.toNat_inj.not.mp
  rw [toNat_following]
  exact Nat.succ_ne_zero _

theorem following_zero (nonzero : first ≠ 0) : following first 0 = first := by
  have positive : first.toNat ≠ 0 := UInt32.toNat_inj.not.mpr nonzero
  have small := first.toNat_lt
  apply UInt32.toNat_inj.mp
  rw [toNat_following]
  omega

/-- Before all of them were drawn, none is drawn again. -/
theorem following_injOn {one other : Nat} (oneFew : one < 2 ^ 32 - 1)
    (otherFew : other < 2 ^ 32 - 1) (same : following first one = following first other) : one = other := by
  have equal := UInt32.toNat_inj.mpr same
  rw [toNat_following, toNat_following] at equal
  omega

theorem snd_draw (counter : UInt32) : (draw counter).2 = (draw counter).1 + 1 := by
  simp only [draw]
  split <;> rfl

theorem fst_draw_ne_zero (counter : UInt32) : (draw counter).1 ≠ 0 := by
  simp only [draw]
  split
  · decide
  · next nonzero => exact nonzero

/-- The counter goes on from the transaction drawn last, and from the last of all to the first. -/
theorem draw_following (first : UInt32) (count : Nat) :
    (draw (following first count + 1)).1 = following first (count + 1) := by
  have value := toNat_following first count
  have raised : (following first count + 1).toNat =
      ((following first count).toNat + 1) % 2 ^ 32 := UInt32.toNat_add _ _
  apply UInt32.toNat_inj.mp
  rw [toNat_following]
  simp only [draw]
  split
  · next wrapped =>
      have zero : (following first count + 1).toNat = 0 := congrArg UInt32.toNat wrapped
      have one : (1 : UInt32).toNat = 1 := rfl
      simp only
      omega
  · next nonzero =>
      have positive : (following first count + 1).toNat ≠ 0 := UInt32.toNat_inj.not.mpr nonzero
      simp only
      omega

/-- The transactions drawn are those that follow the first, and the counter stands at the next. -/
structure Counted (first counter : UInt32) (drawn : List UInt32) : Prop where
  inOrder : drawn = ((List.range drawn.length).map (following first)).reverse
  next : (draw counter).1 = following first drawn.length

/-- Before anything is drawn, the counter may stand anywhere. -/
theorem Counted.start (counter : UInt32) : Counted (draw counter).1 counter [] where
  inOrder := rfl
  next := (following_zero (fst_draw_ne_zero counter)).symm

theorem Counted.draw (counted : Counted first counter drawn) :
    Counted first (draw counter).2 ((draw counter).1 :: drawn) where
  inOrder := by
    rw [List.length_cons, List.range_succ, List.map_append, List.reverse_append,
      ← counted.inOrder, counted.next]
    rfl
  next := by
    rw [snd_draw, counted.next]
    exact draw_following first drawn.length

theorem Counted.zero_not_mem (counted : Counted first counter drawn) : 0 ∉ drawn := by
  rw [counted.inOrder, List.mem_reverse]
  intro member
  obtain ⟨count, _, zero⟩ := List.mem_map.mp member
  exact following_ne_zero first count zero

theorem Counted.nodup (counted : Counted first counter drawn) (few : drawn.length < 2 ^ 32 - 1) :
    drawn.Nodup := by
  rw [counted.inOrder, List.nodup_reverse]
  apply List.Nodup.map_on _ List.nodup_range
  intro one oneIn other otherIn same
  exact following_injOn (Nat.lt_trans (List.mem_range.mp oneIn) few)
    (Nat.lt_trans (List.mem_range.mp otherIn) few) same

end OnDemand.Client
