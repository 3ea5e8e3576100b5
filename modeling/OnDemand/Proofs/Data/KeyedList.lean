import Mathlib.Data.List.Nodup
import OnDemand.Data.KeyedList

/-!
# Keyed lists with one entry for each key

In a list without repeated keys, looking a key up finds its only entry, and what is
filtered can be looked up.
-/

namespace OnDemand

namespace KeyedList

variable {κ υ : Type} {entries : KeyedList κ υ}

/-- No key has two entries. -/
def DistinctKeys (entries : KeyedList κ υ) : Prop := (entries.map Prod.fst).Nodup

theorem DistinctKeys.nil : DistinctKeys ([] : KeyedList κ υ) := List.nodup_nil

theorem DistinctKeys.filter (distinct : entries.DistinctKeys) (keep : κ × υ → Bool) :
    DistinctKeys (entries.filter keep) :=
  distinct.sublist (List.filter_sublist.map _)

variable [DecidableEq κ]

theorem mem_of_get? {key : κ} {value : υ} (found : entries.get? key = some value) :
    (key, value) ∈ entries := by
  induction entries with
  | nil => cases found
  | cons entry rest ih =>
      obtain ⟨other, stored⟩ := entry
      simp only [get?] at found
      split at found
      · next same =>
          cases same
          cases found
          exact List.mem_cons_self
      · exact List.mem_cons_of_mem _ (ih found)

/-- A key that has an entry has a value. -/
theorem exists_get?_of_mem {key : κ} {value : υ} (member : (key, value) ∈ entries) :
    ∃ first, entries.get? key = some first := by
  induction entries with
  | nil => cases member
  | cons entry rest ih =>
      obtain ⟨other, stored⟩ := entry
      simp only [get?]
      split
      · exact ⟨stored, rfl⟩
      · next different =>
          rcases List.mem_cons.mp member with same | later
          · cases same
            exact absurd rfl different
          · exact ih later

/-- A key without an entry is erased by doing nothing. -/
theorem erase_of_get?_eq_none {key : κ} (absent : entries.get? key = none) :
    entries.erase key = entries := by
  refine List.filter_eq_self.mpr fun entry member => decide_eq_true ?_
  rintro rfl
  obtain ⟨value, found⟩ := exists_get?_of_mem member
  rw [absent] at found
  cases found

theorem erase_insert (entries : KeyedList κ υ) (key : κ) (value : υ) :
    (entries.insert key value).erase key = entries.erase key := by
  simp only [insert, erase, List.filter_append, List.filter_filter, Bool.and_self,
    List.filter_cons, List.filter_nil, ne_eq, not_true_eq_false, decide_false, Bool.false_eq_true,
    if_false, List.append_nil]

/-- Every entry of a list without repeated keys is found. -/
theorem DistinctKeys.get?_eq_some_iff (distinct : entries.DistinctKeys) {key : κ} {value : υ} :
    entries.get? key = some value ↔ (key, value) ∈ entries := by
  refine ⟨mem_of_get?, ?_⟩
  intro member
  induction entries with
  | nil => cases member
  | cons entry rest ih =>
      obtain ⟨other, stored⟩ := entry
      obtain ⟨fresh, restDistinct⟩ := List.nodup_cons.mp distinct
      simp only [get?]
      rcases List.mem_cons.mp member with same | later
      · cases same
        simp only [if_true]
      · have different : other ≠ key := by
          intro same
          exact fresh (List.mem_map.mpr ⟨(key, value), later, same.symm⟩)
        rw [if_neg different]
        exact ih restDistinct later

namespace DistinctKeys

theorem erase (distinct : entries.DistinctKeys) (key : κ) : (entries.erase key).DistinctKeys :=
  distinct.filter _

theorem insert (distinct : entries.DistinctKeys) (key : κ) (value : υ) :
    (entries.insert key value).DistinctKeys := by
  rw [DistinctKeys, KeyedList.insert, List.map_append, List.nodup_append]
  refine ⟨distinct.erase key, List.nodup_singleton _, ?_⟩
  intro other member last lastMember
  obtain ⟨entry, kept, rfl⟩ := List.mem_map.mp member
  rw [List.map_cons, List.map_nil, List.mem_singleton] at lastMember
  subst lastMember
  simpa only [KeyedList.erase, List.mem_filter, decide_eq_true_eq] using
    (List.mem_filter.mp kept).2

theorem adjust (distinct : entries.DistinctKeys) (key : κ) (change : υ → υ) :
    (entries.adjust key change).DistinctKeys := by
  have keys : (entries.adjust key change).map Prod.fst = entries.map Prod.fst := by
    rw [KeyedList.adjust, List.map_map]
    congr 1
    funext entry
    simp only [Function.comp]
    split <;> rfl
  rw [DistinctKeys, keys]
  exact distinct

/-- What is kept of a list is found in it. -/
theorem get?_filter (distinct : entries.DistinctKeys) (keep : κ × υ → Bool) {key : κ}
    {value : υ} :
    get? (entries.filter keep) key = some value ↔
      entries.get? key = some value ∧ keep (key, value) := by
  rw [(distinct.filter keep).get?_eq_some_iff, distinct.get?_eq_some_iff, List.mem_filter]

end DistinctKeys

end KeyedList

end OnDemand
