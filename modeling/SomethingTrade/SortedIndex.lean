import Mathlib.Order.Bounds.Basic
import SomethingTrade.Bisect
import SomethingTrade.Dict

/-!
# Dictionaries with a Sorted Key Index

A dictionary kept together with a sorted list of its keys. `Dict.IndexedBy d ks` says
that `ks` is such an index: strictly ascending, with the keys of `d` as its members. It
is the invariant of a dictionary whose index is maintained by bisection, and it
determines the index (`Dict.IndexedBy.map_fst_ascending`), so that reading through the
index and sorting the dictionary afresh are the same.

## Main results

* `Dict.IndexedBy.set`, `Dict.IndexedBy.pop`: an insertion that is skipped for a present
  key and a removal keep the index.
* `Dict.IndexedBy.map_fst_ascending`: the index is the key column of the sorted entries.
* `Dict.IndexedBy.getLast?_eq_some_iff`, `Dict.IndexedBy.head?_eq_some_iff`: the ends of
  the index are the greatest and the least key.
-/

namespace SomethingTrade

universe u v

namespace Dict

variable {α : Type u} {β : Type v} [LinearOrder α]

/-- `ks` is the sorted index of `d`: strictly ascending, and its members are the keys. -/
structure IndexedBy (d : Dict α β) (ks : List α) : Prop where
  ascending : ks.Pairwise (· < ·)
  mem_iff : ∀ {k : α}, k ∈ ks ↔ k ∈ d.keys

/-- The entries sorted by key. -/
def ascending (d : Dict α β) : List (α × β) := d.entries.insertionSort fun a b => a.1 ≤ b.1

/-- The entries sorted by key, greatest first. -/
def descending (d : Dict α β) : List (α × β) := d.entries.insertionSort fun a b => b.1 ≤ a.1

theorem mem_ascending {d : Dict α β} {e : α × β} : e ∈ d.ascending ↔ e ∈ d.entries :=
  (List.perm_insertionSort _ _).mem_iff

/-- Distinct keys make the sorted entries strictly ascending. -/
theorem ascending_pairwise (d : Dict α β) : d.ascending.Pairwise fun a b => a.1 < b.1 := by
  have hle : d.ascending.Pairwise fun a b => a.1 ≤ b.1 := List.pairwise_insertionSort _ _
  have hne : d.ascending.Pairwise fun a b => a.1 ≠ b.1 :=
    (List.perm_insertionSort _ d.entries).symm.pairwise
      (List.pairwise_map.mp d.nodup) fun h => h.symm
  exact (hle.and hne).imp fun h => lt_of_le_of_ne h.1 h.2

/-- Sorting greatest first reverses the ascending entries. -/
theorem descending_eq_reverse (d : Dict α β) : d.descending = d.ascending.reverse := by
  have hge : d.descending.Pairwise fun a b => b.1 ≤ a.1 := List.pairwise_insertionSort _ _
  have hrev : d.ascending.reverse.Pairwise fun a b => b.1 ≤ a.1 :=
    List.pairwise_reverse.mpr (d.ascending_pairwise.imp le_of_lt)
  refine List.Perm.eq_of_pairwise ?_ hge hrev ?_
  · intro a b ha hb hab hba
    have ha' : (a.1, a.2) ∈ d.entries := (List.perm_insertionSort _ _).mem_iff.mp ha
    have hb' : (b.1, b.2) ∈ d.entries := mem_ascending.mp (List.mem_reverse.mp hb)
    have hk : a.1 = b.1 := le_antisymm hba hab
    rw [mem_entries_iff] at ha' hb'
    rw [hk, hb'] at ha'
    exact Prod.ext hk (Option.some.inj ha').symm
  · exact (List.perm_insertionSort _ _).trans
      ((List.perm_insertionSort _ _).symm.trans (List.reverse_perm _).symm)

theorem mem_descending {d : Dict α β} {e : α × β} : e ∈ d.descending ↔ e ∈ d.entries :=
  (List.perm_insertionSort _ _).mem_iff

theorem descending_pairwise (d : Dict α β) : d.descending.Pairwise fun a b => a.1 > b.1 := by
  rw [descending_eq_reverse]
  exact List.pairwise_reverse.mpr d.ascending_pairwise

/-! ### Building an index -/

theorem IndexedBy.empty : (Dict.empty : Dict α β).IndexedBy [] :=
  ⟨List.Pairwise.nil, by simp⟩

/-- Sorting the keys builds an index. -/
theorem indexedBy_insertionSort (d : Dict α β) :
    d.IndexedBy (d.keys.insertionSort (· ≤ ·)) := by
  have hle : (d.keys.insertionSort (· ≤ ·)).Pairwise (· ≤ ·) := List.pairwise_insertionSort _ _
  have hne : (d.keys.insertionSort (· ≤ ·)).Nodup :=
    (List.perm_insertionSort _ _).nodup_iff.mpr d.nodup_keys
  exact ⟨(hle.and hne).imp fun h => lt_of_le_of_ne h.1 h.2,
    (List.perm_insertionSort _ _).mem_iff⟩

/-- A write keeps the index when a key that is new is inserted into it. -/
theorem IndexedBy.set {d : Dict α β} {ks : List α} (h : d.IndexedBy ks) (k : α) (v : β) :
    (d.set k v).IndexedBy (if (d.get? k).isSome then ks else insort ks k) := by
  split
  · rename_i hk
    have hmem : k ∈ d.keys := mem_keys_iff.mpr (Option.isSome_iff_exists.mp hk)
    refine ⟨h.ascending, fun {k'} => ?_⟩
    rw [h.mem_iff, mem_keys_set]
    exact ⟨Or.inr, by rintro (rfl | hk') <;> assumption⟩
  · rename_i hk
    have hnot : k ∉ d.keys := by
      rw [← get?_eq_none_iff]
      simpa using hk
    refine ⟨insort_pairwise_lt h.ascending fun hm => hnot (h.mem_iff.mp hm), fun {k'} => ?_⟩
    rw [mem_insort, mem_keys_set, h.mem_iff]

/-- A removal keeps the index when the key is discarded from it. -/
theorem IndexedBy.pop {d : Dict α β} {ks : List α} (h : d.IndexedBy ks) (k : α) :
    (d.pop k).IndexedBy (discard ks k) := by
  rw [discard_eq_filter h.ascending]
  refine ⟨h.ascending.sublist List.filter_sublist, fun {k'} => ?_⟩
  rw [List.mem_filter, mem_keys_pop, h.mem_iff, decide_eq_true_eq, and_comm]

/-! ### Reading an index -/

/-- **An index is the key column of the sorted entries.** -/
theorem IndexedBy.map_fst_ascending {d : Dict α β} {ks : List α} (h : d.IndexedBy ks) :
    d.ascending.map Prod.fst = ks := by
  have hs : (d.ascending.map Prod.fst).Pairwise (· < ·) :=
    List.pairwise_map.mpr d.ascending_pairwise
  refine List.Perm.eq_of_pairwise ?_ hs h.ascending ?_
  · exact fun a b _ _ hab hba => absurd (hab.trans hba) (lt_irrefl a)
  · refine (List.perm_ext_iff_of_nodup (hs.imp ne_of_lt) (h.ascending.imp ne_of_lt)).mpr ?_
    intro k
    rw [h.mem_iff]
    exact ((List.perm_insertionSort _ d.entries).map Prod.fst).mem_iff

/-- The index ends with the key the descending entries start with. -/
theorem IndexedBy.head?_descending {d : Dict α β} {ks : List α} (h : d.IndexedBy ks) :
    d.descending.head?.map Prod.fst = ks.getLast? := by
  rw [← h.map_fst_ascending, List.getLast?_map, descending_eq_reverse, List.head?_reverse]

/-- The index starts with the key the ascending entries start with. -/
theorem IndexedBy.head?_ascending {d : Dict α β} {ks : List α} (h : d.IndexedBy ks) :
    d.ascending.head?.map Prod.fst = ks.head? := by
  rw [← h.map_fst_ascending, List.head?_map]

theorem IndexedBy.length_eq {d : Dict α β} {ks : List α} (h : d.IndexedBy ks) :
    ks.length = d.size := by
  rw [← h.map_fst_ascending, List.length_map]
  exact (List.perm_insertionSort _ _).length_eq

/-- The last member of the index is the greatest key. -/
theorem IndexedBy.getLast?_eq_some_iff {d : Dict α β} {ks : List α} (h : d.IndexedBy ks)
    {k : α} : ks.getLast? = some k ↔ IsGreatest { k | k ∈ d.keys } k := by
  have key : ∀ {k : α}, ks.getLast? = some k → IsGreatest { k | k ∈ d.keys } k := by
    intro k hk
    obtain ⟨init, rfl⟩ := List.getLast?_eq_some_iff.mp hk
    refine ⟨h.mem_iff.mp (by simp), fun k' hk' => ?_⟩
    rcases List.mem_append.mp (h.mem_iff.mpr hk') with hm | hm
    · exact ((List.pairwise_append.mp h.ascending).2.2 k' hm k (by simp)).le
    · exact (List.mem_singleton.mp hm).le
  refine ⟨key, fun hk => ?_⟩
  cases hl : ks.getLast? with
  | none =>
      rw [List.getLast?_eq_none_iff] at hl
      exact absurd (h.mem_iff.mpr hk.1) (hl ▸ List.not_mem_nil)
  | some l => rw [(key hl).unique hk]

/-- The first member of the index is the least key. -/
theorem IndexedBy.head?_eq_some_iff {d : Dict α β} {ks : List α} (h : d.IndexedBy ks)
    {k : α} : ks.head? = some k ↔ IsLeast { k | k ∈ d.keys } k := by
  have key : ∀ {k : α}, ks.head? = some k → IsLeast { k | k ∈ d.keys } k := by
    intro k hk
    obtain ⟨rest, rfl⟩ := List.head?_eq_some_iff.mp hk
    refine ⟨h.mem_iff.mp (by simp), fun k' hk' => ?_⟩
    rcases List.mem_cons.mp (h.mem_iff.mpr hk') with rfl | hm
    · exact le_rfl
    · exact ((List.pairwise_cons.mp h.ascending).1 k' hm).le
  refine ⟨key, fun hk => ?_⟩
  cases hl : ks.head? with
  | none =>
      rw [List.head?_eq_none_iff] at hl
      exact absurd (h.mem_iff.mpr hk.1) (hl ▸ List.not_mem_nil)
  | some l => rw [(key hl).unique hk]

end Dict

end SomethingTrade
