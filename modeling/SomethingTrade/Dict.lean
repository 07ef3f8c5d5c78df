import Mathlib.Algebra.GroupWithZero.Nat
import Mathlib.Data.List.Induction
import Mathlib.Data.List.Nodup
import Mathlib.Data.List.Perm.Basic

/-!
# Insertion-Ordered Dictionaries

`Dict α β` is the dictionary of a dynamically typed language as a value: a list of
entries in insertion order whose keys are pairwise distinct. The distinctness is a field
of the structure, so no operation can produce a dictionary that stores a key twice.
Writing a present key keeps its position (`Dict.set`), writing an absent key appends,
and `Dict.pop` removes a key and keeps the order of the others.

## Main results

* `Dict.get?_set` and `Dict.get?_pop`: lookup after a write and after a removal.
* `Dict.mem_keys_iff` and `Dict.mem_entries_iff`: keys and entries read through lookup.
* `Dict.forall_entries_set`, `Dict.forall_entries_pop`: a property of all entries is
  kept by a write of an entry that has it, and by every removal.
* `Dict.walk`: the rule for loops over the entries that change only the entry at hand.
-/

namespace SomethingTrade

universe u v

/-- An insertion-ordered dictionary: the entries in order, no key twice. -/
structure Dict (α : Type u) (β : Type v) where
  /-- The entries, oldest key first. -/
  entries : List (α × β)
  /-- No key is stored twice. -/
  nodup : (entries.map Prod.fst).Nodup

namespace Dict

variable {α : Type u} {β : Type v}

/-- Two dictionaries with the same entries are equal. -/
@[ext] theorem ext {d e : Dict α β} (h : d.entries = e.entries) : d = e := by
  cases d; cases e; cases h; rfl

instance [DecidableEq α] [DecidableEq β] : DecidableEq (Dict α β) := fun d e =>
  decidable_of_iff (d.entries = e.entries) ⟨ext, fun h => h ▸ rfl⟩

/-- The empty dictionary. -/
def empty : Dict α β := ⟨[], List.nodup_nil⟩

/-- The keys in insertion order. -/
def keys (d : Dict α β) : List α := d.entries.map Prod.fst

/-- The values in insertion order of their keys. -/
def values (d : Dict α β) : List β := d.entries.map Prod.snd

/-- The number of keys. -/
def size (d : Dict α β) : ℕ := d.entries.length

@[simp] theorem entries_empty : (empty : Dict α β).entries = [] := rfl

@[simp] theorem keys_empty : (empty : Dict α β).keys = [] := rfl

theorem nodup_keys (d : Dict α β) : d.keys.Nodup := d.nodup

/-- Rewriting every value in place keeps the keys. -/
def mapValues (f : β → β) (d : Dict α β) : Dict α β where
  entries := d.entries.map fun e => (e.1, f e.2)
  nodup := by simpa [List.map_map, Function.comp_def] using d.nodup

variable [DecidableEq α]

/-- Lookup of a key. -/
def get? (d : Dict α β) (k : α) : Option β :=
  (d.entries.find? fun e => e.1 = k).map Prod.snd

/-- The entry list after writing `v` at `k`: in place when `k` is present, else at the
end. -/
def setEntries (k : α) (v : β) : List (α × β) → List (α × β)
  | [] => [(k, v)]
  | e :: es => if e.1 = k then (k, v) :: es else e :: setEntries k v es

/-- The keys after a write: unchanged when the key was present, one more at the end
otherwise. -/
theorem map_fst_setEntries (k : α) (v : β) (es : List (α × β)) :
    (setEntries k v es).map Prod.fst =
      if k ∈ es.map Prod.fst then es.map Prod.fst else es.map Prod.fst ++ [k] := by
  induction es with
  | nil => simp [setEntries]
  | cons e es ih =>
      by_cases h : e.1 = k
      · simp [setEntries, h]
      · have h' : ¬ k = e.1 := fun hk => h hk.symm
        simp only [setEntries, if_neg h, List.map_cons, ih, List.mem_cons, h', false_or]
        split <;> simp

/-- Write `v` at key `k`. -/
def set (d : Dict α β) (k : α) (v : β) : Dict α β where
  entries := setEntries k v d.entries
  nodup := by
    rw [map_fst_setEntries]
    split
    · exact d.nodup
    · rename_i h
      exact List.nodup_append.mpr
        ⟨d.nodup, List.nodup_singleton k, by rintro a ha b hb rfl; simp_all⟩

/-- Remove key `k` when present. -/
def pop (d : Dict α β) (k : α) : Dict α β where
  entries := d.entries.filter fun e => e.1 ≠ k
  nodup := d.nodup.sublist (List.filter_sublist.map _)

/-- The dictionary of a list of pairs: a later pair overwrites an earlier one. -/
def ofList (es : List (α × β)) : Dict α β :=
  es.foldl (fun d e => d.set e.1 e.2) empty

/-- Add one to the counter of a key; an absent counter is zero. -/
def increment (d : Dict α ℕ) (k : α) : Dict α ℕ := d.set k ((d.get? k).getD 0 + 1)

/-- Write `v` at key `k` unless the key is present. -/
def setDefault (d : Dict α β) (k : α) (v : β) : Dict α β :=
  if (d.get? k).isSome then d else d.set k v

/-- The entries with a key that `p` accepts. -/
def filterKeys (p : α → Bool) (d : Dict α β) : Dict α β where
  entries := d.entries.filter fun e => p e.1
  nodup := d.nodup.sublist (List.filter_sublist.map _)

/-! ### Lookup -/

@[simp] theorem get?_empty (k : α) : (empty : Dict α β).get? k = none := rfl

theorem get?_mapValues (f : β → β) (d : Dict α β) (k : α) :
    (d.mapValues f).get? k = (d.get? k).map f := by
  simp only [get?, mapValues, List.find?_map, Option.map_map]
  rfl

theorem find?_setEntries (k k' : α) (v : β) (es : List (α × β)) :
    ((setEntries k v es).find? fun e => e.1 = k') =
      if k = k' then some (k, v) else es.find? fun e => e.1 = k' := by
  induction es with
  | nil => by_cases h : k = k' <;> simp [setEntries, h]
  | cons e es ih =>
      by_cases he : e.1 = k
      · by_cases hk : k = k'
        · simp [setEntries, he, hk]
        · simp [setEntries, he, hk]
      · rw [setEntries, if_neg he]
        by_cases hk' : e.1 = k'
        · have hne : ¬ k = k' := fun h => he (hk'.trans h.symm)
          simp [hk', hne]
        · simp [hk', ih]

/-- Lookup after a write. -/
theorem get?_set (d : Dict α β) (k k' : α) (v : β) :
    (d.set k v).get? k' = if k = k' then some v else d.get? k' := by
  simp only [get?, set, find?_setEntries]
  split <;> rfl

@[simp] theorem get?_set_self (d : Dict α β) (k : α) (v : β) :
    (d.set k v).get? k = some v := by simp [get?_set]

theorem get?_set_of_ne (d : Dict α β) {k k' : α} (v : β) (h : k ≠ k') :
    (d.set k v).get? k' = d.get? k' := by simp [get?_set, h]

/-- Counting one key more. -/
theorem getD_increment (d : Dict α ℕ) (k k' : α) :
    ((d.increment k).get? k').getD 0 = (d.get? k').getD 0 + if k = k' then 1 else 0 := by
  rw [increment, get?_set]
  split
  · rename_i h
    rw [h, Option.getD_some]
  · rfl

/-- Counting a list of keys. -/
theorem getD_foldl_increment (ks : List α) (d : Dict α ℕ) (k : α) :
    ((ks.foldl increment d).get? k).getD 0 = (d.get? k).getD 0 + ks.count k := by
  induction ks generalizing d with
  | nil => simp
  | cons k' ks ih =>
      rw [List.foldl_cons, ih, getD_increment, List.count_cons]
      simp only [beq_iff_eq]
      omega

/-- Lookup after a default was written. -/
theorem get?_setDefault (d : Dict α β) (k k' : α) (v : β) :
    (d.setDefault k v).get? k' = if k = k' then some ((d.get? k).getD v) else d.get? k' := by
  rw [setDefault]
  cases hk : d.get? k with
  | none => exact get?_set d k k' v
  | some w =>
      rw [Option.isSome_some, if_pos rfl]
      split
      · rename_i h
        rw [← h, hk]
        rfl
      · rfl

/-- Lookup after a removal. -/
theorem get?_pop (d : Dict α β) (k k' : α) :
    (d.pop k).get? k' = if k = k' then none else d.get? k' := by
  have key : ∀ es : List (α × β),
      ((es.filter fun e => e.1 ≠ k).find? fun e => e.1 = k') =
        if k = k' then none else es.find? fun e => e.1 = k' := by
    intro es
    induction es with
    | nil => simp
    | cons e es ih =>
        by_cases he : e.1 = k
        · rw [List.filter_cons_of_neg (by simp [he]), ih]
          by_cases hk : k = k' <;> simp [he, hk]
        · rw [List.filter_cons_of_pos (by simp [he]), List.find?_cons, ih]
          by_cases hk' : e.1 = k'
          · have hne : ¬ k = k' := fun h => he (hk'.trans h.symm)
            simp [hk', hne]
          · simp [hk']
  simp only [get?, pop, key]
  split <;> rfl

/-- A pair is an entry exactly when lookup of its key finds its value. -/
theorem mem_entries_iff {d : Dict α β} {k : α} {v : β} :
    (k, v) ∈ d.entries ↔ d.get? k = some v := by
  have key : ∀ es : List (α × β), (es.map Prod.fst).Nodup →
      ((k, v) ∈ es ↔ (es.find? fun e => e.1 = k) = some (k, v)) := by
    intro es hes
    induction es with
    | nil => simp
    | cons e es ih =>
        obtain ⟨a, b⟩ := e
        rw [List.map_cons, List.nodup_cons] at hes
        by_cases hak : a = k
        · subst hak
          have hnot : (a, v) ∉ es := fun hm => hes.1 (List.mem_map.mpr ⟨(a, v), hm, rfl⟩)
          simp [hnot, eq_comm]
        · have hka : ¬ k = a := fun h => hak h.symm
          simp [hak, hka, ih hes.2]
  rw [key d.entries d.nodup, get?]
  cases hf : d.entries.find? fun e => e.1 = k with
  | none => simp
  | some e =>
      have he : e.1 = k := by simpa using List.find?_some hf
      obtain ⟨a, b⟩ := e
      simp_all

/-- A key is stored exactly when lookup finds a value. -/
theorem mem_keys_iff {d : Dict α β} {k : α} : k ∈ d.keys ↔ ∃ v, d.get? k = some v := by
  constructor
  · intro hk
    obtain ⟨⟨a, v⟩, he, rfl⟩ := List.mem_map.mp hk
    exact ⟨v, mem_entries_iff.mp he⟩
  · rintro ⟨v, hv⟩
    exact List.mem_map.mpr ⟨(k, v), mem_entries_iff.mpr hv, rfl⟩

theorem get?_eq_none_iff {d : Dict α β} {k : α} : d.get? k = none ↔ k ∉ d.keys := by
  rw [mem_keys_iff]
  cases d.get? k <;> simp

/-- The keys after a write. -/
theorem mem_keys_set {d : Dict α β} {k k' : α} {v : β} :
    k' ∈ (d.set k v).keys ↔ k' = k ∨ k' ∈ d.keys := by
  simp only [mem_keys_iff, get?_set]
  by_cases h : k = k'
  · simp [h]
  · have h' : ¬ k' = k := fun hk => h hk.symm
    simp [h, h']

/-- The keys after a removal. -/
theorem mem_keys_pop {d : Dict α β} {k k' : α} :
    k' ∈ (d.pop k).keys ↔ k' ≠ k ∧ k' ∈ d.keys := by
  simp only [mem_keys_iff, get?_pop]
  by_cases h : k = k'
  · simp [h]
  · have h' : ¬ k' = k := fun hk => h hk.symm
    simp [h, h']

/-! ### Properties of all entries -/

/-- A property of all entries survives a write of an entry that has it. -/
theorem forall_entries_set {P : α → β → Prop} {d : Dict α β} {k : α} {v : β}
    (hd : ∀ e ∈ d.entries, P e.1 e.2) (hkv : P k v) :
    ∀ e ∈ (d.set k v).entries, P e.1 e.2 := by
  rintro ⟨a, b⟩ he
  rw [mem_entries_iff, get?_set] at he
  split at he
  · rename_i h
    obtain rfl := Option.some.inj he
    exact h ▸ hkv
  · exact hd (a, b) (mem_entries_iff.mpr he)

/-- A property of all entries survives a removal. -/
theorem forall_entries_pop {P : α → β → Prop} {d : Dict α β} (k : α)
    (hd : ∀ e ∈ d.entries, P e.1 e.2) : ∀ e ∈ (d.pop k).entries, P e.1 e.2 :=
  fun e he => hd e (List.mem_filter.mp he).1

/-- A property of all pairs of a list holds of all entries of its dictionary. -/
theorem forall_entries_ofList {P : α → β → Prop} {es : List (α × β)}
    (hes : ∀ e ∈ es, P e.1 e.2) : ∀ e ∈ (ofList es).entries, P e.1 e.2 := by
  suffices h : ∀ d : Dict α β, (∀ e ∈ d.entries, P e.1 e.2) →
      ∀ e ∈ (es.foldl (fun d e => d.set e.1 e.2) d).entries, P e.1 e.2 from
    h empty (by simp)
  induction es with
  | nil => exact fun d hd => hd
  | cons e es ih =>
      intro d hd
      exact ih (fun x hx => hes x (List.mem_cons_of_mem e hx)) _
        (forall_entries_set hd (hes e List.mem_cons_self))

/-- What a dictionary made of a list has at a key is in the list. -/
theorem mem_of_get?_ofList {es : List (α × β)} {k : α} {v : β}
    (h : (ofList es).get? k = some v) : (k, v) ∈ es :=
  forall_entries_ofList (P := fun k v => (k, v) ∈ es) (fun _ he => he) (k, v)
    (mem_entries_iff.mpr h)

/-- A dictionary made of a list has each key of the list. -/
theorem exists_get?_ofList {es : List (α × β)} {k : α} {v : β} (h : (k, v) ∈ es) :
    ∃ v', (ofList es).get? k = some v' := by
  induction es using List.reverseRecOn with
  | nil => cases h
  | append_singleton es e ih =>
      have hstep : ofList (es ++ [e]) = (ofList es).set e.1 e.2 := List.foldl_concat ..
      rw [hstep, get?_set]
      by_cases hk : e.1 = k
      · exact ⟨e.2, if_pos hk⟩
      · rw [if_neg hk]
        refine ih ((List.mem_append.mp h).resolve_right fun he => ?_)
        obtain rfl := List.mem_singleton.mp he
        exact hk rfl

/-- A dictionary made of a list has at a key what the last pair of the key has. -/
theorem get?_ofList (es : List (α × β)) (k : α) :
    (ofList es).get? k = ((es.filter fun e => e.1 = k).getLast?).map Prod.snd := by
  induction es using List.reverseRecOn with
  | nil => rfl
  | append_singleton es e ih =>
      have hstep : ofList (es ++ [e]) = (ofList es).set e.1 e.2 := List.foldl_concat ..
      rw [hstep, get?_set, List.filter_append]
      by_cases hk : e.1 = k
      · simp [hk]
      · simp [hk, ih]

/-! ### Groups -/

/-- The values of a list grouped by a key: the groups in the order of their first members,
and each group in the order of the list. -/
def groupBy (f : β → α) (l : List β) : Dict α (List β) :=
  l.foldl (fun d b => d.set (f b) ((d.get? (f b)).getD [] ++ [b])) empty

/-- The group of a key is the part of the list that has the key. -/
theorem get?_groupBy (f : β → α) (l : List β) (k : α) :
    (groupBy f l).get? k =
      if l.filter (fun b => f b = k) = [] then none else some (l.filter fun b => f b = k) := by
  induction l using List.reverseRecOn with
  | nil => rfl
  | append_singleton l b ih =>
      have hstep : groupBy f (l ++ [b]) =
          (groupBy f l).set (f b) (((groupBy f l).get? (f b)).getD [] ++ [b]) :=
        List.foldl_concat ..
      rw [hstep, get?_set, List.filter_append]
      by_cases hk : f b = k
      · subst hk
        rw [if_pos rfl, ih]
        split <;> simp_all
      · rw [if_neg hk, ih]
        simp [hk]

/-- The members of a group. -/
theorem mem_groupBy {f : β → α} {l : List β} {k : α} {g : List β}
    (h : (k, g) ∈ (groupBy f l).entries) : g = l.filter fun b => f b = k := by
  rw [mem_entries_iff, get?_groupBy] at h
  split at h
  · cases h
  · exact (Option.some.inj h).symm

/-- Every member of the list is in the group of its key. -/
theorem exists_groupBy {f : β → α} {l : List β} {b : β} (h : b ∈ l) :
    (f b, l.filter fun b' => f b' = f b) ∈ (groupBy f l).entries := by
  rw [mem_entries_iff, get?_groupBy, if_neg]
  exact List.ne_nil_of_mem (List.mem_filter.mpr ⟨h, by simp⟩)

/-! ### Entries after a write or a removal -/

/-- Writing an absent key appends its entry. -/
theorem entries_set_of_get?_none {d : Dict α β} {k : α} (v : β) (h : d.get? k = none) :
    (d.set k v).entries = d.entries ++ [(k, v)] := by
  have key : ∀ es : List (α × β), k ∉ es.map Prod.fst → setEntries k v es = es ++ [(k, v)] := by
    intro es hes
    induction es with
    | nil => rfl
    | cons e es ih =>
        rw [List.map_cons, List.mem_cons, not_or] at hes
        have hne : ¬ e.1 = k := fun h => hes.1 h.symm
        rw [setEntries, if_neg hne, ih hes.2]
        rfl
  exact key d.entries (get?_eq_none_iff.mp h)

/-- Up to order, the entries are one of them and the others. -/
theorem perm_cons_pop {d : Dict α β} {k : α} {v : β} (h : d.get? k = some v) :
    d.entries.Perm ((k, v) :: (d.pop k).entries) := by
  have hnodup : d.entries.Nodup := .of_map _ d.nodup
  refine (List.perm_ext_iff_of_nodup hnodup ?_).mpr ?_
  · refine List.nodup_cons.mpr ⟨fun hmem => ?_, hnodup.filter _⟩
    simpa using (List.mem_filter.mp hmem).2
  · rintro ⟨a, b⟩
    rw [List.mem_cons, mem_entries_iff, mem_entries_iff, get?_pop]
    by_cases hak : k = a
    · subst hak
      simp [h, eq_comm]
    · have hne : ¬ a = k := fun h => hak h.symm
      simp [hak, hne]

/-- Up to order, the entries after a write are the written one and the others. -/
theorem perm_set (d : Dict α β) (k : α) (v : β) :
    (d.set k v).entries.Perm ((k, v) :: (d.pop k).entries) := by
  have h := perm_cons_pop (get?_set_self d k v)
  have hpop : ((d.set k v).pop k).entries.Perm (d.pop k).entries := by
    refine (List.perm_ext_iff_of_nodup (.of_map _ (nodup _)) (.of_map _ (nodup _))).mpr ?_
    rintro ⟨a, b⟩
    rw [mem_entries_iff, mem_entries_iff, get?_pop, get?_pop, get?_set]
    by_cases hka : k = a <;> simp [hka]
  exact h.trans (hpop.cons _)

/-- Counting one key more, in the sum of the counters of some keys. -/
theorem sum_filter_increment (p : α → Bool) (d : Dict α ℕ) (k : α) :
    (((d.increment k).entries.filter fun e => p e.1).map Prod.snd).sum =
      ((d.entries.filter fun e => p e.1).map Prod.snd).sum + if p k then 1 else 0 := by
  have hcons : ∀ (n : ℕ) (es : List (α × ℕ)),
      ((((k, n) :: es).filter fun e => p e.1).map Prod.snd).sum =
        (if p k then n else 0) + ((es.filter fun e => p e.1).map Prod.snd).sum := by
    intro n es
    rw [List.filter_cons]
    split
    · rw [List.map_cons, List.sum_cons]
    · rw [Nat.zero_add]
  have hperm : ∀ {es es' : List (α × ℕ)}, es.Perm es' →
      ((es.filter fun e => p e.1).map Prod.snd).sum =
        ((es'.filter fun e => p e.1).map Prod.snd).sum :=
    fun h => ((h.filter _).map _).sum_nat
  rw [increment]
  cases hk : d.get? k with
  | none =>
      rw [entries_set_of_get?_none _ hk, hperm List.perm_append_comm, List.singleton_append,
        hcons, Nat.add_comm]
      rfl
  | some n =>
      rw [hperm (perm_set d k _), hperm (perm_cons_pop hk), hcons, hcons, Option.getD_some]
      split <;> omega

/-- A list with distinct keys is the entry list of its dictionary. -/
theorem entries_ofList {es : List (α × β)} (h : (es.map Prod.fst).Nodup) :
    (ofList es).entries = es := by
  induction es using List.reverseRecOn with
  | nil => rfl
  | append_singleton es e ih =>
      have hstep : ofList (es ++ [e]) = (ofList es).set e.1 e.2 := List.foldl_concat ..
      rw [List.map_append, List.nodup_append] at h
      obtain ⟨hes, -, hnew⟩ := h
      have habsent : (ofList es).get? e.1 = none := by
        rw [get?_eq_none_iff, keys, ih hes]
        exact fun hmem => hnew e.1 hmem e.1 (by simp) rfl
      rw [hstep, entries_set_of_get?_none _ habsent, ih hes]

/-- A dictionary made of a list with distinct keys has what the list has. -/
theorem get?_ofList_of_mem {es : List (α × β)} (h : (es.map Prod.fst).Nodup) {k : α} {v : β}
    (hmem : (k, v) ∈ es) : (ofList es).get? k = some v := by
  rw [← mem_entries_iff, entries_ofList h]
  exact hmem

theorem keys_ofList {es : List (α × β)} {ks : List α} (hks : es.map Prod.fst = ks)
    (h : ks.Nodup) : (ofList es).keys = ks := by
  subst hks
  rw [keys, entries_ofList h]

/-! ### Loops over the entries -/

/-- **The walk rule.** A loop over the entries of a dictionary changes at each step only
the entry at hand. Then every entry is still there when its turn comes, and a property
that such steps keep is kept by the loop. -/
theorem walk {σ : Type*} {V : σ → Dict α β} {step : σ → α × β → σ} {I : σ → Prop}
    (hframe : ∀ s e k, k ≠ e.1 → (V (step s e)).get? k = (V s).get? k)
    (hstep : ∀ s e, I s → (V s).get? e.1 = some e.2 → I (step s e)) {s : σ} (h : I s) :
    I ((V s).entries.foldl step s) := by
  have key : ∀ (es : List (α × β)) (s : σ), (es.map Prod.fst).Nodup →
      (∀ e ∈ es, (V s).get? e.1 = some e.2) → I s → I (es.foldl step s) := by
    intro es
    induction es with
    | nil => exact fun s _ _ h => h
    | cons e es ih =>
        intro s hnodup hes h
        rw [List.map_cons, List.nodup_cons] at hnodup
        refine ih (step s e) hnodup.2 (fun e' he' => ?_)
          (hstep s e h (hes e List.mem_cons_self))
        have hne : e'.1 ≠ e.1 := by
          intro heq
          exact hnodup.1 (heq ▸ List.mem_map_of_mem he')
        rw [hframe s e e'.1 hne]
        exact hes e' (List.mem_cons_of_mem e he')
  exact key _ s (V s).nodup (fun e he => mem_entries_iff.mp he) h

/-- **The prefix rule.** A loop over the entries of a dictionary that keeps a property of the
entries visited so far and the state ends with that property of all the entries. -/
theorem walk_prefix {σ : Type*} {step : σ → α × β → σ} {I : List (α × β) → σ → Prop}
    (d : Dict α β)
    (hstep : ∀ done e s, d.get? e.1 = some e.2 → I done s → I (done ++ [e]) (step s e))
    {s : σ} (h : I [] s) : I d.entries (d.entries.foldl step s) := by
  have key : ∀ (rest done : List (α × β)) (s : σ), done ++ rest = d.entries → I done s →
      I (done ++ rest) (rest.foldl step s) := by
    intro rest
    induction rest with
    | nil => exact fun done s _ hs => by rwa [List.append_nil]
    | cons e rest ih =>
        intro done s hentries hs
        have hget : d.get? e.1 = some e.2 := mem_entries_iff.mp (hentries ▸ by simp)
        have hrest := ih (done ++ [e]) (step s e)
          (by rw [List.append_assoc, List.singleton_append, hentries]) (hstep done e s hget hs)
        rwa [List.append_assoc, List.singleton_append] at hrest
  exact key d.entries [] s rfl h

end Dict

end SomethingTrade
