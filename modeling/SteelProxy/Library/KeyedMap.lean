import Mathlib.Data.List.AList
import Mathlib.Data.List.Dedup
import Mathlib.Tactic.Common

/-!
# Keyed maps with a listing order

A `KeyedMap` is a finite map stored as a list of entries with distinct keys, so that it has both
the lookup of a map and a listing in some order. Lookups after an operation are given in one
closed form each (`lookup_insert_ite`, `lookup_erase_ite`, `lookup_adjust`), and the listing is
connected to the lookup by `mem_pairs_iff`.
-/

set_option autoImplicit false

namespace SteelProxy.Library

universe u v

/-- A finite map from `κ` to `β` with a listing order. -/
abbrev KeyedMap (κ : Type u) (β : Type v) : Type (max u v) := AList fun _ : κ => β

namespace KeyedMap

variable {κ : Type u} {β : Type v}

/-- The entries as pairs, in listing order. -/
def pairs (m : KeyedMap κ β) : List (κ × β) := m.entries.map fun e => (e.1, e.2)

variable [DecidableEq κ]

theorem lookup_insert_ite (m : KeyedMap κ β) (a k : κ) (b : β) :
    AList.lookup k (AList.insert a b m) = if k = a then some b else AList.lookup k m := by
  by_cases h : k = a
  · subst h
    rw [if_pos rfl, AList.lookup_insert]
  · rw [if_neg h, AList.lookup_insert_ne h]

theorem lookup_erase_ite (m : KeyedMap κ β) (a k : κ) :
    AList.lookup k (AList.erase a m) = if k = a then none else AList.lookup k m := by
  by_cases h : k = a
  · subst h
    rw [if_pos rfl, AList.lookup_erase]
  · rw [if_neg h, AList.lookup_erase_ne h]

/-- Change the value stored under a key, if there is one. -/
def adjust (k : κ) (f : β → β) (m : KeyedMap κ β) : KeyedMap κ β :=
  match m.lookup k with
  | none => m
  | some b => AList.insert k (f b) m

theorem lookup_adjust (m : KeyedMap κ β) (a k : κ) (f : β → β) :
    AList.lookup k (adjust a f m) =
      if k = a then (AList.lookup a m).map f else AList.lookup k m := by
  cases h : AList.lookup a m with
  | none =>
      by_cases hk : k = a
      · subst hk
        simp [adjust, h]
      · simp [adjust, h, hk]
  | some b => simp only [adjust, h, lookup_insert_ite, Option.map_some]

theorem mem_pairs_iff (m : KeyedMap κ β) (k : κ) (b : β) :
    (k, b) ∈ pairs m ↔ AList.lookup k m = some b := by
  rw [← Option.mem_def, AList.mem_lookup_iff]
  constructor
  · intro h
    obtain ⟨e, he, heq⟩ := List.mem_map.1 h
    rcases e with ⟨k', b'⟩
    simp only [Prod.mk.injEq] at heq
    obtain ⟨rfl, rfl⟩ := heq
    exact he
  · intro h
    exact List.mem_map.2 ⟨⟨k, b⟩, h, rfl⟩

omit [DecidableEq κ] in
theorem nodup_map_fst_pairs (m : KeyedMap κ β) : ((pairs m).map Prod.fst).Nodup := by
  have h := m.nodupKeys
  simp only [pairs, List.map_map]
  exact h

theorem mem_map_fst_pairs_iff (m : KeyedMap κ β) (k : κ) :
    k ∈ (pairs m).map Prod.fst ↔ (AList.lookup k m).isSome = true := by
  rw [Option.isSome_iff_exists]
  constructor
  · intro h
    obtain ⟨⟨k', b⟩, hmem, rfl⟩ := List.mem_map.1 h
    exact ⟨b, (mem_pairs_iff m k' b).1 hmem⟩
  · rintro ⟨b, hb⟩
    exact List.mem_map.2 ⟨(k, b), (mem_pairs_iff m k b).2 hb, rfl⟩

/-- A list of the keys of a map is as long as its listing exactly when it repeats no key. -/
theorem length_eq_length_pairs_iff {m : KeyedMap κ β} {l : List κ}
    (h : ∀ k, k ∈ l ↔ (AList.lookup k m).isSome = true) :
    l.length = (pairs m).length ↔ l.Nodup := by
  -- without its repetitions the list is a permutation of the listed keys
  have hperm : l.dedup.Perm ((pairs m).map Prod.fst) := by
    apply (List.perm_ext_iff_of_nodup (List.nodup_dedup l) (nodup_map_fst_pairs m)).2
    intro k
    rw [List.mem_dedup, h k, mem_map_fst_pairs_iff]
  have hlength : l.dedup.length = (pairs m).length := by
    rw [hperm.length_eq, List.length_map]
  rw [← hlength]
  constructor
  · intro heq
    have hself := (List.dedup_sublist l).eq_of_length heq.symm
    rw [← hself]
    exact List.nodup_dedup l
  · intro hnodup
    rw [hnodup.dedup]

end KeyedMap

end SteelProxy.Library
