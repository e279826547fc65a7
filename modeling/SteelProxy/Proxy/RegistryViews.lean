import SteelProxy.Library.KeyedRows
import SteelProxy.Library.PerKey
import SteelProxy.Proxy.Forwarder

/-!
# The views of the backend registry

`contains`, `get` and `iter` are computed separately over the static and the dynamic backends.
`contains` and `get` agree on every registry; `iter` chains the two maps, so it agrees with them
exactly when no dynamic backend shadows a static one (`viewsAgree_iff_noShadow`).
-/

set_option autoImplicit false

namespace SteelProxy

open SteelProxy.Library

/-- A call that changes the dynamic backends. -/
inductive RegistryCall where
  | addDynamic (name : String) (backend : BackendServer)
  | removeDynamic (name : String)
  deriving DecidableEq, Repr

namespace RegistryCall

/-- The name that is added or removed. -/
def name : RegistryCall → String
  | .addDynamic name _ => name
  | .removeDynamic name => name

/-- Whether the call adds its name. -/
def adds : RegistryCall → Bool
  | .addDynamic _ _ => true
  | .removeDynamic _ => false

/-- The registry after a call. -/
def apply (r : BackendRegistry) : RegistryCall → BackendRegistry
  | .addDynamic name backend => r.addDynamic name backend
  | .removeDynamic name => (r.removeDynamic name).2

/-- The last call that names `name`, if any, adds it. -/
def lastAdds (calls : List RegistryCall) (name : String) : Bool :=
  PerKey.onKey RegistryCall.name (fun _ call => call.adds) name false calls

end RegistryCall

namespace BackendRegistry

/-- The registry of a configuration after a sequence of calls. -/
def afterCalls (staticBackends : KeyedMap String BackendServer) (calls : List RegistryCall) :
    BackendRegistry :=
  calls.foldl RegistryCall.apply (new staticBackends)

/-- The views of a registry, the message of `/server` to a player on `currentBackend` with its
lines, and the removal of a dynamic backend. -/
structure ViewsAgree (r : BackendRegistry) : Prop where
  contains : ∀ name, r.contains name = true ↔ (r.get name).isSome = true
  once : ∀ name, (r.iter.map Prod.fst).count name = if r.contains name then 1 else 0
  pairs : ∀ e ∈ r.iter, r.get e.1 = some e.2
  listing : ∀ currentBackend, PacketForwarder.serverList currentBackend r =
    String.join ("Available servers:" :: r.iter.map (PacketForwarder.serverLine currentBackend))
  lines : ∀ currentBackend name,
    (r.iter.filter fun e => e.1 = name).map (PacketForwarder.serverLine currentBackend) =
      ((r.get name).map fun backend =>
        PacketForwarder.serverLine currentBackend (name, backend)).toList
  current : ∀ currentBackend, (r.iter.filter fun e => e.1 = currentBackend).length ≤ 1
  restored : ∀ name, (r.removeDynamic name).2.get name = r.staticBackends.lookup name

/-- No name has both a static and a dynamic backend. -/
def NoShadow (r : BackendRegistry) : Prop :=
  ∀ name, (r.staticBackends.lookup name).isSome = true → r.dynamicBackends.lookup name = none

variable {r : BackendRegistry}

/-! ## The listing of one name -/

/-- The entries of a map under one name are the one stored there, if there is one. -/
theorem filter_pairs (m : KeyedMap String BackendServer) (name : String) :
    ((KeyedMap.pairs m).filter fun e => e.1 = name) =
      ((m.lookup name).map fun backend => (name, backend)).toList := by
  rw [KeyedRows.filter_key_eq (KeyedMap.nodup_map_fst_pairs m)]
  congr 1
  apply Option.ext
  rintro ⟨k, backend⟩
  rw [KeyedRows.row_eq_some_iff (KeyedMap.nodup_map_fst_pairs m), KeyedMap.mem_pairs_iff]
  constructor
  · rintro ⟨hlookup, rfl⟩
    rw [hlookup, Option.map_some]
  · intro h
    obtain ⟨b, hb, heq⟩ := Option.map_eq_some_iff.1 h
    cases heq
    exact ⟨hb, rfl⟩

/-- A name is listed as its static entry, then its dynamic entry. -/
theorem filter_iter (r : BackendRegistry) (name : String) :
    (r.iter.filter fun e => e.1 = name) =
      ((r.staticBackends.lookup name).map fun backend => (name, backend)).toList ++
        ((r.dynamicBackends.lookup name).map fun backend => (name, backend)).toList := by
  rw [iter, List.filter_append, filter_pairs, filter_pairs]

theorem count_iter (r : BackendRegistry) (name : String) :
    (r.iter.map Prod.fst).count name = (r.iter.filter fun e => e.1 = name).length := by
  rw [List.count, List.countP_map, List.countP_eq_length_filter]
  congr 2

/-- Without shadowing a name is listed as the backend that `get` finds. -/
theorem NoShadow.filter_iter (h : NoShadow r) (name : String) :
    (r.iter.filter fun e => e.1 = name) =
      ((r.get name).map fun backend => (name, backend)).toList := by
  rw [BackendRegistry.filter_iter, get]
  cases hs : r.staticBackends.lookup name with
  | none => simp
  | some backend =>
      have hd : r.dynamicBackends.lookup name = none := h name (by rw [hs]; rfl)
      simp [hd]

/-- A removed dynamic backend uncovers the static one. -/
theorem get_removeDynamic (r : BackendRegistry) (name : String) :
    (r.removeDynamic name).2.get name = r.staticBackends.lookup name := by
  rw [get, lookup_removeDynamic, if_pos rfl, removeDynamic_staticBackends, Option.none_or]

/-- The message of `/server` is a heading, and a line for each pair of `iter`. -/
theorem serverList_eq (currentBackend : String) (r : BackendRegistry) :
    PacketForwarder.serverList currentBackend r =
      String.join ("Available servers:" ::
        r.iter.map (PacketForwarder.serverLine currentBackend)) := by
  rw [PacketForwarder.serverList, String.join, List.foldl_cons, List.foldl_map, String.empty_append]

/-! ## Agreement -/

theorem viewsAgree_of_noShadow (h : NoShadow r) : ViewsAgree r where
  contains := by
    intro name
    rw [contains_eq_isSome_get]
  once := by
    intro name
    rw [count_iter, h.filter_iter, contains_eq_isSome_get]
    cases r.get name <;> rfl
  pairs := by
    rintro ⟨name, backend⟩ he
    have hmem : (name, backend) ∈ r.iter.filter fun e => e.1 = name :=
      List.mem_filter.2 ⟨he, by simp⟩
    rw [h.filter_iter, Option.mem_toList, Option.map_eq_some_iff] at hmem
    obtain ⟨b, hb, heq⟩ := hmem
    cases heq
    exact hb
  listing currentBackend := serverList_eq currentBackend r
  lines := by
    intro currentBackend name
    rw [h.filter_iter]
    cases r.get name <;> rfl
  current := by
    intro currentBackend
    rw [h.filter_iter]
    cases r.get currentBackend with
    | none => exact Nat.zero_le 1
    | some backend => exact Nat.le_refl 1
  restored := get_removeDynamic r

theorem noShadow_of_viewsAgree (h : ViewsAgree r) : NoShadow r := by
  intro name hs
  have honce := h.once name
  rw [count_iter, filter_iter] at honce
  obtain ⟨backend, hbackend⟩ := Option.isSome_iff_exists.1 hs
  -- the static entry is listed already, so a dynamic one would be the second
  cases hd : r.dynamicBackends.lookup name with
  | none => rfl
  | some shadow => simp [contains, hbackend, hd] at honce

theorem viewsAgree_iff_noShadow : ViewsAgree r ↔ NoShadow r :=
  ⟨noShadow_of_viewsAgree, viewsAgree_of_noShadow⟩

/-! ## Sequences of calls -/

variable {staticBackends : KeyedMap String BackendServer}

theorem isSome_lookup_apply (call : RegistryCall) :
    ((call.apply r).dynamicBackends.lookup call.name).isSome = call.adds := by
  cases call with
  | addDynamic name backend =>
      rw [RegistryCall.apply, lookup_addDynamic, RegistryCall.name, if_pos rfl]
      rfl
  | removeDynamic name =>
      rw [RegistryCall.apply, lookup_removeDynamic, RegistryCall.name, if_pos rfl]
      rfl

theorem lookup_apply_of_ne {call : RegistryCall} {name : String} (h : name ≠ call.name) :
    (call.apply r).dynamicBackends.lookup name = r.dynamicBackends.lookup name := by
  cases call with
  | addDynamic added backend =>
      rw [RegistryCall.apply, lookup_addDynamic]
      exact if_neg h
  | removeDynamic removed =>
      rw [RegistryCall.apply, lookup_removeDynamic]
      exact if_neg h

theorem staticBackends_afterCalls (calls : List RegistryCall) :
    (afterCalls staticBackends calls).staticBackends = staticBackends := by
  have hrun : ∀ r, (calls.foldl RegistryCall.apply r).staticBackends = r.staticBackends := by
    induction calls with
    | nil => exact fun _ => rfl
    | cons call calls ih =>
        intro r
        rw [List.foldl_cons, ih]
        cases call <;> rfl
  exact hrun _

/-- A name is registered by its last call. -/
theorem isSome_lookup_afterCalls (calls : List RegistryCall) (name : String) :
    ((afterCalls staticBackends calls).dynamicBackends.lookup name).isSome =
      RegistryCall.lastAdds calls name := by
  have hother : ∀ (r : BackendRegistry) call name, name ≠ RegistryCall.name call →
      ((call.apply r).dynamicBackends.lookup name).isSome =
        (r.dynamicBackends.lookup name).isSome := by
    intro r call name h
    rw [lookup_apply_of_ne h]
  exact @PerKey.view_foldl _ _ _ _ _ RegistryCall.name (fun _ call => call.adds)
    RegistryCall.apply (fun r name => (r.dynamicBackends.lookup name).isSome)
    (fun _ call => isSome_lookup_apply call) hother (new staticBackends) calls name

/-- After any sequence of calls the views of the registry agree if and only if the last call that
names a static backend, if there is one, removes it. -/
theorem registry_views_iff (staticBackends : KeyedMap String BackendServer)
    (calls : List RegistryCall) :
    ViewsAgree (afterCalls staticBackends calls) ↔
      ∀ name ∈ staticBackends, RegistryCall.lastAdds calls name = false := by
  rw [viewsAgree_iff_noShadow, NoShadow, staticBackends_afterCalls]
  simp only [← @isSome_lookup_afterCalls staticBackends, Option.isSome_eq_false_iff,
    Option.isNone_iff_eq_none, AList.lookup_isSome]

/-- A static backend that has the name of a PR. -/
def shadowedBackends : KeyedMap String BackendServer :=
  AList.insert "pr-7" ⟨"10.0.0.7", 25567, some "Pinned build"⟩ ∅

/-- The recovery of PR 7 registers its backend. -/
def recoveredCall : RegistryCall :=
  .addDynamic "pr-7" ⟨"127.0.0.1", 30007, some "PR #7"⟩

/-- The recovered backend is listed beside the static one that it shadows. -/
theorem shadowed_backend_listed_twice :
    ¬ ViewsAgree (afterCalls shadowedBackends [recoveredCall]) := by
  intro h
  have honce := h.once "pr-7"
  revert honce
  decide

end BackendRegistry

end SteelProxy
