import SteelProxy.Config

/-!
# The backend registry

`proxy::BackendRegistry`: the static backends of the configuration and the dynamic backends of
PR instances. Dynamic entries shadow static ones in `get`.
-/

set_option autoImplicit false

namespace SteelProxy

open SteelProxy.Library

/-- `proxy::BackendRegistry`. -/
structure BackendRegistry where
  staticBackends : KeyedMap String BackendServer
  dynamicBackends : KeyedMap String BackendServer
  deriving DecidableEq

namespace BackendRegistry

/-- `BackendRegistry::new`. -/
def new (staticBackends : KeyedMap String BackendServer) : BackendRegistry :=
  ⟨staticBackends, ∅⟩

/-- `BackendRegistry::get`: dynamic backends first. -/
def get (r : BackendRegistry) (name : String) : Option BackendServer :=
  (r.dynamicBackends.lookup name).or (r.staticBackends.lookup name)

/-- `BackendRegistry::contains`. -/
def contains (r : BackendRegistry) (name : String) : Bool :=
  (r.dynamicBackends.lookup name).isSome || (r.staticBackends.lookup name).isSome

/-- `BackendRegistry::iter`: the static entries, then the dynamic ones. -/
def iter (r : BackendRegistry) : List (String × BackendServer) :=
  r.staticBackends.pairs ++ r.dynamicBackends.pairs

/-- `BackendRegistry::add_dynamic`. -/
def addDynamic (r : BackendRegistry) (name : String) (backend : BackendServer) :
    BackendRegistry :=
  { r with dynamicBackends := r.dynamicBackends.insert name backend }

/-- `BackendRegistry::remove_dynamic`, with the removed backend. -/
def removeDynamic (r : BackendRegistry) (name : String) :
    Option BackendServer × BackendRegistry :=
  (r.dynamicBackends.lookup name, { r with dynamicBackends := r.dynamicBackends.erase name })

@[simp]
theorem addDynamic_staticBackends (r : BackendRegistry) (name : String)
    (backend : BackendServer) :
    (r.addDynamic name backend).staticBackends = r.staticBackends := rfl

@[simp]
theorem removeDynamic_staticBackends (r : BackendRegistry) (name : String) :
    (r.removeDynamic name).2.staticBackends = r.staticBackends := rfl

theorem lookup_addDynamic (r : BackendRegistry) (name k : String) (backend : BackendServer) :
    (r.addDynamic name backend).dynamicBackends.lookup k =
      if k = name then some backend else r.dynamicBackends.lookup k :=
  KeyedMap.lookup_insert_ite r.dynamicBackends name k backend

theorem lookup_removeDynamic (r : BackendRegistry) (name k : String) :
    (r.removeDynamic name).2.dynamicBackends.lookup k =
      if k = name then none else r.dynamicBackends.lookup k :=
  KeyedMap.lookup_erase_ite r.dynamicBackends name k

theorem contains_eq_isSome_get (r : BackendRegistry) (name : String) :
    r.contains name = (r.get name).isSome := by
  simp [contains, get, Option.isSome_or]

end BackendRegistry

end SteelProxy
