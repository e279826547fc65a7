import SteelProxy.Library.KeyedMap

/-!
# Proxy configuration

The part of `config.rs` that the modelled functions read, and the validation done by
`ProxyConfig::load`. Reading the file and parsing TOML are parameters.
-/

set_option autoImplicit false

namespace SteelProxy

open SteelProxy.Library

/-- `config::BackendServer`. -/
structure BackendServer where
  address : String
  port : UInt16
  description : Option String
  deriving DecidableEq, Repr

/-- `config::KubernetesConfig`. -/
structure KubernetesConfig where
  registry : String
  instanceTimeoutMinutes : UInt64
  imageName : String
  nodeAddress : String
  deriving DecidableEq, Repr

/-- `config::JenkinsConfig`. -/
structure JenkinsConfig where
  url : String
  buildTimeoutMinutes : UInt64
  deriving DecidableEq, Repr

/-- `config::ProxyConfig`. -/
structure ProxyConfig where
  bindPort : UInt16
  publicAddress : String
  defaultServer : String
  backends : KeyedMap String BackendServer

namespace ProxyConfig

/-- The checks of `ProxyConfig::load` on a parsed configuration. -/
def validate (config : ProxyConfig) : Except String ProxyConfig :=
  if config.backends.entries.isEmpty then
    .error "No backend servers configured"
  else if config.defaultServer ∈ config.backends then
    .ok config
  else
    .error s!"Default server '{config.defaultServer}' not found in backends"

/-- `ProxyConfig::load`, over the file system and the TOML parser. -/
def load (readToString : String → Option String) (fromStr : String → Option ProxyConfig)
    (path : String) : Except String ProxyConfig :=
  match readToString path with
  | none => .error s!"Failed to read config file: {path}"
  | some content =>
      match fromStr content with
      | none => .error "Failed to parse config file"
      | some config => validate config

theorem defaultServer_mem_of_validate {config config' : ProxyConfig}
    (h : validate config = .ok config') : config'.defaultServer ∈ config'.backends := by
  unfold validate at h
  split at h
  · cases h
  · split at h
    · rename_i hmem
      cases h
      exact hmem
    · cases h

/-- A loaded configuration lists its default server among its backends. -/
theorem defaultServer_mem_of_load {readToString : String → Option String}
    {fromStr : String → Option ProxyConfig} {path : String} {config : ProxyConfig}
    (h : load readToString fromStr path = .ok config) :
    config.defaultServer ∈ config.backends := by
  unfold load at h
  cases hread : readToString path with
  | none => simp [hread] at h
  | some content =>
      cases hparse : fromStr content with
      | none => simp [hread, hparse] at h
      | some parsed =>
          simp only [hread, hparse] at h
          exact defaultServer_mem_of_validate h

end ProxyConfig

end SteelProxy
