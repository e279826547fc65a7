import SteelProxy.K8s.AtomicStarts
import SteelProxy.K8s.Notices
import SteelProxy.Proxy.CommandParser
import SteelProxy.Proxy.ForwarderEffects

/-!
# The commands that the proxy advises

The notice of a ready PR and the answers to `/status` name the command that the player is to use
next. In every run this command works at the time: the parser reads it back as it is printed, the
server of `/server pr-n` is registered, at the endpoint of PR n if it is tracked, and a PR that is
said not to run is neither tracked nor registered (`advice_holds`).
-/

set_option autoImplicit false

namespace SteelProxy

open SteelProxy.Library SteelProxy.Library.Transition

/-- The decimal digits of a PR number are read back as this number. -/
theorem parseU32_toString (n : UInt32) : Text.parseU32 (toString n) = some n := by
  have hdigits : ∀ c ∈ (toString n : String).toList, c.isDigit = true := by
    intro c hc
    rw [toList_toString] at hc
    exact Nat.isDigit_of_mem_toDigits (by decide) (by decide) hc
  have hvalue : Nat.ofDigitChars 10 (toString n : String).toList 0 = n.toNat := by
    rw [toList_toString, Nat.ofDigitChars_ten_toDigits]
  have hne : (toString n : String).toList ≠ [] := by
    rw [toList_toString]
    exact Nat.toDigits_ne_nil
  rw [Text.parseU32_of_isDigit hne hdigits (by rw [hvalue]; exact n.toNat_lt), hvalue,
    UInt32.ofNat_toNat]

/-- A PR number has no white space. -/
theorem isWhiteSpace_of_mem_toString {n : UInt32} {c : Char}
    (hc : c ∈ (toString n : String).toList) : Text.isWhiteSpace c = false := by
  rw [toList_toString] at hc
  exact Text.isWhiteSpace_of_isDigit (Nat.isDigit_of_mem_toDigits (by decide) (by decide) hc)

theorem length_toString_le (n : UInt32) : (toString n : String).toList.length ≤ 10 := by
  rw [toList_toString, Nat.length_toDigits_le_iff (by decide) (by decide)]
  exact Nat.lt_trans n.toNat_lt (by decide)

namespace Advice

/-! ## The commands -/

/-- The command to connect to PR `n`. -/
def connectCommand (n : UInt32) : String := s!"server pr-{n}"

/-- The command to start PR `n`. -/
def startCommand (n : UInt32) : String := s!"start {n}"

/-- The command that asks for PR `n`. -/
def statusCommand (n : UInt32) : String := s!"status {n}"

/-- The packet of a chat command. A signed one has further fields behind the command. -/
def Typed (ids : PacketIds) (command : String) (packet : RawPacket) : Prop :=
  (packet.id = ids.playChatCommand ∨ packet.id = ids.playChatCommandSigned) ∧
    ∃ rest, packet.payload = Wire.writeString command ++ rest

section Commands

variable {ids : PacketIds} {config : ProxyConfig} {f : PacketForwarder} {command : String}
  {packet : RawPacket}

/-- The parser reads a command back as it was typed. -/
theorem handleClientPacket_of_typed (hplay : f.currentProtocol = .play)
    (htyped : Typed ids command packet) (hlength : (Wire.bytesOf command).length < 2 ^ 31)
    {c : ProxyCommand} (hc : PacketForwarder.proxyCommand command = some c) (env : Surroundings) :
    f.handleClientPacket ids config env packet = f.handleProxyCommand config env c := by
  obtain ⟨hid, rest, hpayload⟩ := htyped
  have hchat : PacketForwarder.isChatCommand ids f.currentProtocol packet = true := by
    simp only [PacketForwarder.isChatCommand, hplay, Bool.and_eq_true, Bool.or_eq_true,
      decide_eq_true_eq, true_and]
    exact hid
  have hparse : PacketForwarder.parseCommandFromPayload packet.payload = some (.ok command) := by
    rw [hpayload]
    exact (PacketForwarder.parse_eq_ok_iff
      (PacketForwarder.lengthNonNegative_writeString hlength rest) command).2
      (PacketForwarder.commandPayload_writeString hlength rest)
  simp only [PacketForwarder.handleClientPacket, if_pos hchat, hparse, hc]

/-- A word and the number of a PR are short enough for a packet. -/
theorem length_bytesOf_command (word : String) (hword : word.toList.length ≤ 10) (n : UInt32) :
    (Wire.bytesOf (word ++ toString n)).length < 2 ^ 31 := by
  have hlength := Wire.length_bytesOf_le (word ++ toString n)
  have hdigits := length_toString_le n
  rw [String.toList_append, List.length_append] at hlength
  omega

theorem proxyCommand_connectCommand (n : UInt32) :
    PacketForwarder.proxyCommand (connectCommand n) = some (.switchServer (backendName n)) := by
  have htext : connectCommand n = "server " ++ backendName n := by
    have hwords : "server pr-" = "server " ++ "pr-" := by simp
    have h : connectCommand n = "server pr-" ++ toString n := rfl
    rw [h, hwords, String.append_assoc]
    rfl
  have hne : connectCommand n ≠ "server" := @Text.append_ne "server pr-" _ _ (by decide)
  have htrim : Text.trim (backendName n) = backendName n := by
    refine Text.trim_eq_self ?_
    intro c hc
    have hname : backendName n = "pr-" ++ toString n := rfl
    rw [hname, String.toList_append, List.mem_append] at hc
    rcases hc with hc | hc
    · have hword : ("pr-".toList.all fun c => !Text.isWhiteSpace c) = true := by decide
      exact (Bool.not_eq_true' _).mp (List.all_eq_true.1 hword c hc)
    · exact isWhiteSpace_of_mem_toString hc
  rw [PacketForwarder.proxyCommand, if_neg hne, htext, Text.stripPrefix_append]
  simp only [htrim]

theorem proxyCommand_startCommand (n : UInt32) :
    PacketForwarder.proxyCommand (startCommand n) = some (.start (toString n)) := by
  have htext : startCommand n = "start " ++ toString n := rfl
  have hword : Text.startsWith "start " (startCommand n) = true :=
    Text.startsWith_append (by decide) _
  have hne : startCommand n ≠ "server" := @Text.append_ne "start " _ _ (by decide)
  have hserver : Text.stripPrefix "server " (startCommand n) = none :=
    Text.stripPrefix_eq_none (Text.startsWith_eq_false hword (by decide) (by decide))
  have htrim : Text.trim (toString n) = toString n :=
    Text.trim_eq_self fun c hc => isWhiteSpace_of_mem_toString hc
  rw [PacketForwarder.proxyCommand, if_neg hne, hserver]
  simp only [htext, Text.stripPrefix_append, htrim]

theorem proxyCommand_statusCommand (n : UInt32) :
    PacketForwarder.proxyCommand (statusCommand n) = some (.status (toString n)) := by
  have htext : statusCommand n = "status " ++ toString n := rfl
  have hword : Text.startsWith "status " (statusCommand n) = true :=
    Text.startsWith_append (by decide) _
  have hne : statusCommand n ≠ "server" := @Text.append_ne "status " _ _ (by decide)
  have hserver : Text.stripPrefix "server " (statusCommand n) = none :=
    Text.stripPrefix_eq_none (Text.startsWith_eq_false hword (by decide) (by decide))
  have hstart : Text.stripPrefix "start " (statusCommand n) = none :=
    Text.stripPrefix_eq_none (Text.startsWith_eq_false hword (by decide) (by decide))
  have htrim : Text.trim (toString n) = toString n :=
    Text.trim_eq_self fun c hc => isWhiteSpace_of_mem_toString hc
  rw [PacketForwarder.proxyCommand, if_neg hne, hserver]
  simp only [hstart]
  rw [htext, Text.stripPrefix_append, Option.map_some, htrim]

end Commands

/-! ## The answers -/

/-- A packet that finds the world as it is, and whose answer can be written. -/
def surroundings (w : World) (startPr : UInt32 → Except String Unit) : Surroundings where
  backends := w.shared.backends
  instances := some w.shared.instances
  startPr := startPr
  sent := true

/-- What is answered to `/status n`. -/
def statusAnswer (sh : Shared) (n : UInt32) : String :=
  match K8sManager.getInstanceState sh.instances n with
  | some state => PacketForwarder.statusMessage n state
  | none =>
      if sh.backends.contains (backendName n) then
        s!"§a[Status] PR #{n} is running. Use §e/server pr-{n}§a to connect."
      else
        s!"§7[Status] PR #{n} is not running. Use §e/start {n}§7 to start it."

/-- The text advises to connect to PR `n`. -/
inductive AdvisesConnect (n : UInt32) : String → Prop where
  | announced :
      AdvisesConnect n s!"§a[Proxy] PR #{n} is ready! Use §e/{connectCommand n}§a to connect."
  | ready :
      AdvisesConnect n s!"§a[Status] PR #{n} is ready! Use §e/{connectCommand n}§a to connect."
  | running :
      AdvisesConnect n s!"§a[Status] PR #{n} is running. Use §e/{connectCommand n}§a to connect."

/-- The text advises to start PR `n`. -/
def AdvisesStart (n : UInt32) (message : String) : Prop :=
  message = s!"§7[Status] PR #{n} is not running. Use §e/{startCommand n}§7 to start it."

/-- The command to connect to PR `n` transfers the player to a registered backend, the one of the
PR if it is tracked. -/
structure Connects (ids : PacketIds) (config : ProxyConfig) (w : World) (f : PacketForwarder)
    (n : UInt32) : Prop where
  switched : ∀ packet startPr, Typed ids (connectCommand n) packet →
    f.handleClientPacket ids config (surroundings w startPr) packet =
      ⟨f, [.targetStored f.playerUuid (backendName n),
        .toClient (.transfer ⟨config.publicAddress, config.bindPort.toUInt32.toInt32⟩)],
          .ok .disconnect⟩
  found : ∃ backend, w.shared.backends.get (backendName n) = some backend ∧
    ∀ i, w.shared.instances.lookup n = some i →
      i.state.endpoint = some (backend.address, backend.port)

/-- The command to start PR `n` calls `start_pr`, which its checks of the stores do not stop. -/
structure Starts (ids : PacketIds) (config : ProxyConfig) (w : World) (f : PacketForwarder)
    (n : UInt32) : Prop where
  called : ∀ packet startPr, Typed ids (startCommand n) packet →
    f.handleClientPacket ids config (surroundings w startPr) packet =
      match startPr n with
      | .ok () => ⟨f, [], .ok .continue_⟩
      | .error e =>
          ⟨f, [.toClient (.systemChat s!"§cFailed to start PR #{n}: {e}")], .ok .continue_⟩
  startable : AtomicStarts.Startable w.shared n

/-- What a player is advised about PR `n` works: by the last notice, and by the answer to
`/status n`. -/
structure AdviceHolds (ids : PacketIds) (config : ProxyConfig) (w : World) (tr : List Event)
    (f : PacketForwarder) (n : UInt32) : Prop where
  announced : Lifecycle.lastNotice n tr = some true →
    AdvisesConnect n (Lifecycle.readyNotice n) ∧ Connects ids config w f n
  answered : ∀ packet startPr, Typed ids (statusCommand n) packet →
    f.handleClientPacket ids config (surroundings w startPr) packet =
      ⟨f, [.toClient (.systemChat (statusAnswer w.shared n))], .ok .continue_⟩
  connect : AdvisesConnect n (statusAnswer w.shared n) → Connects ids config w f n
  start : AdvisesStart n (statusAnswer w.shared n) → Starts ids config w f n

section Answers

variable {ids : PacketIds} {config : ProxyConfig} {w : World} {f : PacketForwarder} {n : UInt32}

/-- The connect command is printed behind the text that leads to it. -/
theorem readyNotice_eq_connectCommand (n : UInt32) :
    Lifecycle.readyNotice n =
      s!"§a[Proxy] PR #{n} is ready! Use §e/{connectCommand n}§a to connect." := by
  have hwords : " is ready! Use §e/server pr-" = " is ready! Use §e/" ++ "server pr-" := by simp
  have hnotice : Lifecycle.readyNotice n = "§a[Proxy] PR #" ++ toString n ++
      " is ready! Use §e/server pr-" ++ toString n ++ "§a to connect." := rfl
  have htext : s!"§a[Proxy] PR #{n} is ready! Use §e/{connectCommand n}§a to connect." =
      "§a[Proxy] PR #" ++ toString n ++ " is ready! Use §e/" ++ ("server pr-" ++ toString n) ++
        "§a to connect." := rfl
  rw [hnotice, htext, hwords]
  simp only [String.append_assoc]

theorem get_of_ready (hagrees : Lifecycle.Agrees w.shared) {i : PrInstance} {address : String}
    {port : UInt16} (hi : w.shared.instances.lookup n = some i)
    (hendpoint : i.state.endpoint = some (address, port)) :
    w.shared.backends.get (backendName n) = some ⟨address, port, some s!"PR #{n}"⟩ := by
  have hback : w.shared.backends.dynamicBackends.lookup (backendName n) =
      some ⟨address, port, some s!"PR #{n}"⟩ := by
    have h := hagrees n
    rw [Lifecycle.expectedBackend, Lifecycle.endpointOf, hi, Option.bind_some, hendpoint] at h
    exact h
  rw [BackendRegistry.get, hback]
  rfl

theorem connects_of_get (hplay : f.currentProtocol = .play) {backend : BackendServer}
    (hget : w.shared.backends.get (backendName n) = some backend)
    (hendpoint : ∀ i, w.shared.instances.lookup n = some i →
      i.state.endpoint = some (backend.address, backend.port)) : Connects ids config w f n where
  switched := by
    intro packet startPr htyped
    have hlength : (Wire.bytesOf (connectCommand n)).length < 2 ^ 31 :=
      length_bytesOf_command "server pr-" (by decide) n
    have hcontains : (surroundings w startPr).backends.contains (backendName n) = true := by
      rw [BackendRegistry.contains_eq_isSome_get]
      exact congrArg Option.isSome hget
    rw [handleClientPacket_of_typed hplay htyped hlength (proxyCommand_connectCommand n)]
    simp only [PacketForwarder.handleProxyCommand, PacketForwarder.switchServer]
    rw [if_pos hcontains, PacketForwarder.write_of_sent rfl]
  found := ⟨backend, hget, hendpoint⟩

theorem handle_statusCommand (hplay : f.currentProtocol = .play) {packet : RawPacket}
    (htyped : Typed ids (statusCommand n) packet) (startPr : UInt32 → Except String Unit) :
    f.handleClientPacket ids config (surroundings w startPr) packet =
      ⟨f, [.toClient (.systemChat (statusAnswer w.shared n))], .ok .continue_⟩ := by
  have hlength : (Wire.bytesOf (statusCommand n)).length < 2 ^ 31 :=
    length_bytesOf_command "status " (by decide) n
  rw [handleClientPacket_of_typed hplay htyped hlength (proxyCommand_statusCommand n)]
  have hinstances : (surroundings w startPr).instances = some w.shared.instances := rfl
  have hbackends : (surroundings w startPr).backends = w.shared.backends := rfl
  simp only [PacketForwarder.handleProxyCommand, PacketForwarder.handleStatusCommand,
    parseU32_toString, statusAnswer]
  rw [hinstances, hbackends]
  cases hstate : K8sManager.getInstanceState w.shared.instances n with
  | some state =>
      simp only [hstate]
      rfl
  | none =>
      simp only [hstate]
      cases w.shared.backends.contains (backendName n) with
      | true => rfl
      | false => rfl

theorem handle_startCommand (hplay : f.currentProtocol = .play) {packet : RawPacket}
    (htyped : Typed ids (startCommand n) packet) (startPr : UInt32 → Except String Unit) :
    f.handleClientPacket ids config (surroundings w startPr) packet =
      match startPr n with
      | .ok () => ⟨f, [], .ok .continue_⟩
      | .error e =>
          ⟨f, [.toClient (.systemChat s!"§cFailed to start PR #{n}: {e}")], .ok .continue_⟩ := by
  have hlength : (Wire.bytesOf (startCommand n)).length < 2 ^ 31 :=
    length_bytesOf_command "start " (by decide) n
  rw [handleClientPacket_of_typed hplay htyped hlength (proxyCommand_startCommand n)]
  simp only [PacketForwarder.handleProxyCommand, PacketForwarder.handleStartCommand,
    parseU32_toString, surroundings]
  cases startPr n with
  | ok u => rfl
  | error e => exact PacketForwarder.write_of_sent rfl

/-- The colour of an answer to `/status n`, and what it says about the stores. -/
inductive Coloured (sh : Shared) (n : UInt32) (message : String) : Prop where
  | tracked (i : PrInstance) (endpoint : String × UInt16) (hi : sh.instances.lookup n = some i)
      (hendpoint : i.state.endpoint = some endpoint)
      (hcolour : Text.startsWith "§a" message = true) : Coloured sh n message
  | registered (backend : BackendServer) (hi : sh.instances.lookup n = none)
      (hget : sh.backends.get (backendName n) = some backend)
      (hcolour : Text.startsWith "§a" message = true) : Coloured sh n message
  | idle (hstartable : AtomicStarts.Startable sh n)
      (hcolour : Text.startsWith "§7" message = true) : Coloured sh n message
  | waiting (hcolour : Text.startsWith "§e" message = true) : Coloured sh n message
  | stopping (hcolour : Text.startsWith "§c" message = true) : Coloured sh n message

theorem coloured_statusMessage {sh : Shared} {i : PrInstance}
    (hi : sh.instances.lookup n = some i) :
    Coloured sh n (PacketForwarder.statusMessage n i.state) := by
  cases hstate : i.state with
  | building startedAt buildUrl =>
      exact .waiting (Text.startsWith_append (Text.startsWith_append (by decide) _) _)
  | deploying imageTag =>
      exact .waiting (Text.startsWith_append (Text.startsWith_append (by decide) _) _)
  | starting deploymentName address port startedAt =>
      exact .waiting (Text.startsWith_append (Text.startsWith_append (by decide) _) _)
  | ready deploymentName address port readyAt shutdownAt =>
      exact .tracked i (address, port) hi (by rw [hstate]; rfl)
        (Text.startsWith_append (Text.startsWith_append (Text.startsWith_append
          (Text.startsWith_append (by decide) _) _) _) _)
  | shuttingDown deploymentName =>
      exact .stopping (Text.startsWith_append (Text.startsWith_append (by decide) _) _)
  | failed reason =>
      exact .stopping (Text.startsWith_append (Text.startsWith_append
        (Text.startsWith_append (by decide) _) _) _)

theorem coloured_statusAnswer (sh : Shared) (n : UInt32) :
    Coloured sh n (statusAnswer sh n) := by
  unfold statusAnswer K8sManager.getInstanceState
  cases hi : sh.instances.lookup n with
  | some i => exact coloured_statusMessage hi
  | none =>
      dsimp only [Option.map_none]
      split
      · rename_i hcontains
        rw [BackendRegistry.contains_eq_isSome_get] at hcontains
        obtain ⟨backend, hget⟩ := Option.isSome_iff_exists.1 hcontains
        exact .registered backend hi hget (Text.startsWith_append (Text.startsWith_append
          (Text.startsWith_append (Text.startsWith_append (by decide) _) _) _) _)
      · rename_i hcontains
        exact .idle ⟨hi, Bool.eq_false_iff.2 hcontains⟩ (Text.startsWith_append
          (Text.startsWith_append (Text.startsWith_append
            (Text.startsWith_append (by decide) _) _) _) _)

/-- A text has one colour. -/
theorem not_startsWith_of_startsWith {colour colour' message : String}
    (h : Text.startsWith colour message = true) (hne : Text.startsWith colour' colour = false)
    (hne' : Text.startsWith colour colour' = false) : Text.startsWith colour' message ≠ true := by
  rw [Text.startsWith_eq_false h hne hne']
  exact Bool.false_ne_true

theorem AdvisesConnect.startsWith {message : String} (h : AdvisesConnect n message) :
    Text.startsWith "§a" message = true := by
  cases h with
  | announced =>
      exact Text.startsWith_append (Text.startsWith_append (Text.startsWith_append
        (Text.startsWith_append (by decide) _) _) _) _
  | ready =>
      exact Text.startsWith_append (Text.startsWith_append (Text.startsWith_append
        (Text.startsWith_append (by decide) _) _) _) _
  | running =>
      exact Text.startsWith_append (Text.startsWith_append (Text.startsWith_append
        (Text.startsWith_append (by decide) _) _) _) _

theorem AdvisesStart.startsWith {message : String} (h : AdvisesStart n message) :
    Text.startsWith "§7" message = true := by
  rw [h]
  exact Text.startsWith_append (Text.startsWith_append (Text.startsWith_append
    (Text.startsWith_append (by decide) _) _) _) _

/-- The answer advises to connect to a PR that is registered. -/
theorem connects_of_statusAnswer (hplay : f.currentProtocol = .play)
    (hagrees : Lifecycle.Agrees w.shared) (h : AdvisesConnect n (statusAnswer w.shared n)) :
    Connects ids config w f n := by
  -- by its colour the answer is that of a `Ready` PR or of one that is registered only
  have hgreen := h.startsWith
  cases coloured_statusAnswer w.shared n with
  | tracked i endpoint hi hendpoint hcolour =>
      refine connects_of_get hplay (get_of_ready hagrees hi hendpoint) ?_
      intro i' hi'
      rw [hi] at hi'
      cases hi'
      exact hendpoint
  | registered backend hi hget hcolour =>
      refine connects_of_get hplay hget ?_
      intro i hi'
      rw [hi] at hi'
      cases hi'
  | idle hstartable hcolour =>
      exact absurd hgreen (not_startsWith_of_startsWith hcolour (by decide) (by decide))
  | waiting hcolour =>
      exact absurd hgreen (not_startsWith_of_startsWith hcolour (by decide) (by decide))
  | stopping hcolour =>
      exact absurd hgreen (not_startsWith_of_startsWith hcolour (by decide) (by decide))

/-- The answer advises to start a PR that is neither tracked nor registered. -/
theorem startable_of_statusAnswer (h : AdvisesStart n (statusAnswer w.shared n)) :
    AtomicStarts.Startable w.shared n := by
  -- only the last arm of the status command answers in grey
  have hgrey := h.startsWith
  cases coloured_statusAnswer w.shared n with
  | idle hstartable hcolour => exact hstartable
  | tracked i endpoint hi hendpoint hcolour =>
      exact absurd hgrey (not_startsWith_of_startsWith hcolour (by decide) (by decide))
  | registered backend hi hget hcolour =>
      exact absurd hgrey (not_startsWith_of_startsWith hcolour (by decide) (by decide))
  | waiting hcolour =>
      exact absurd hgrey (not_startsWith_of_startsWith hcolour (by decide) (by decide))
  | stopping hcolour =>
      exact absurd hgrey (not_startsWith_of_startsWith hcolour (by decide) (by decide))

end Answers

/-! ## Runs -/

/-- In every run after a recovery in which calls of one PR do not overlap and no backend is
registered whose shutdown time cannot be represented, what a player in the play phase is advised
about a PR works. -/
theorem advice_holds (ids : PacketIds) (config : ProxyConfig) (setup : Setup)
    (builds : PrBuilds) (deployments : KeyedMap String String)
    (services : KeyedMap String (Option Int32)) (loadError : Option String)
    (answers : PrBuild → RowAnswers) (sh : Shared) (result : Except String Nat)
    (labels : List Label) (w : World) (tr : List Event)
    (hrec : Recovery.recoverFromDb setup.kubernetes loadError answers
      (Shared.startUp config.backends builds deployments services) = some (sh, result))
    (hmeets : (Lifecycle.system setup).Meets
      (fun w label => Lifecycle.NoOverlap w label ∧ Lifecycle.DeadlineFits setup w label)
      (Lifecycle.started sh) labels)
    (hrun : (Lifecycle.system setup).exec (Lifecycle.started sh) labels = some (w, tr)) :
    ∀ f n, f.currentProtocol = .play → AdviceHolds ids config w tr f n := by
  intro f n hplay
  obtain ⟨hagrees, htold⟩ := Lifecycle.told_exec hrec hmeets hrun n
  refine ⟨fun hlast => ⟨?_, ?_⟩, ?_, ?_, ?_⟩
  · rw [readyNotice_eq_connectCommand]
    exact AdvisesConnect.announced
  · -- what was announced is registered, and only a `Ready` PR is
    obtain ⟨i, deploymentName, address, port, readyAt, shutdownAt, hi, hstate⟩ :=
      (Lifecycle.registryAgreement_of_agrees hagrees n).registered_iff_ready.1
        (htold.registered hlast)
    have hendpoint : i.state.endpoint = some (address, port) := by
      rw [hstate]
      rfl
    refine connects_of_get hplay (get_of_ready hagrees hi hendpoint) ?_
    intro i' hi'
    rw [hi] at hi'
    cases hi'
    exact hendpoint
  · exact fun packet startPr htyped => handle_statusCommand hplay htyped startPr
  · exact connects_of_statusAnswer hplay hagrees
  · exact fun h => ⟨fun packet startPr htyped => handle_startCommand hplay htyped startPr,
      startable_of_statusAnswer h⟩

/-- The stores when the sample configuration has been loaded and nothing was recovered. -/
def sampleRecovered : Shared :=
  { Shared.startUp sampleConfig.backends sampleBuilds ∅ ∅ with clientReady := true }

/-- A player asks after PR 7, which has been announced, and after PR 8. -/
theorem advice_holds_announcedSample :
    ∃ w tr, (Lifecycle.system Lifecycle.sampleSetup).exec (Lifecycle.started sampleRecovered)
        Lifecycle.announcedSample = some (w, tr) ∧
      (∀ f n, f.currentProtocol = .play →
        AdviceHolds PacketIds.sample sampleConfig w tr f n) ∧
      AdvisesConnect 7 (statusAnswer w.shared 7) ∧ AdvisesStart 8 (statusAnswer w.shared 8) := by
  -- the deployment of the row is not ready yet
  have hrec : Recovery.recoverFromDb Lifecycle.sampleSetup.kubernetes none
      (fun _ => { Lifecycle.readyAnswers with deployment := .ok ⟨some 0⟩ })
        (Shared.startUp sampleConfig.backends sampleBuilds ∅ ∅) =
          some (sampleRecovered, .ok 0) := by rfl
  have hfinal : ((Lifecycle.system Lifecycle.sampleSetup).exec (Lifecycle.started sampleRecovered)
      Lifecycle.announcedSample).map
        (fun p => (statusAnswer p.1.shared 7, statusAnswer p.1.shared 8)) =
      some ("§a[Status] PR #7 is ready! Use §e/server pr-7§a to connect.",
        "§7[Status] PR #8 is not running. Use §e/start 8§7 to start it.") := by decide +kernel
  obtain ⟨⟨w, tr⟩, hrun, heq⟩ := Option.map_eq_some_iff.1 hfinal
  obtain ⟨hseven, height⟩ := Prod.mk.inj heq
  refine ⟨w, tr, hrun, advice_holds PacketIds.sample sampleConfig Lifecycle.sampleSetup _ ∅ ∅ none
    _ _ _ _ w tr hrec (Lifecycle.meets_announcedSample _) hrun, ?_, ?_⟩
  · rw [hseven]
    exact AdvisesConnect.ready
  · rw [height]
    rfl

end Advice

end SteelProxy
