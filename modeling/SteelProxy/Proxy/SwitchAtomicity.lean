import SteelProxy.Proxy.Routing

/-!
# A switch and its pending target

`switch_server` stores the target of a player, then encodes and writes the Transfer packet. The
store is not undone when the Transfer fails, so a failed switch leaves the pending switches as they
were exactly when the player was to be redirected there already (`switch_atomic_iff`).
-/

set_option autoImplicit false

namespace SteelProxy

open SteelProxy.Library

namespace Routing

/-- The shared state after an effect of a handler. -/
def afterEffect (s : Routing) : Effect → Routing
  | .targetStored uuid server => s.setTargetServer uuid server
  | .toBackend _ => s
  | .toClient _ => s

/-- The result of `switch_server` on the shared state. -/
def switchHandled (config : ProxyConfig) (s : Routing) (f : PacketForwarder) (env : Surroundings)
    (serverName : String) : Handled :=
  f.switchServer config { env with backends := s.backends } serverName

/-- The shared state after `switch_server`. -/
def afterSwitch (config : ProxyConfig) (s : Routing) (f : PacketForwarder) (env : Surroundings)
    (serverName : String) : Routing :=
  (s.switchHandled config f env serverName).effects.foldl afterEffect s

/-- A Transfer packet was written. -/
def Transferred (h : Handled) : Prop := ∃ transfer, Effect.toClient (.transfer transfer) ∈ h.effects

/-- Without a Transfer every player would be redirected as before; a switch that succeeds changes
the target of its player only. -/
structure SwitchAtomic (config : ProxyConfig) (s : Routing) (f : PacketForwarder)
    (env : Surroundings) (serverName : String) : Prop where
  failed : ¬ Transferred (s.switchHandled config f env serverName) →
    ∀ uuid, (s.afterSwitch config f env serverName).pendingSwitches.lookup uuid =
      s.pendingSwitches.lookup uuid
  switched : (s.switchHandled config f env serverName).ending = .ok .disconnect →
    ∀ uuid, (s.afterSwitch config f env serverName).pendingSwitches.lookup uuid =
      if uuid = f.playerUuid then some serverName else s.pendingSwitches.lookup uuid

/-- If the server exists, then its Transfer is sent, or the player is to be redirected there
already. -/
def SentOrPending (s : Routing) (f : PacketForwarder) (env : Surroundings) (serverName : String) :
    Prop :=
  s.backends.contains serverName = true →
    env.sent = true ∨ s.pendingSwitches.lookup f.playerUuid = some serverName

variable {config : ProxyConfig} {s : Routing} {f : PacketForwarder} {env : Surroundings}
  {serverName : String}

theorem lookup_setTargetServer (s : Routing) (uuid k : Uuid) (server : String) :
    (s.setTargetServer uuid server).pendingSwitches.lookup k =
      if k = uuid then some server else s.pendingSwitches.lookup k :=
  KeyedMap.lookup_insert_ite s.pendingSwitches uuid k server

/-! ## The three exits -/

/-- An unknown server: a message at most. -/
theorem switchServer_unknown (h : s.backends.contains serverName = false) :
    (s.switchHandled config f env serverName).ending ≠ .ok .disconnect ∧
      s.afterSwitch config f env serverName = s := by
  have hhandled : s.switchHandled config f env serverName =
      f.sendSystemMessage { env with backends := s.backends } s!"Unknown server: {serverName}" := by
    simp [switchHandled, PacketForwarder.switchServer, h]
  rw [afterSwitch, hhandled]
  cases hsent : env.sent with
  | true => simp [PacketForwarder.sendSystemMessage, PacketForwarder.write, afterEffect]
  | false => simp [PacketForwarder.sendSystemMessage, PacketForwarder.write]

/-- A known server: the target is stored, whether the Transfer is written or not. -/
theorem afterSwitch_known (h : s.backends.contains serverName = true) :
    s.afterSwitch config f env serverName = s.setTargetServer f.playerUuid serverName := by
  cases hsent : env.sent with
  | true =>
      simp [afterSwitch, switchHandled, PacketForwarder.switchServer, PacketForwarder.write, h,
        hsent, afterEffect]
  | false =>
      simp [afterSwitch, switchHandled, PacketForwarder.switchServer, PacketForwarder.write, h,
        hsent, afterEffect]

theorem transferred_iff_sent (h : s.backends.contains serverName = true) :
    Transferred (s.switchHandled config f env serverName) ↔ env.sent = true := by
  cases hsent : env.sent with
  | true =>
      simp [Transferred, switchHandled, PacketForwarder.switchServer, PacketForwarder.write, h,
        hsent]
  | false =>
      simp [Transferred, switchHandled, PacketForwarder.switchServer, PacketForwarder.write, h,
        hsent]

/-! ## Atomicity -/

theorem switchAtomic_of_sentOrPending (h : SentOrPending s f env serverName) :
    SwitchAtomic config s f env serverName where
  failed := by
    intro hfailed uuid
    cases hknown : s.backends.contains serverName with
    | false => rw [(switchServer_unknown hknown).2]
    | true =>
        rw [transferred_iff_sent hknown] at hfailed
        -- the store writes what is there already
        have hpending := (h hknown).resolve_left hfailed
        rw [afterSwitch_known hknown, lookup_setTargetServer]
        by_cases huuid : uuid = f.playerUuid
        · rw [if_pos huuid, huuid, hpending]
        · rw [if_neg huuid]
  switched := by
    intro hending uuid
    cases hknown : s.backends.contains serverName with
    | false => exact absurd hending (switchServer_unknown hknown).1
    | true => rw [afterSwitch_known hknown, lookup_setTargetServer]

theorem sentOrPending_of_switchAtomic (h : SwitchAtomic config s f env serverName) :
    SentOrPending s f env serverName := by
  intro hknown
  cases hsent : env.sent with
  | true => exact Or.inl rfl
  | false =>
      have hnot : ¬ Transferred (s.switchHandled config f env serverName) := by
        rw [transferred_iff_sent hknown, hsent]
        exact Bool.false_ne_true
      have hkept := h.failed hnot f.playerUuid
      rw [afterSwitch_known hknown, lookup_setTargetServer, if_pos rfl] at hkept
      exact Or.inr hkept.symm

/-- A failed switch leaves the pending switches as they were, and a successful one changes the
target of its player only, if and only if the Transfer to an existing server is sent, or the
player was to be redirected to that server already. -/
theorem switch_atomic_iff (config : ProxyConfig) (s : Routing) (f : PacketForwarder)
    (env : Surroundings) (serverName : String) :
    SwitchAtomic config s f env serverName ↔ SentOrPending s f env serverName :=
  ⟨sentOrPending_of_switchAtomic, switchAtomic_of_sentOrPending⟩

/-- A connected player whose packets can no longer be written. -/
def strandedPlayer : PacketForwarder := .new 1 "lobby" none

/-- The write of the Transfer fails and the target stays. -/
theorem failed_switch_stays_pending :
    ¬ SwitchAtomic sampleConfig (start sampleConfig) strandedPlayer
      { Surroundings.sample with sent := false } "master" := by
  intro h
  have hsent := sentOrPending_of_switchAtomic h
  revert hsent
  rw [SentOrPending]
  decide

end Routing

end SteelProxy
