import SteelProxy.Proxy.ForwarderEffects

/-!
# The phase of the proxy's own packets

The packets that the proxy originates are encoded with ids of the play phase. The replies to
commands and the command tree are guarded by the phase; the broadcast branch of the loop is not.
A run writes no such packet before the client's `S_FINISH_CONFIGURATION` exactly when no
broadcast is written while the forwarder is in the configuration phase.
-/

set_option autoImplicit false

namespace SteelProxy

open SteelProxy.Library SteelProxy.Library.Transition

namespace ForwardEvent

/-- A packet that the proxy itself originates is written to the client. -/
def isOriginated : ForwardEvent → Bool
  | .effect (.toClient (.forwarded _)) => false
  | .effect (.toClient _) => true
  | _ => false

/-- The client's `S_FINISH_CONFIGURATION` is handled. -/
def isFinish (ids : PacketIds) : ForwardEvent → Bool
  | .clientHandled _ packet => packet.id = ids.configFinishConfiguration
  | _ => false

/-- The configuration is finished by the events of a trace. -/
def Finished (ids : PacketIds) (tr : List ForwardEvent) : Prop := ∃ e ∈ tr, isFinish ids e = true

/-- An originated packet is written after the client's `S_FINISH_CONFIGURATION` was handled. -/
def AfterFinish (ids : PacketIds) (pre : List ForwardEvent) (e : ForwardEvent) : Prop :=
  isOriginated e = true → Finished ids pre

end ForwardEvent

namespace Forwarding

open PacketForwarder ForwardEvent

/-- A broadcast that is written finds the forwarder in the play phase. -/
def GuardedBroadcast (s : Forwarding) (input : Input) : Prop :=
  ∀ message env, input = .broadcast (some message) env → s.run = .forwarding → env.sent = true →
    s.forwarder.currentProtocol = .play

section Finish

variable {ids : PacketIds} {tr t : List ForwardEvent}

theorem finished_append_iff : Finished ids (tr ++ t) ↔ Finished ids tr ∨ Finished ids t := by
  constructor
  · rintro ⟨e, he, hfinish⟩
    rcases List.mem_append.1 he with he | he
    · exact Or.inl ⟨e, he, hfinish⟩
    · exact Or.inr ⟨e, he, hfinish⟩
  · rintro (⟨e, he, hfinish⟩ | ⟨e, he, hfinish⟩)
    · exact ⟨e, List.mem_append_left t he, hfinish⟩
    · exact ⟨e, List.mem_append_right tr he, hfinish⟩

/-- Once the configuration is finished, every packet may be originated. -/
theorem justified_of_finished (h : Finished ids tr) :
    Justified (fun pre => AfterFinish ids (tr ++ pre)) t := by
  intro pre e post heq horiginated
  exact finished_append_iff.2 (Or.inl h)

theorem justified_of_not_originated (h : ∀ e ∈ t, isOriginated e = false) :
    Justified (fun pre => AfterFinish ids (tr ++ pre)) t := by
  rintro pre e post rfl horiginated
  rw [h e (by simp)] at horiginated
  cases horiginated

end Finish

/-- In the loop, the tracked phase is the play phase exactly when the configuration is
finished. -/
def PhaseTracked (ids : PacketIds) (s : Forwarding) (tr : List ForwardEvent) : Prop :=
  s.run = .forwarding → (s.forwarder.currentProtocol = .play ↔ Finished ids tr)

section Runs

variable {ids : PacketIds} {config : ProxyConfig} {s s' : Forwarding} {input : Input}
  {tr t : List ForwardEvent}

theorem guarded_of_not_broadcast (h : ∀ message env, input ≠ .broadcast message env) :
    GuardedBroadcast s input :=
  fun message env heq => absurd heq (h (some message) env)

theorem tracked_of_left (hleft : s.run ≠ .forwarding) : PhaseTracked ids s tr :=
  fun hrun => absurd hrun hleft

/-- A step that handles no `S_FINISH_CONFIGURATION` and keeps the phase. -/
theorem PhaseTracked.keep (h : PhaseTracked ids s tr) (hrun : s.run = .forwarding)
    (hprotocol : s'.forwarder.currentProtocol = s.forwarder.currentProtocol)
    (ht : ∀ e ∈ t, isFinish ids e = false) : PhaseTracked ids s' (tr ++ t) := by
  intro _
  have hnot : ¬ Finished ids t := by
    rintro ⟨e, he, hfinish⟩
    rw [ht e he] at hfinish
    cases hfinish
  rw [hprotocol, h hrun, finished_append_iff]
  exact ⟨Or.inl, fun hfinished => hfinished.resolve_right hnot⟩

/-- A step in the play phase that stays in it. -/
theorem PhaseTracked.play (h : PhaseTracked ids s tr) (hrun : s.run = .forwarding)
    (hphase : s.forwarder.currentProtocol = .play)
    (hphase' : s'.forwarder.currentProtocol = .play) : PhaseTracked ids s' (tr ++ t) := by
  intro _
  have hfinished : Finished ids tr := (h hrun).1 hphase
  exact ⟨fun _ => finished_append_iff.2 (Or.inl hfinished), fun _ => hphase'⟩

/-- The phase after a forwarded client packet. -/
theorem currentProtocol_trackClientPacket (f : PacketForwarder) (packet : RawPacket) :
    (f.trackClientPacket ids packet).currentProtocol = .play ↔
      f.currentProtocol = .play ∨ packet.id = ids.configFinishConfiguration := by
  rw [trackClientPacket]
  by_cases hid : packet.id = ids.configFinishConfiguration
  · rw [if_pos hid]
    exact ⟨fun _ => Or.inr hid, fun _ => rfl⟩
  · rw [if_neg hid]
    exact ⟨Or.inl, fun h => h.resolve_right hid⟩

/-- One iteration of the loop keeps the tracked phase, and its packets respect the phase exactly
when it is not an unguarded broadcast. -/
theorem phaseTracked_step (h : PhaseTracked ids s tr)
    (hstep : (system ids config).step s input = some (s', t)) :
    PhaseTracked ids s' (tr ++ t) ∧
      (Justified (fun pre => AfterFinish ids (tr ++ pre)) t ↔ GuardedBroadcast s input) := by
  cases stepped_of_step hstep with
  | closed _ f' hcompression hends hnone =>
      refine ⟨tracked_of_left (by simp), iff_of_true justified_nil ?_⟩
      apply guarded_of_not_broadcast
      rintro message env rfl
      exact hends
  | abandoned packet env serverName hrun hsent hfound =>
      refine ⟨tracked_of_left (by simp), iff_of_true ?_ ?_⟩
      · exact justified_of_not_originated (by simp [isOriginated])
      · exact guarded_of_not_broadcast (by simp)
  | ignored _ hidle =>
      rw [List.append_nil]
      refine ⟨h, iff_of_true justified_nil ?_⟩
      rintro message env rfl _ hsent
      rw [hidle.2] at hsent
      cases hsent
  | answered packet env replies hrun hphase hyes hnone =>
      -- commands are intercepted in the play phase only, so their replies come after the finish
      refine ⟨h.play hrun hphase hphase, iff_of_true ?_ ?_⟩
      · exact justified_of_finished ((h hrun).1 hphase)
      · exact guarded_of_not_broadcast (by simp)
  | transferred packet env serverName transfer hrun hsent hfound hphase hyes =>
      refine ⟨h.play hrun hphase hphase, iff_of_true ?_ ?_⟩
      · exact justified_of_finished ((h hrun).1 hphase)
      · exact guarded_of_not_broadcast (by simp)
  | sentOn packet env hrun hsent hparses hnot =>
      refine ⟨?_, iff_of_true ?_ ?_⟩
      · intro _
        have hfinished : Finished ids
            [.clientHandled s.forwarder.currentProtocol packet,
              .effect (.toBackend (packet.frame s.forwarder.compression))] ↔
            packet.id = ids.configFinishConfiguration := by
          simp [Finished, isFinish]
        rw [currentProtocol_trackClientPacket, finished_append_iff, hfinished, h hrun]
      · exact justified_of_not_originated (by simp [isOriginated])
      · exact guarded_of_not_broadcast (by simp)
  | replaced packet env hrun hsent hphase hid =>
      refine ⟨h.play hrun hphase hphase, iff_of_true ?_ ?_⟩
      · exact justified_of_finished ((h hrun).1 hphase)
      · exact guarded_of_not_broadcast (by simp)
  | passedBack packet env f' hrun hsent hprotocol hcompression hplayer hnot =>
      refine ⟨h.keep hrun hprotocol (by simp [isFinish]), iff_of_true ?_ ?_⟩
      · exact justified_of_not_originated (by simp [isOriginated])
      · exact guarded_of_not_broadcast (by simp)
  | broadcast message env hrun hsent =>
      -- the one branch without a guard: here the tracked phase decides
      refine ⟨h.keep hrun rfl (by simp [isFinish]), ?_⟩
      rw [justified_cons_iff]
      constructor
      · rintro ⟨hfirst, -⟩ message' env' heq _ _
        have hfinished := hfirst rfl
        rw [List.append_nil] at hfinished
        exact (h hrun).2 hfinished
      · intro hguarded
        have hphase := hguarded message env rfl hrun hsent
        refine ⟨?_, justified_nil⟩
        intro _
        rw [List.append_nil]
        exact (h hrun).1 hphase
  | drained packet env hrun hsent =>
      refine ⟨tracked_of_left (by simp [hrun]), iff_of_true ?_ ?_⟩
      · exact justified_of_not_originated (by simp [isOriginated])
      · exact guarded_of_not_broadcast (by simp)
  | dropped packet env hrun hsent =>
      refine ⟨tracked_of_left (by simp [hrun]), iff_of_true ?_ ?_⟩
      · exact justified_of_not_originated (by simp [isOriginated])
      · exact guarded_of_not_broadcast (by simp)

end Runs

/-- In a run of a new forwarder, the packets that the proxy originates respect the phase exactly
when no broadcast is written in the configuration phase. -/
theorem originated_after_finish_iff (ids : PacketIds) (config : ProxyConfig) (playerUuid : Uuid)
    (currentBackend : String) (threshold : Option UInt32) (inputs : List Input) (s : Forwarding)
    (tr : List ForwardEvent)
    (hrun : (system ids config).exec (start (new playerUuid currentBackend threshold)) inputs =
      some (s, tr)) :
    Justified (AfterFinish ids) tr ↔
      (system ids config).Meets GuardedBroadcast
        (start (new playerUuid currentBackend threshold)) inputs := by
  have hinit : PhaseTracked ids (start (new playerUuid currentBackend threshold)) [] := by
    intro _
    simp [start, new, Finished]
  exact justified_iff_meets (system ids config)
    (fun _ _ _ _ _ h hstep => phaseTracked_step h hstep) hinit hrun

/-- A broadcast after the configuration is finished. -/
theorem originated_after_finish_sample :
    Justified (AfterFinish .sample)
      [.clientHandled .config ⟨3, []⟩, .effect (.toBackend ⟨[3], none⟩),
        .effect (.toClient (.systemChat "hello"))] := by
  have hevents : ((system .sample sampleConfig).exec (start (new 0 "master" none))
      [.client ⟨3, []⟩ .sample, .broadcast (some "hello") .sample]).map Prod.snd =
      some [.clientHandled .config ⟨3, []⟩, .effect (.toBackend ⟨[3], none⟩),
        .effect (.toClient (.systemChat "hello"))] := by decide +kernel
  obtain ⟨s, hrun⟩ := System.exists_exec_of_events _ hevents
  apply (originated_after_finish_iff .sample sampleConfig 0 "master" none _ s _ hrun).2
  refine ⟨?_, ?_, trivial⟩
  · intro message env heq
    cases heq
  · intro message env _ _ _
    rfl

/-- A broadcast reaches a player who is still in the configuration phase. -/
theorem broadcast_in_configuration :
    ¬ ∀ (ids : PacketIds) (config : ProxyConfig) (playerUuid : Uuid) (currentBackend : String)
      (threshold : Option UInt32) (inputs : List Input) (s : Forwarding)
      (tr : List ForwardEvent),
      (system ids config).exec (start (new playerUuid currentBackend threshold)) inputs =
        some (s, tr) → Justified (AfterFinish ids) tr := by
  intro hall
  have hjustified := hall .sample sampleConfig 0 "master" none
    [.broadcast (some "hello") .sample] (start (new 0 "master" none))
    [.effect (.toClient (.systemChat "hello"))] rfl
  -- nothing precedes the broadcast
  obtain ⟨e, he, -⟩ := hjustified [] _ [] rfl rfl
  cases he

end Forwarding

end SteelProxy
