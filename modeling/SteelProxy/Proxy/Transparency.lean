import SteelProxy.Proxy.ForwarderEffects

/-!
# Transparent, ordered forwarding

What a run of the forwarder writes is a function of the packets it handled: to the backend the
client's packets that are not intercepted, to the client the backend's packets with the command
tree in the place of a commands packet. In the loop the handled packets are the received ones, in
order and each in the phase that the packets before it lead to; after a Transfer the packets of
the backend are drained, and only these are written.
-/

set_option autoImplicit false

namespace SteelProxy

open SteelProxy.Library SteelProxy.Library.Transition

/-- The packet of an input from the client. -/
def Input.clientPacket : Input → Option RawPacket
  | .client packet _ => some packet
  | _ => none

/-- The packet of an input from the backend. -/
def Input.backendPacket : Input → Option RawPacket
  | .backend packet _ => some packet
  | _ => none

namespace Input

open PacketForwarder

/-! ## What is received -/

/-- The phase after an input of the loop. -/
def nextPhase (ids : PacketIds) (phase : ConnectionProtocol) : Input → ConnectionProtocol
  | .client packet _ => if packet.id = ids.configFinishConfiguration then .play else phase
  | _ => phase

/-- The phase of a new session after the inputs of its loop. -/
def phaseAfter (ids : PacketIds) (inputs : List Input) : ConnectionProtocol :=
  inputs.foldl (nextPhase ids) .config

/-- The packet of an input of the loop, with the phase in which it arrives. -/
def receipt (phase : ConnectionProtocol) : Input → Option ForwardEvent
  | .client packet _ => some (.clientHandled phase packet)
  | .backend packet _ => some (.backendHandled phase packet)
  | _ => none

/-- The packets received in the loop. -/
def received (ids : PacketIds) : ConnectionProtocol → List Input → List ForwardEvent
  | _, [] => []
  | phase, input :: inputs =>
      (input.receipt phase).toList ++ received ids (nextPhase ids phase input) inputs

/-- The packet of an input of the drain, with the success of its write. -/
def drainReceipt : Input → Option ForwardEvent
  | .backend packet env => some (.drained packet env.sent)
  | _ => none

/-- The loop goes on after the input: what is written for a packet is sent, the parser does not
panic, and the packet names no server of the registry. -/
def Passes (ids : PacketIds) (phase : ConnectionProtocol) : Input → Prop
  | .backend _ env => env.sent = true
  | .client packet env =>
      (intercepted ids phase packet = true ∨ env.sent = true) ∧ ¬ Panics ids phase packet ∧
        (switchTarget ids phase packet).filter env.backends.contains = none
  | .broadcast _ _ => True
  | _ => False

/-- The input may end the loop: a write or a reader fails, or the parser panics. -/
def Fails (ids : PacketIds) (phase : ConnectionProtocol) : Input → Prop
  | .backend _ env => env.sent = false
  | .client packet env => env.sent = false ∨ Panics ids phase packet
  | .backendFailed => True
  | .clientFailed => True
  | _ => False

end Input

namespace ForwardEvent

/-! ## What is handled -/

/-- A packet was handled or drained. -/
def isReceipt : ForwardEvent → Bool
  | .effect _ => false
  | _ => true

/-- A handled client packet that is not intercepted. -/
def forwardedPacket (ids : PacketIds) : ForwardEvent → Option RawPacket
  | .clientHandled phase packet =>
      if PacketForwarder.intercepted ids phase packet = true then none else some packet
  | _ => none

/-- What the client gets for a backend packet: the command tree for a commands packet handled in
the play phase, and otherwise the packet itself. A drained packet may fail to be written. -/
def passedOn (ids : PacketIds) : ForwardEvent → Option ClientWrite
  | .backendHandled phase packet =>
      some (if phase = .play ∧ packet.id = ids.playCommands then .commands buildCommands
        else .forwarded (packet.frame none))
  | .drained packet true => some (.forwarded (packet.frame none))
  | _ => none

/-- The backend packet that the client gets unchanged. -/
def passedPacket (ids : PacketIds) : ForwardEvent → Option RawPacket
  | .backendHandled phase packet =>
      if phase = .play ∧ packet.id = ids.playCommands then none else some packet
  | .drained packet true => some packet
  | _ => none

/-- The drained packet that reaches the client. -/
def drainedOn : ForwardEvent → Option ClientWrite
  | .drained packet true => some (.forwarded (packet.frame none))
  | _ => none

/-! ## What is written -/

/-- A frame written to the backend. -/
def backendWrite : ForwardEvent → Option EncodedPacket
  | .effect (.toBackend frame) => some frame
  | _ => none

/-- Anything written to the client. -/
def clientWrite : ForwardEvent → Option ClientWrite
  | .effect (.toClient w) => some w
  | _ => none

/-- What is written to the client apart from system messages and Transfers. -/
def passedWrite : ForwardEvent → Option ClientWrite
  | .effect (.toClient (.forwarded frame)) => some (.forwarded frame)
  | .effect (.toClient (.commands tree)) => some (.commands tree)
  | _ => none

section Readings

variable {ids : PacketIds} {phase : ConnectionProtocol} {packet : RawPacket}

theorem forwardedPacket_of_intercepted
    (hyes : PacketForwarder.intercepted ids phase packet = true) :
    forwardedPacket ids (.clientHandled phase packet) = none := by
  rw [forwardedPacket, if_pos hyes]

theorem forwardedPacket_of_not_intercepted
    (hnot : PacketForwarder.intercepted ids phase packet = false) :
    forwardedPacket ids (.clientHandled phase packet) = some packet := by
  rw [forwardedPacket, hnot, if_neg Bool.false_ne_true]

theorem passedOn_of_commands (hphase : phase = .play) (hid : packet.id = ids.playCommands) :
    passedOn ids (.backendHandled phase packet) = some (.commands buildCommands) := by
  rw [passedOn, if_pos ⟨hphase, hid⟩]

theorem passedOn_of_not_commands (hnot : ¬ (phase = .play ∧ packet.id = ids.playCommands)) :
    passedOn ids (.backendHandled phase packet) = some (.forwarded (packet.frame none)) := by
  rw [passedOn, if_neg hnot]

/-- The client reads back what is passed on unchanged. -/
theorem read_passedOn (e : ForwardEvent) :
    (passedOn ids e).bind ClientWrite.read = passedPacket ids e := by
  cases e with
  | clientHandled phase packet => rfl
  | backendHandled phase packet =>
      rw [passedOn, passedPacket]
      by_cases hcommands : phase = .play ∧ packet.id = ids.playCommands
      · rw [if_pos hcommands, if_pos hcommands]
        rfl
      · rw [if_neg hcommands, if_neg hcommands]
        exact EncodedPacket.read_frame packet none
  | drained packet sent =>
      cases sent with
      | true => exact EncodedPacket.read_frame packet none
      | false => rfl
  | effect effect => rfl

end Readings

end ForwardEvent

namespace Forwarding

open PacketForwarder ForwardEvent

/-! ## Blocks of events -/

/-- The writes of a trace are those that its handled packets ask for. -/
structure Transparent (ids : PacketIds) (compression : Option CompressionInfo)
    (tr : List ForwardEvent) : Prop where
  toBackend : tr.filterMap backendWrite =
    (tr.filterMap (forwardedPacket ids)).map fun packet => packet.frame compression
  toClient : tr.filterMap passedWrite = tr.filterMap (passedOn ids)
  backendAfterTransfer : (eventsAfter isTransfer tr).filterMap backendWrite = []
  clientAfterTransfer : (eventsAfter isTransfer tr).filterMap clientWrite =
    (eventsAfter isTransfer tr).filterMap drainedOn

section Blocks

variable {ids : PacketIds} {compression : Option CompressionInfo} {tr t : List ForwardEvent}

theorem transparent_nil : Transparent ids compression [] := ⟨rfl, rfl, rfl, rfl⟩

/-- Before a Transfer, transparent blocks compose. -/
theorem Transparent.append (h : Transparent ids compression tr)
    (hno : ∀ e ∈ tr, isTransfer e = false) (ht : Transparent ids compression t) :
    Transparent ids compression (tr ++ t) where
  toBackend := by
    rw [List.filterMap_append, List.filterMap_append, List.map_append, h.toBackend, ht.toBackend]
  toClient := by
    rw [List.filterMap_append, List.filterMap_append, h.toClient, ht.toClient]
  backendAfterTransfer := by
    rw [eventsAfter_append_of_forall hno]
    exact ht.backendAfterTransfer
  clientAfterTransfer := by
    rw [eventsAfter_append_of_forall hno]
    exact ht.clientAfterTransfer

/-- After a Transfer, a transparent block that writes drained packets only may follow. -/
theorem Transparent.append_drained (h : Transparent ids compression tr)
    (hyes : ∃ e ∈ tr, isTransfer e = true) (ht : Transparent ids compression t)
    (hbackend : t.filterMap backendWrite = [])
    (hclient : t.filterMap clientWrite = t.filterMap drainedOn) :
    Transparent ids compression (tr ++ t) where
  toBackend := by
    rw [List.filterMap_append, List.filterMap_append, List.map_append, h.toBackend, ht.toBackend]
  toClient := by
    rw [List.filterMap_append, List.filterMap_append, h.toClient, ht.toClient]
  backendAfterTransfer := by
    rw [eventsAfter_append_of_exists hyes, List.filterMap_append, h.backendAfterTransfer, hbackend,
      List.append_nil]
  clientAfterTransfer := by
    rw [eventsAfter_append_of_exists hyes, List.filterMap_append, List.filterMap_append,
      h.clientAfterTransfer, hclient]

/-- A block without a Transfer is transparent if its writes are those asked for. -/
theorem transparent_of_forall (hno : ∀ e ∈ t, isTransfer e = false)
    (hbackend : t.filterMap backendWrite =
      (t.filterMap (forwardedPacket ids)).map fun packet => packet.frame compression)
    (hclient : t.filterMap passedWrite = t.filterMap (passedOn ids)) :
    Transparent ids compression t where
  toBackend := hbackend
  toClient := hclient
  backendAfterTransfer := by rw [eventsAfter_eq_nil hno, List.filterMap_nil]
  clientAfterTransfer := by rw [eventsAfter_eq_nil hno, List.filterMap_nil, List.filterMap_nil]

/-- What does not read system messages finds nothing in them. -/
theorem filterMap_systemChats {β : Type} {g : ForwardEvent → Option β}
    (hg : ∀ message, g (.effect (.toClient (.systemChat message))) = none)
    (messages : List String) :
    (messages.map fun message =>
      ForwardEvent.effect (.toClient (.systemChat message))).filterMap g = [] := by
  rw [List.filterMap_eq_nil_iff]
  intro e he
  obtain ⟨message, -, rfl⟩ := List.mem_map.1 he
  exact hg message

end Blocks

/-! ## Runs -/

/-- The invariant of the loop: transparency so far, and where the run stands with the Transfer. -/
structure Relaying (ids : PacketIds) (compression : Option CompressionInfo) (s : Forwarding)
    (tr : List ForwardEvent) : Prop where
  sameCompression : s.forwarder.compression = compression
  transparent : Transparent ids compression tr
  forwarding : s.run = .forwarding → ∀ e ∈ tr, isTransfer e = false
  draining : s.run = .draining → ∃ e ∈ tr, isTransfer e = true

section Runs

variable {ids : PacketIds} {config : ProxyConfig} {compression : Option CompressionInfo}
  {s s' : Forwarding} {input : Input} {tr t : List ForwardEvent}

/-- A step of the loop that does not leave it, and writes no Transfer. -/
theorem Relaying.forward {f' : PacketForwarder} (h : Relaying ids compression s tr)
    (hrun : s.run = .forwarding) (hcompression : f'.compression = s.forwarder.compression)
    (hno : ∀ e ∈ t, isTransfer e = false) (ht : Transparent ids compression t) :
    Relaying ids compression ⟨f', .forwarding⟩ (tr ++ t) where
  sameCompression := hcompression.trans h.sameCompression
  transparent := h.transparent.append (h.forwarding hrun) ht
  forwarding _ := by
    intro e he
    rcases List.mem_append.1 he with he | he
    · exact h.forwarding hrun e he
    · exact hno e he
  draining hdraining := by cases hdraining

/-- A step of the loop that leaves the forwarder as it is, and writes no Transfer. -/
theorem Relaying.stay (h : Relaying ids compression s tr) (hrun : s.run = .forwarding)
    (hno : ∀ e ∈ t, isTransfer e = false) (ht : Transparent ids compression t) :
    Relaying ids compression s (tr ++ t) := by
  have hnext := h.forward hrun rfl hno ht
  rwa [← hrun] at hnext

/-- A step of the drain. -/
theorem Relaying.drain (h : Relaying ids compression s tr) (hrun : s.run = .draining)
    (ht : Transparent ids compression t) (hbackend : t.filterMap backendWrite = [])
    (hclient : t.filterMap clientWrite = t.filterMap drainedOn) :
    Relaying ids compression s (tr ++ t) where
  sameCompression := h.sameCompression
  transparent := h.transparent.append_drained (h.draining hrun) ht hbackend hclient
  forwarding hforwarding := by
    rw [hrun] at hforwarding
    cases hforwarding
  draining _ := by
    obtain ⟨e, he, htransfer⟩ := h.draining hrun
    exact ⟨e, List.mem_append_left t he, htransfer⟩

/-- One iteration of the loop keeps the invariant. -/
theorem relaying_step (h : Relaying ids compression s tr)
    (hstep : (system ids config).step s input = some (s', t)) :
    Relaying ids compression s' (tr ++ t) := by
  cases stepped_of_step hstep with
  | closed _ f' hcompression hends hnone =>
      rw [List.append_nil]
      exact ⟨hcompression.trans h.sameCompression, h.transparent, by simp, by simp⟩
  | abandoned packet env serverName hrun hsent hfound =>
      -- the target was stored and the write of the Transfer failed
      refine ⟨h.sameCompression, ?_, by simp, by simp⟩
      exact h.transparent.append (h.forwarding hrun)
        (transparent_of_forall (by simp [isTransfer]) rfl rfl)
  | ignored _ hidle =>
      rw [List.append_nil]
      exact h
  | answered packet env replies hrun hphase hyes hnone =>
      -- an intercepted packet asks for no write, and a reply is a system message
      refine h.stay hrun (by simp [isTransfer]) (transparent_of_forall (by simp [isTransfer]) ?_ ?_)
      · rw [List.filterMap_cons_none rfl, filterMap_systemChats fun _ => rfl,
          List.filterMap_cons_none (forwardedPacket_of_intercepted hyes),
          filterMap_systemChats fun _ => rfl, List.map_nil]
      · rw [List.filterMap_cons_none rfl, filterMap_systemChats fun _ => rfl,
          List.filterMap_cons_none rfl, filterMap_systemChats fun _ => rfl]
  | transferred packet env serverName transfer hrun hsent hfound hphase hyes =>
      -- the Transfer is the last event of the step, so nothing follows it yet
      have htransparent : Transparent ids compression
          [.clientHandled s.forwarder.currentProtocol packet,
            .effect (.targetStored s.forwarder.playerUuid serverName),
            .effect (.toClient (.transfer transfer))] := by
        refine ⟨?_, rfl, rfl, rfl⟩
        rw [List.filterMap_cons_none (forwardedPacket_of_intercepted hyes)]
        rfl
      exact ⟨h.sameCompression, h.transparent.append (h.forwarding hrun) htransparent, by simp,
        fun _ => ⟨.effect (.toClient (.transfer transfer)), by simp, rfl⟩⟩
  | sentOn packet env hrun hsent hparses hnot =>
      refine h.forward hrun (compression_trackClientPacket ids _ packet) (by simp [isTransfer])
        (transparent_of_forall (by simp [isTransfer]) ?_ rfl)
      rw [List.filterMap_cons_some (forwardedPacket_of_not_intercepted hnot), ← h.sameCompression]
      rfl
  | replaced packet env hrun hsent hphase hid =>
      refine h.stay hrun (by simp [isTransfer]) (transparent_of_forall (by simp [isTransfer]) rfl ?_)
      rw [List.filterMap_cons_some (passedOn_of_commands hphase hid)]
      rfl
  | passedBack packet env f' hrun hsent hprotocol hcompression hplayer hnot =>
      refine h.forward hrun hcompression (by simp [isTransfer])
        (transparent_of_forall (by simp [isTransfer]) rfl ?_)
      rw [List.filterMap_cons_some (passedOn_of_not_commands hnot)]
      rfl
  | broadcast message env hrun hsent =>
      exact h.stay hrun (by simp [isTransfer]) (transparent_of_forall (by simp [isTransfer]) rfl rfl)
  | drained packet env hrun hsent =>
      exact h.drain hrun (transparent_of_forall (by simp [isTransfer]) rfl rfl) rfl rfl
  | dropped packet env hrun hsent =>
      exact h.drain hrun (transparent_of_forall (by simp [isTransfer]) rfl rfl) rfl rfl

theorem not_step_closed (hclosed : s.run = .closed) :
    (system ids config).step s input = none := by
  obtain ⟨f, run⟩ := s
  cases hclosed
  cases input <;> rfl

/-- The invariant holds in every run of a new session. -/
theorem relaying_run {playerUuid : Uuid} {currentBackend : String} {threshold : Option UInt32}
    {inputs : List Input}
    (hrun : (system ids config).exec (start (new playerUuid currentBackend threshold)) inputs =
      some (s, tr)) :
    Relaying ids (threshold.map fun threshold => ⟨threshold, 4⟩) s tr := by
  have hinit : Relaying ids (threshold.map fun threshold => ⟨threshold, 4⟩)
      (start (new playerUuid currentBackend threshold)) [] :=
    ⟨rfl, transparent_nil, by simp, by simp [start]⟩
  exact (system ids config).exec_invariant
    (fun _ _ _ _ _ h (_ : True) hstep => relaying_step h hstep) hinit
    ((system ids config).meets_of_forall (fun _ _ _ => trivial) _) hrun

end Runs

/-! ## The handled packets -/

/-- `Course ids run inputs handled`: a session that has received `inputs` is at `run` and has
handled `handled`. In the loop that is every received packet, in the phase in which it arrived;
the drain begins with a `/server` command whose target is in the registry and whose Transfer is
sent; the run is closed by one last input. -/
inductive Course (ids : PacketIds) : RunState → List Input → List ForwardEvent → Prop where
  | forwarding (inputs : List Input)
      (hpasses : Justified (fun pre input => input.Passes ids (Input.phaseAfter ids pre)) inputs) :
      Course ids .forwarding inputs (Input.received ids .config inputs)
  | draining (before : List Input) (packet : RawPacket) (env : Surroundings)
      (serverName : String) (after : List Input)
      (hloop : Course ids .forwarding before (Input.received ids .config before))
      (hfound : (switchTarget ids (Input.phaseAfter ids before) packet).filter
        env.backends.contains = some serverName) (hsent : env.sent = true) :
      Course ids .draining (before ++ .client packet env :: after)
        (Input.received ids .config before ++
          .clientHandled (Input.phaseAfter ids before) packet ::
            after.filterMap Input.drainReceipt)
  | failed (inputs : List Input) (handled : List ForwardEvent) (last : Input)
      (hloop : Course ids .forwarding inputs handled)
      (hlast : last.Fails ids (Input.phaseAfter ids inputs)) :
      Course ids .closed (inputs ++ [last]) handled
  | left (inputs : List Input) (handled : List ForwardEvent) (last : Input)
      (hdrain : Course ids .draining inputs handled)
      (hlast : last = .clientFailed ∨ last = .timeout) :
      Course ids .closed (inputs ++ [last]) handled

section Course

variable {ids : PacketIds} {config : ProxyConfig} {s s' : Forwarding} {input : Input}
  {inputs : List Input} {handled tr t : List ForwardEvent}

theorem phaseAfter_append_one :
    Input.phaseAfter ids (inputs ++ [input]) =
      input.nextPhase ids (Input.phaseAfter ids inputs) := by
  rw [Input.phaseAfter, List.foldl_append]
  rfl

theorem received_append_one (phase : ConnectionProtocol) :
    Input.received ids phase (inputs ++ [input]) =
      Input.received ids phase inputs ++
        (input.receipt (inputs.foldl (Input.nextPhase ids) phase)).toList := by
  induction inputs generalizing phase with
  | nil => simp [Input.received]
  | cons i inputs ih =>
      rw [List.cons_append, Input.received, ih, Input.received, List.append_assoc]
      rfl

/-- One more input of the loop. -/
theorem Course.forward (h : Course ids .forwarding inputs handled)
    (hpasses : input.Passes ids (Input.phaseAfter ids inputs)) :
    Course ids .forwarding (inputs ++ [input])
      (handled ++ (input.receipt (Input.phaseAfter ids inputs)).toList) := by
  cases h with
  | forwarding _ hinputs =>
      rw [Input.phaseAfter, ← received_append_one]
      refine .forwarding _ (justified_append_iff.2 ⟨hinputs, ?_⟩)
      rw [justified_singleton_iff, List.append_nil]
      exact hpasses

/-- One more input of the drain. -/
theorem Course.drain (h : Course ids .draining inputs handled) :
    Course ids .draining (inputs ++ [input]) (handled ++ input.drainReceipt.toList) := by
  cases h with
  | draining before packet env serverName after hloop hfound hsent =>
      have hnext := Course.draining before packet env serverName (after ++ [input]) hloop hfound
        hsent
      rw [List.filterMap_append] at hnext
      have hreceipt : [input].filterMap Input.drainReceipt = input.drainReceipt.toList := by
        cases input <;> rfl
      rw [hreceipt] at hnext
      simpa only [List.append_assoc, List.cons_append] using hnext

/-- The invariant of the handled packets: the course of the run, and in the loop the phase. -/
structure Follows (ids : PacketIds) (s : Forwarding) (inputs : List Input)
    (tr : List ForwardEvent) : Prop where
  course : Course ids s.run inputs (tr.filter isReceipt)
  phase : s.run = .forwarding → s.forwarder.currentProtocol = Input.phaseAfter ids inputs

/-- An iteration that handles its input and stays in the loop. -/
theorem Follows.forward {f' : PacketForwarder} (h : Follows ids s inputs tr)
    (hrun : s.run = .forwarding) (hpasses : input.Passes ids s.forwarder.currentProtocol)
    (hphase : f'.currentProtocol = input.nextPhase ids s.forwarder.currentProtocol)
    (ht : t.filter isReceipt = (input.receipt s.forwarder.currentProtocol).toList) :
    Follows ids ⟨f', .forwarding⟩ (inputs ++ [input]) (tr ++ t) where
  course := by
    have hcourse := h.course
    rw [hrun] at hcourse
    rw [List.filter_append, ht, h.phase hrun]
    exact hcourse.forward (h.phase hrun ▸ hpasses)
  phase _ := by
    rw [phaseAfter_append_one, ← h.phase hrun]
    exact hphase

/-- An iteration that handles its input and leaves the forwarder as it is. -/
theorem Follows.stay (h : Follows ids s inputs tr) (hrun : s.run = .forwarding)
    (hpasses : input.Passes ids s.forwarder.currentProtocol)
    (hphase : s.forwarder.currentProtocol = input.nextPhase ids s.forwarder.currentProtocol)
    (ht : t.filter isReceipt = (input.receipt s.forwarder.currentProtocol).toList) :
    Follows ids s (inputs ++ [input]) (tr ++ t) := by
  have hnext := h.forward hrun hpasses hphase ht
  rwa [← hrun] at hnext

/-- An iteration of the drain. -/
theorem Follows.drain (h : Follows ids s inputs tr) (hrun : s.run = .draining)
    (ht : t.filter isReceipt = input.drainReceipt.toList) :
    Follows ids s (inputs ++ [input]) (tr ++ t) where
  course := by
    have hcourse := h.course
    rw [hrun] at hcourse ⊢
    rw [List.filter_append, ht]
    exact hcourse.drain
  phase hforwarding := by
    rw [hrun] at hforwarding
    cases hforwarding

/-- An iteration that ends the loop handles nothing. -/
theorem Follows.fail {f' : PacketForwarder} (h : Follows ids s inputs tr)
    (hrun : s.run = .forwarding) (hfails : input.Fails ids s.forwarder.currentProtocol)
    (ht : t.filter isReceipt = []) :
    Follows ids ⟨f', .closed⟩ (inputs ++ [input]) (tr ++ t) where
  course := by
    have hcourse := h.course
    rw [hrun] at hcourse
    rw [List.filter_append, ht, List.append_nil]
    exact .failed inputs _ input hcourse (h.phase hrun ▸ hfails)
  phase hforwarding := by cases hforwarding

theorem filter_systemChats (messages : List String) :
    (messages.map fun message =>
      ForwardEvent.effect (.toClient (.systemChat message))).filter isReceipt = [] := by
  rw [List.filter_eq_nil_iff]
  intro e he
  obtain ⟨message, -, rfl⟩ := List.mem_map.1 he
  simp [isReceipt]

/-- An input that ends the loop fails in it. -/
theorem fails_of_ends (hrun : s.run = .forwarding) (hends : s.Ends ids input) :
    input.Fails ids s.forwarder.currentProtocol := by
  cases input with
  | backend packet env => exact hends.2
  | client packet env => exact hends.2
  | broadcast message env => exact hends.elim
  | timeout =>
      rw [Ends, hrun] at hends
      cases hends
  | backendFailed => trivial
  | clientFailed => trivial

/-- The drain ends with the client or with its timeout. -/
theorem leaves_of_ends (hrun : s.run = .draining) (hends : s.Ends ids input) :
    input = .clientFailed ∨ input = .timeout := by
  cases input with
  | clientFailed => exact Or.inl rfl
  | timeout => exact Or.inr rfl
  | broadcast message env => exact hends.elim
  | backendFailed => exact absurd (hrun.symm.trans hends) (by simp)
  | backend packet env => exact absurd (hrun.symm.trans hends.1) (by simp)
  | client packet env => exact absurd (hrun.symm.trans hends.1) (by simp)

/-- An iteration that ends the run. -/
theorem Follows.closed {f' : PacketForwarder} (h : Follows ids s inputs tr)
    (hrun : s.run ≠ .closed) (hends : s.Ends ids input) :
    Follows ids ⟨f', .closed⟩ (inputs ++ [input]) (tr ++ []) := by
  cases hstate : s.run with
  | forwarding => exact h.fail hstate (fails_of_ends hstate hends) rfl
  | draining =>
      have hcourse := h.course
      rw [hstate] at hcourse
      refine ⟨?_, fun hforwarding => by cases hforwarding⟩
      rw [List.append_nil]
      exact .left inputs _ input hcourse (leaves_of_ends hstate hends)
  | closed => exact absurd hstate hrun

/-- An iteration that does nothing: a broadcast in the loop, or an input of the drain that is no
packet of the backend. -/
theorem Follows.idle (h : Follows ids s inputs tr) (hidle : s.Idle input) :
    Follows ids s (inputs ++ [input]) (tr ++ []) := by
  cases input with
  | broadcast message env =>
      have hrun : s.run = .forwarding := by
        cases message with
        | none => exact hidle
        | some message => exact hidle.1
      exact h.stay hrun trivial rfl rfl
  | backendFailed => exact h.drain hidle rfl
  | client packet env => exact h.drain hidle rfl
  | backend packet env => exact hidle.elim
  | clientFailed => exact hidle.elim
  | timeout => exact hidle.elim

/-- One iteration keeps the invariant. -/
theorem follows_step (h : Follows ids s inputs tr)
    (hstep : (system ids config).step s input = some (s', t)) :
    Follows ids s' (inputs ++ [input]) (tr ++ t) := by
  cases stepped_of_step hstep with
  | closed _ f' hcompression hends hnone =>
      refine h.closed ?_ hends
      intro hclosed
      rw [not_step_closed hclosed] at hstep
      cases hstep
  | abandoned packet env serverName hrun hsent hfound => exact h.fail hrun (Or.inl hsent) rfl
  | ignored _ hidle => exact h.idle hidle
  | answered packet env replies hrun hphase hyes hnone =>
      rw [foundTarget, if_pos hrun] at hnone
      refine h.stay hrun ⟨Or.inl hyes, not_panics_of_intercepted hyes, hnone⟩ ?_ ?_
      · simp [Input.nextPhase, hphase]
      · rw [List.filter_cons_of_pos rfl, filter_systemChats]
        rfl
  | transferred packet env serverName transfer hrun hsent hfound hphase hyes =>
      refine ⟨?_, fun hforwarding => by cases hforwarding⟩
      have hcourse := h.course
      rw [hrun] at hcourse
      rw [foundTarget, if_pos hrun, h.phase hrun] at hfound
      generalize hhandled : tr.filter isReceipt = handled at hcourse
      cases hcourse with
      | forwarding _ hinputs =>
          rw [List.filter_append, hhandled, h.phase hrun]
          exact .draining inputs packet env serverName [] (.forwarding _ hinputs) hfound hsent
  | sentOn packet env hrun hsent hparses hnot =>
      have hnone : foundTarget ids _ (.client packet env) = none :=
        foundTarget_of_not_intercepted hnot
      rw [foundTarget, if_pos hrun] at hnone
      refine h.forward hrun ⟨Or.inr hsent, hparses, hnone⟩ ?_ rfl
      rw [trackClientPacket, Input.nextPhase]
      split <;> rfl
  | replaced packet env hrun hsent hphase hid => exact h.stay hrun hsent rfl rfl
  | passedBack packet env f' hrun hsent hprotocol hcompression hplayer hnot =>
      exact h.forward hrun hsent hprotocol rfl
  | broadcast message env hrun hsent => exact h.stay hrun trivial rfl rfl
  | drained packet env hrun hsent =>
      refine h.drain hrun ?_
      rw [Input.drainReceipt, hsent]
      rfl
  | dropped packet env hrun hsent =>
      refine h.drain hrun ?_
      rw [Input.drainReceipt, hsent]
      rfl

/-- The handled packets of every run of a new session. -/
theorem follows_run {playerUuid : Uuid} {currentBackend : String} {threshold : Option UInt32}
    (hrun : (system ids config).exec (start (new playerUuid currentBackend threshold)) inputs =
      some (s, tr)) : Follows ids s inputs tr := by
  have hinit : Follows ids (start (new playerUuid currentBackend threshold)) [] [] :=
    ⟨.forwarding [] justified_nil, fun _ => rfl⟩
  exact (system ids config).exec_history (fun _ _ _ _ _ _ h hstep => follows_step h hstep) hinit
    hrun

end Course

/-- The forwarder of a new session is transparent in every run. The peers read back the packets
with their ids and payloads, in order, each once. The handled packets are those that the course
of the run asks for: in the loop all the received ones, in order, each in the phase that the
packets before it lead to; and in the drain those of the backend, with the success of their
writes. -/
theorem transparent_forwarding (ids : PacketIds) (config : ProxyConfig) (playerUuid : Uuid)
    (currentBackend : String) (threshold : Option UInt32) (inputs : List Input) (s : Forwarding)
    (tr : List ForwardEvent)
    (hrun : (system ids config).exec (start (new playerUuid currentBackend threshold)) inputs =
      some (s, tr)) :
    Transparent ids (threshold.map fun threshold => ⟨threshold, 4⟩) tr ∧
      (tr.filterMap backendWrite).filterMap EncodedPacket.read =
        tr.filterMap (forwardedPacket ids) ∧
      (tr.filterMap passedWrite).filterMap ClientWrite.read = tr.filterMap (passedPacket ids) ∧
      Course ids s.run inputs (tr.filter isReceipt) := by
  have htransparent := (relaying_run hrun).transparent
  refine ⟨htransparent, ?_, ?_, (follows_run hrun).course⟩
  · -- reading a frame is the inverse of framing
    rw [htransparent.toBackend, List.filterMap_map]
    have hread : EncodedPacket.read ∘ (fun packet : RawPacket =>
        packet.frame (threshold.map fun threshold => ⟨threshold, 4⟩)) = some :=
      funext fun packet => EncodedPacket.read_frame packet _
    rw [hread, List.filterMap_some]
  · rw [htransparent.toClient, List.filterMap_filterMap]
    exact List.filterMap_congr fun e _ => read_passedOn e

/-- A player joins, gets the command tree and a broadcast, and switches the server; the backend
sends one more packet. -/
def transferSample : List Input :=
  [.client ⟨3, []⟩ .sample, .backend ⟨16, [0]⟩ .sample, .broadcast (some "hello") .sample,
    .client sampleSwitch .sample, .backend ⟨16, [0]⟩ .sample, .timeout]

/-- The events of `transferSample`. -/
def transferTrace : List ForwardEvent :=
  [.clientHandled .config ⟨3, []⟩, .effect (.toBackend ⟨[3], none⟩),
    .backendHandled .play ⟨16, [0]⟩, .effect (.toClient (.commands buildCommands)),
    .effect (.toClient (.systemChat "hello")),
    .clientHandled .play sampleSwitch, .effect (.targetStored 0 "master"),
    .effect (.toClient (.transfer ⟨"proxy.example", 25565⟩)),
    .drained ⟨16, [0]⟩ true, .effect (.toClient (.forwarded ⟨[16, 0], none⟩))]

theorem transparent_transferTrace :
    Transparent .sample none transferTrace ∧
      Course .sample .closed transferSample (transferTrace.filter isReceipt) := by
  have hrun : (system .sample sampleConfig).exec (start (new 0 "master" none)) transferSample =
      some (⟨{ new 0 "master" none with currentProtocol := .play }, .closed⟩, transferTrace) := by
    decide +kernel
  have h := transparent_forwarding .sample sampleConfig 0 "master" none transferSample _
    transferTrace hrun
  exact ⟨h.1, h.2.2.2⟩

end Forwarding

end SteelProxy
