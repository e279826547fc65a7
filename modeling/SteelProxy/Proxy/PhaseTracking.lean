import SteelProxy.Proxy.SessionEffects

/-!
# Phase tracking

The forwarder enters the play phase with the client's `S_FINISH_CONFIGURATION` and never leaves
it. In every session its `current_protocol` is the phase in which a handled packet was sent up to
the client's first `S_CONFIGURATION_ACKNOWLEDGED`, and it is wrong for every packet handled after
that one. The invariant follows a phase change around the links: from the backend to the client,
back to the forwarder, and to the backend.
-/

set_option autoImplicit false

namespace SteelProxy

open SteelProxy.Library SteelProxy.Library.Transition SteelProxy.Library.Fifo

namespace Session

/-! ## The stages of a phase change -/

/-- All parties are in the phase `phase`; its end may be under way to the client. -/
structure Settled (ids : SessionIds) (phase : ConnectionProtocol) (s : Session) : Prop where
  client : s.client.phase = phase
  backend : s.backend.phase = phase
  tracked : s.proxy.forwarder.currentProtocol = phase
  fromClient : ∀ m ∈ s.fromClient, m.1 = phase ∧ m.2.id ≠ ids.answer phase
  fromBackend : ∀ m ∈ s.fromBackend, m.1 = phase
  outgoing : ∀ packet ∈ s.outgoing, packet.id ≠ ids.answer phase
  incoming : Closing (fun packet : RawPacket => packet.id = ids.closing phase) s.backend.waiting
    s.incoming
  answerDue : s.client.answerDue = true → s.backend.waiting = true ∧ s.incoming = []

/-- The client has answered, and the backend has not read it: nothing comes from the backend. -/
structure Awaiting (s : Session) : Prop where
  waiting : s.backend.waiting = true
  incoming : s.incoming = []
  answerDue : s.client.answerDue = false

/-- The answer that ends `phase` is under way to the forwarder. -/
structure Answered (ids : SessionIds) (phase : ConnectionProtocol) (s : Session) : Prop
    extends Awaiting s where
  client : s.client.phase = phase.next
  backend : s.backend.phase = phase
  tracked : s.proxy.forwarder.currentProtocol = phase
  fromClient : Divided (fun m : ConnectionProtocol × RawPacket => m.2.id = ids.answer phase)
    (fun m => m.1 = phase) (fun m => m.1 = phase.next ∧ m.2.id ≠ ids.answer phase.next)
    s.fromClient
  outgoing : ∀ packet ∈ s.outgoing, packet.id ≠ ids.answer phase

/-- The answer that ends the configuration is under way from the forwarder to the backend. -/
structure Passed (ids : SessionIds) (s : Session) : Prop extends Awaiting s where
  client : s.client.phase = .play
  backend : s.backend.phase = .config
  tracked : s.proxy.forwarder.currentProtocol = .play
  fromClient : ∀ m ∈ s.fromClient, m.1 = .play ∧ m.2.id ≠ ids.answer .play
  outgoing : Divided (fun packet : RawPacket => packet.id = ids.answer .config) (fun _ => True)
    (fun packet => packet.id ≠ ids.answer .play) s.outgoing

/-- The forwarder agrees with the parties. -/
inductive Synced (ids : SessionIds) (s : Session) : Prop where
  | settled (phase : ConnectionProtocol) (hphase : phase = .config ∨ phase = .play)
      (h : Settled ids phase s)
  | answered (phase : ConnectionProtocol) (hphase : phase = .config ∨ phase = .play)
      (h : Answered ids phase s)
  | passed (h : Passed ids s)

/-- The client has returned to the configuration phase, and the forwarder has handled its
answer: everything that it can receive was sent in the configuration phase. -/
structure Returned (ids : SessionIds) (s : Session) : Prop where
  client : s.client = ⟨.config, false⟩
  tracked : s.proxy.forwarder.currentProtocol = .play
  fromClient : ∀ m ∈ s.fromClient, m.1 = .config
  toClient : s.toClient.filterMap ClientWrite.read = []
  backend : (s.backend = ⟨.play, true⟩ ∧ s.fromBackend = [] ∧
      s.outgoing.Pairwise fun packet _ => packet.id ≠ ids.answer .play) ∨
    (s.backend.phase = .config ∧ s.outgoing = [] ∧ ∀ m ∈ s.fromBackend, m.1 = .config)

/-- What a step does to a session in agreement. -/
inductive Progress (ids : SessionIds) (s' : Session) (t : List SessionEvent) : Prop where
  | kept (hagrees : ∀ e ∈ t, e.Agrees) (hnone : ∀ e ∈ t, ¬ e.IsReturn ids)
      (h : s'.proxy.run = .forwarding → Synced ids s')
  | returned (e : SessionEvent) (ht : t = [e]) (hagrees : e.Agrees) (hreturn : e.IsReturn ids)
      (h : s'.proxy.run = .forwarding → Returned ids s')

section Stages

variable {ids : SessionIds} {s s' : Session} {t : List SessionEvent}
  {phase : ConnectionProtocol}

theorem Progress.quiet (h : s'.proxy.run = .forwarding → Synced ids s') : Progress ids s' [] :=
  .kept (by simp) (by simp) h

/-- A packet is handled in the phase in which it was sent. -/
theorem Progress.handled {e : SessionEvent} (hagrees : e.Agrees) (hnot : ¬ e.IsReturn ids)
    (h : s'.proxy.run = .forwarding → Synced ids s') : Progress ids s' [e] :=
  .kept (List.forall_mem_singleton.2 hagrees) (List.forall_mem_singleton.2 hnot) h

theorem incoming_cons {w : ClientWrite} {rest : List ClientWrite} (hlink : s.toClient = w :: rest) :
    s.incoming =
      w.read.toList ++ (rest.filterMap ClientWrite.read ++ s.fromBackend.map Prod.snd) := by
  rw [incoming, hlink]
  cases hread : w.read with
  | none => rw [List.filterMap_cons_none hread]; rfl
  | some packet => rw [List.filterMap_cons_some hread]; rfl

section Reads

variable {c : ClientSide} {b : BackendSide} {w : ClientWrite} {frame : EncodedPacket}
  {packet : RawPacket}

/-- The proxy's own messages leave the client unmoved. -/
theorem read_client_of_none (hread : w.read = none) : c.read ids w = c := by
  rw [ClientSide.read, hread]

end Reads

/-- While the answer is awaited, the client reads messages of the proxy only. -/
theorem Awaiting.clientReads (h : Awaiting s) (ids : SessionIds) {w : ClientWrite}
    {rest : List ClientWrite} (hlink : s.toClient = w :: rest) :
    s.client.read ids w = s.client ∧
      rest.filterMap ClientWrite.read ++ s.fromBackend.map Prod.snd = [] := by
  have hincoming := incoming_cons hlink
  rw [h.incoming] at hincoming
  obtain ⟨hread, hrest⟩ := List.append_eq_nil_iff.1 hincoming.symm
  exact ⟨read_client_of_none (Option.toList_eq_nil_iff.1 hread), hrest⟩

theorem Awaiting.not_open (h : Awaiting s) : s.backend.waiting ≠ false := by
  rw [h.waiting]
  decide

theorem Awaiting.fromBackend (h : Awaiting s) : s.fromBackend = [] :=
  List.map_eq_nil_iff.1 (List.append_eq_nil_iff.1 h.incoming).2

theorem Awaiting.toClient (h : Awaiting s) : s.toClient.filterMap ClientWrite.read = [] :=
  (List.append_eq_nil_iff.1 h.incoming).1

end Stages

/-! ## Runs -/

section Runs

variable {ids : SessionIds} {config : ProxyConfig} {s s' : Session} {label : SessionLabel}
  {tr t : List SessionEvent}

end Runs

end Session

end SteelProxy
