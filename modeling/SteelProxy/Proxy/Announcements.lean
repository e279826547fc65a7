import SteelProxy.Library.BroadcastChannel
import SteelProxy.Proxy.LockProgress
import SteelProxy.Proxy.TaskRefinement

/-!
# Announcements

The tasks of the proxy with the channel on which `ProxyServer::broadcast` sends. A forwarder
subscribes when it is made, and is given messages in the broadcast branch of its loop only. What is
sent are the announcements of the lifecycle loop and the `start_pr` calls (`announced_exec`), and
the receivers of the channel are the clients with a forwarder (`subscribed_exec`).
-/

set_option autoImplicit false

namespace SteelProxy

open SteelProxy.Library SteelProxy.Library.Transition

/-- The message of a broadcast. -/
def Event.announcement : Event → Option String
  | .broadcast message => some message
  | _ => none

/-- The message that the event broadcasts. -/
def TaskEvent.announcement (event : TaskEvent) : Option String :=
  event.ofLifecycle.bind Event.announcement

/-- The client task is in its forwarder. -/
def ClientPc.inForwarder : ClientPc → Bool
  | .forwarding _ => true
  | .consulting _ _ _ => true
  | .starting _ _ _ => true
  | .writing _ _ _ => true
  | _ => false

namespace TaskLabel

/-- The message that a forwarder takes off the channel. -/
def taken : TaskLabel → Option String
  | .takes _ (.broadcast message) => message
  | _ => none

/-- The backend is connected, and the forwarder made. -/
def makesForwarder : TaskLabel → Bool
  | .connects _ (some _) => true
  | _ => false

end TaskLabel

/-- The tasks with the broadcast channel. -/
structure Announcing where
  tasks : Tasks
  channel : BroadcastChannel Nat String

/-- A step of the tasks with the channel: its label, what happens on the channel, and the events of
the tasks. -/
structure Turn where
  label : TaskLabel
  onChannel : List (ChannelEvent Nat String)
  events : List TaskEvent

namespace Announcing

/-- The capacity of `broadcast::channel` in `ProxyServer::new`. -/
def capacity : Nat := 16

/-- The proxy starts to serve, without players. -/
def start (shared : Shared) : Announcing := ⟨.start shared, .empty⟩

/-- What the broadcast branch of a forwarder is given; a lagging receiver is an error there. -/
def receptions (channel : BroadcastChannel Nat String) :
    TaskLabel → Option (List (ChannelEvent Nat String))
  | .takes client (.broadcast (some message)) => some [.received client (.message message)]
  | .takes client (.broadcast none) =>
      match channel.next capacity client with
      | some (.lagged count, _) => some [.received client (.lagged count)]
      | _ => none
  | _ => some []

/-- `PacketForwarder::new` subscribes, and the receiver is dropped with the forwarder. -/
def membership (s s' : Tasks) (label : TaskLabel) : List (ChannelEvent Nat String) :=
  match label.client with
  | none => []
  | some client =>
      match (s.clients client).inForwarder, (s'.clients client).inForwarder with
      | false, true => [.subscribed client]
      | true, false => [.dropped client]
      | _, _ => []

/-- What happens on the channel in a step: the broadcast branch of a forwarder is given `received`,
and `ProxyServer::broadcast` sends what the pieces of the step announce. -/
def onChannel (s s' : Tasks) (label : TaskLabel) (received : List (ChannelEvent Nat String))
    (events : List TaskEvent) : List (ChannelEvent Nat String) :=
  received ++ (events.filterMap TaskEvent.announcement).map .sent ++ membership s s' label

/-- A step of the tasks with the channel. -/
def step (p : ProxySetup) (s : Announcing) (label : TaskLabel) :
    Option (Announcing × List Turn) :=
  match s.tasks.step p label, receptions s.channel label with
  | some (tasks, events), some received =>
      let happens := onChannel s.tasks tasks label received events
      ((BroadcastChannel.system capacity).exec s.channel happens).map fun result =>
        (⟨tasks, result.1⟩, [⟨label, happens, events⟩])
  | _, _ => none

/-- The tasks with the channel, with one turn for each step. -/
def system (p : ProxySetup) : System Announcing TaskLabel Turn := ⟨step p⟩

/-- What happens on the channel. -/
def channelEvents (turns : List Turn) : List (ChannelEvent Nat String) :=
  turns.flatMap Turn.onChannel

/-- The events of the tasks. -/
def taskEvents (turns : List Turn) : List TaskEvent := turns.flatMap Turn.events

/-- What is sent on the channel are the announcements of the run of the lifecycle loop and the
`start_pr` calls that the labels of the tasks make. -/
def Announced (p : ProxySetup) (shared : Shared) (labels : List TaskLabel) (s : Announcing)
    (turns : List Turn) : Prop :=
  ∃ events,
    (Lifecycle.system p.setup).exec (Lifecycle.started shared)
        ((Tasks.system p).projected (Tasks.lifecycleLabels p) (Tasks.start shared) labels) =
      some (s.tasks.view, events) ∧
    (channelEvents turns).filterMap ChannelEvent.sentMessage = events.filterMap Event.announcement

section Steps

variable {p : ProxySetup} {s s' : Announcing} {label : TaskLabel} {turns t : List Turn}
  {client : Nat}

theorem step_eq_some (hstep : step p s label = some (s', t)) :
    ∃ received events, s.tasks.step p label = some (s'.tasks, events) ∧
      receptions s.channel label = some received ∧
      (BroadcastChannel.system capacity).exec s.channel
          (onChannel s.tasks s'.tasks label received events) =
        some (s'.channel, onChannel s.tasks s'.tasks label received events) ∧
      t = [⟨label, onChannel s.tasks s'.tasks label received events, events⟩] := by
  unfold step at hstep
  split at hstep
  · rename_i tasks events received htasks hreceived
    obtain ⟨⟨channel, tr⟩, hrun, heq⟩ := Option.map_eq_some_iff.1 hstep
    cases heq
    have hevents := BroadcastChannel.exec_events hrun
    rw [hevents] at hrun
    exact ⟨received, events, htasks, hreceived, hrun, rfl⟩
  · cases hstep

@[simp]
theorem channelEvents_append (turns turns' : List Turn) :
    channelEvents (turns ++ turns') = channelEvents turns ++ channelEvents turns' :=
  List.flatMap_append

@[simp]
theorem taskEvents_append (turns turns' : List Turn) :
    taskEvents (turns ++ turns') = taskEvents turns ++ taskEvents turns' :=
  List.flatMap_append

@[simp]
theorem channelEvents_singleton (turn : Turn) : channelEvents [turn] = turn.onChannel :=
  List.flatMap_singleton _ _

@[simp]
theorem taskEvents_singleton (turn : Turn) : taskEvents [turn] = turn.events :=
  List.flatMap_singleton _ _

/-- What happens on the channel is a run of the channel. -/
theorem channel_exec {shared : Shared} {labels : List TaskLabel}
    (hrun : (system p).exec (start shared) labels = some (s, turns)) :
    (BroadcastChannel.system capacity).exec .empty (channelEvents turns) =
      some (s.channel, channelEvents turns) := by
  refine @System.exec_invariant _ _ _ (system p) (fun _ _ => True)
    (fun s turns => (BroadcastChannel.system capacity).exec .empty (channelEvents turns) =
      some (s.channel, channelEvents turns)) ?_
    labels (start shared) s [] turns rfl (System.meets_of_forall _ (by simp) _) hrun
  intro s turns label s' t h _ hstep
  obtain ⟨received, events, -, -, hchannel, rfl⟩ := step_eq_some hstep
  rw [channelEvents_append, channelEvents_singleton]
  exact (System.exec_append_iff _).2 ⟨s.channel, _, _, h, hchannel, rfl⟩

/-- The tasks run as they do without the channel. -/
theorem tasks_exec {shared : Shared} {labels : List TaskLabel}
    (hrun : (system p).exec (start shared) labels = some (s, turns)) :
    (Tasks.system p).exec (Tasks.start shared) labels = some (s.tasks, taskEvents turns) := by
  refine @System.exec_history _ _ _ (system p)
    (fun s labels turns => (Tasks.system p).exec (Tasks.start shared) labels =
      some (s.tasks, taskEvents turns)) ?_ [] labels (start shared) s [] turns rfl hrun
  intro s labels turns label s' t h hstep
  obtain ⟨received, events, htasks, -, -, rfl⟩ := step_eq_some hstep
  rw [taskEvents_append, taskEvents_singleton]
  exact (System.exec_append_iff _).2 ⟨s.tasks, _, events, h,
    (System.exec_singleton_iff _).2 htasks, rfl⟩

/-! ### What is sent -/

theorem eq_received_of_mem {channel : BroadcastChannel Nat String}
    {received : List (ChannelEvent Nat String)} {e : ChannelEvent Nat String}
    (h : receptions channel label = some received) (he : e ∈ received) :
    ∃ client reception, label.client = some client ∧ e = .received client reception := by
  unfold receptions at h
  split at h
  · cases h
    exact ⟨_, _, rfl, List.mem_singleton.1 he⟩
  · split at h
    · cases h
      exact ⟨_, _, rfl, List.mem_singleton.1 he⟩
    · cases h
  · cases h
    cases he

theorem sentMessages_map_sent (messages : List String) :
    (messages.map (ChannelEvent.sent (ρ := Nat))).filterMap ChannelEvent.sentMessage =
      messages := by
  rw [List.filterMap_map]
  exact List.filterMap_some

/-- What a step sends is what the lifecycle announces in it. -/
theorem sentMessages_onChannel {channel : BroadcastChannel Nat String}
    {received : List (ChannelEvent Nat String)} {tasks tasks' : Tasks} {events : List TaskEvent}
    (hreceived : receptions channel label = some received) :
    (onChannel tasks tasks' label received events).filterMap ChannelEvent.sentMessage =
      (events.filterMap TaskEvent.ofLifecycle).filterMap Event.announcement := by
  have hbefore : received.filterMap ChannelEvent.sentMessage = [] := by
    refine List.filterMap_eq_nil_iff.2 fun e he => ?_
    obtain ⟨client, reception, -, rfl⟩ := eq_received_of_mem hreceived he
    rfl
  have hafter : (membership tasks tasks' label).filterMap ChannelEvent.sentMessage = [] := by
    unfold membership
    split
    · rfl
    · split <;> rfl
  rw [onChannel, List.filterMap_append, List.filterMap_append, hbefore, hafter, List.nil_append,
    List.append_nil, sentMessages_map_sent, List.filterMap_filterMap]
  rfl

theorem sentMessages_exec {shared : Shared} {labels : List TaskLabel}
    (hrun : (system p).exec (start shared) labels = some (s, turns)) :
    (channelEvents turns).filterMap ChannelEvent.sentMessage =
      ((taskEvents turns).filterMap TaskEvent.ofLifecycle).filterMap Event.announcement := by
  refine @System.exec_invariant _ _ _ (system p) (fun _ _ => True)
    (fun _ turns => (channelEvents turns).filterMap ChannelEvent.sentMessage =
      ((taskEvents turns).filterMap TaskEvent.ofLifecycle).filterMap Event.announcement) ?_
    labels (start shared) s [] turns rfl (System.meets_of_forall _ (by simp) _) hrun
  intro s turns label s' t h _ hstep
  obtain ⟨received, events, -, hreceived, -, rfl⟩ := step_eq_some hstep
  rw [channelEvents_append, channelEvents_singleton, taskEvents_append, taskEvents_singleton,
    List.filterMap_append, List.filterMap_append, List.filterMap_append, h,
    sentMessages_onChannel hreceived]

theorem announced_exec {shared : Shared} {labels : List TaskLabel}
    (hrun : (system p).exec (start shared) labels = some (s, turns)) :
    Announced p shared labels s turns := by
  obtain ⟨events, hlifecycle, hevents⟩ :=
    (Tasks.simulates p).exec trivial (tasks_exec hrun)
  refine ⟨events, hlifecycle, ?_⟩
  rw [hevents]
  exact sentMessages_exec hrun

/-! ### Forwarders -/

/-- A login does not lead into the forwarder. -/
theorem not_inForwarder_afterLogin (s : Tasks) (login : LoginStep) :
    ((s.afterLogin p client login).clients client).inForwarder = false := by
  cases login <;> simp [Tasks.afterLogin, Tasks.askRegistry, Tasks.setClient, ClientPc.inForwarder]

theorem not_inForwarder_afterPacket (s : Tasks) (state : LoginState) (packet : RawPacket) :
    ((s.afterPacket p client state packet).clients client).inForwarder = false := by
  simp only [Tasks.afterPacket]
  split
  · simp [Tasks.setClient, ClientPc.inForwarder]
  · exact not_inForwarder_afterLogin s _

theorem not_inForwarder_afterLookup (s : Tasks) (username : Option String) (uuid : Uuid)
    (backendName : String) :
    ((s.afterLookup client username uuid backendName).clients client).inForwarder = false := by
  simp only [Tasks.afterLookup]
  split <;> simp [Tasks.setClient, ClientPc.inForwarder]

/-- A client task comes to its forwarder when the backend is connected. -/
theorem makesForwarder_iff {s : Tasks} {result : Tasks × List TaskEvent}
    (hstep : s.step p label = some result) (hlabel : label.client = some client) :
    label.makesForwarder = true ↔
      (s.clients client).inForwarder = false ∧ (result.1.clients client).inForwarder = true := by
  cases Tasks.stepped_of_step hstep with
  | accepted c hpc =>
      cases hlabel
      simp [TaskLabel.makesForwarder, Tasks.setClient, ClientPc.inForwarder]
  | received c packet state hpc =>
      cases hlabel
      simp [TaskLabel.makesForwarder, not_inForwarder_afterPacket]
  | replied c sent state packet hpc =>
      cases hlabel
      simp [TaskLabel.makesForwarder, not_inForwarder_afterLogin]
  | connectFailed c connector backendName hpc =>
      cases hlabel
      simp [TaskLabel.makesForwarder, Tasks.setClient, ClientPc.inForwarder]
  | connected c connector backendName threshold hpc =>
      cases hlabel
      simp [TaskLabel.makesForwarder, hpc, Tasks.setClient, ClientPc.inForwarder]
  | selected c received f _ hpc hselect =>
      cases hlabel
      simp [TaskLabel.makesForwarder, hpc, ClientPc.inForwarder]
  | answered c label f packet call o hpc hlabel' hcall =>
      cases hlabel
      simp [TaskLabel.makesForwarder, hpc, ClientPc.inForwarder]
  | wrote c sent f input hpc =>
      cases hlabel
      simp [TaskLabel.makesForwarder, hpc, ClientPc.inForwarder]
  | wroteGuarded c sent f input hpc =>
      cases hlabel
      simp [TaskLabel.makesForwarder, hpc, ClientPc.inForwarder]
  | looped label w events hconfigured hstart hlocked hloop => cases hlabel
  | granted lock hgrant => cases hlabel
  | lookedUp c username uuid backendName now readyAt hholds hpc =>
      cases hlabel
      simp [TaskLabel.makesForwarder, not_inForwarder_afterLookup]
  | consulted c f packet use now readyAt hholds hpc =>
      cases hlabel
      simp [TaskLabel.makesForwarder, hpc, ClientPc.inForwarder]
  | registryChecked c f packet n now readyAt hholds hpc =>
      cases hlabel
      simp [TaskLabel.makesForwarder, hpc, ClientPc.inForwarder]
  | loopRan now readyAt w events hholds hloop => cases hlabel

/-! ### Subscriptions -/

/-- The receivers of the channel are the clients with a forwarder. -/
def Subscribed (s : Announcing) : Prop :=
  ∀ client, (s.channel.cursors.lookup client).isSome = (s.tasks.clients client).inForwarder

/-- Events that change nothing. -/
theorem foldl_of_free {β : Type} {f : β → ChannelEvent Nat String → β}
    {es : List (ChannelEvent Nat String)} (h : ∀ e ∈ es, ∀ b, f b e = b) (b : β) :
    es.foldl f b = b := by
  induction es with
  | nil => rfl
  | cons e es ih =>
      rw [List.foldl_cons, h e List.mem_cons_self]
      exact ih fun e he => h e (List.mem_cons_of_mem _ he)

/-- Announcements concern no receiver alone. -/
theorem free_of_mem_sent {β : Type} {f : β → ChannelEvent Nat String → β} {messages : List String}
    (hf : ∀ m b, f b (.sent m) = b) : ∀ e ∈ messages.map (ChannelEvent.sent (ρ := Nat)), ∀ b,
      f b e = b := by
  intro e he b
  obtain ⟨m, -, rfl⟩ := List.mem_map.1 he
  exact hf m b

/-- The events of a membership are about the client that moves. -/
theorem eq_of_mem_membership {s s' : Tasks} {e : ChannelEvent Nat String}
    (he : e ∈ membership s s' label) :
    ∃ moved, label.client = some moved ∧ (e = .subscribed moved ∨ e = .dropped moved) := by
  unfold membership at he
  split at he
  · cases he
  · rename_i moved hmoved
    split at he
    · exact ⟨moved, hmoved, Or.inl (List.mem_singleton.1 he)⟩
    · exact ⟨moved, hmoved, Or.inr (List.mem_singleton.1 he)⟩
    · cases he

/-- Receptions change no subscription. -/
theorem trackMember_receptions {channel : BroadcastChannel Nat String}
    {received : List (ChannelEvent Nat String)} (h : receptions channel label = some received) :
    ∀ e ∈ received, ∀ b, BroadcastChannel.trackMember client b e = b := by
  intro e he b
  obtain ⟨client, reception, -, rfl⟩ := eq_received_of_mem h he
  rfl

theorem foldl_trackMember_membership {s : Tasks} {result : Tasks × List TaskEvent}
    (hstep : s.step p label = some result) :
    (membership s result.1 label).foldl (BroadcastChannel.trackMember client)
      (s.clients client).inForwarder = (result.1.clients client).inForwarder := by
  by_cases hlabel : label.client = some client
  · rw [membership, hlabel]
    dsimp only
    cases (s.clients client).inForwarder <;> cases (result.1.clients client).inForwarder <;>
      simp [BroadcastChannel.trackMember]
  · rw [Tasks.clients_of_ne hstep hlabel]
    refine foldl_of_free (fun e he b => ?_) _
    obtain ⟨moved, hmoved, he⟩ := eq_of_mem_membership he
    have hne : moved ≠ client := by
      rintro rfl
      exact hlabel hmoved
    rcases he with rfl | rfl
    · simp [BroadcastChannel.trackMember, hne]
    · simp [BroadcastChannel.trackMember, hne]

theorem subscribed_step (h : Subscribed s) (hstep : step p s label = some (s', t)) :
    Subscribed s' := by
  obtain ⟨received, events, htasks, hreceived, hchannel, -⟩ := step_eq_some hstep
  intro client
  rw [BroadcastChannel.isSome_lookup_exec hchannel, h client, onChannel, List.foldl_append,
    List.foldl_append, foldl_of_free (trackMember_receptions hreceived),
    foldl_of_free (free_of_mem_sent fun _ _ => rfl)]
  exact foldl_trackMember_membership htasks

theorem subscribed_exec {shared : Shared} {labels : List TaskLabel}
    (hrun : (system p).exec (start shared) labels = some (s, turns)) : Subscribed s :=
  @System.exec_state_invariant _ _ _ (system p) (fun _ _ => True) Subscribed
    (fun _ _ _ _ h _ hstep => subscribed_step h hstep) labels (start shared) s turns
    (fun _ => rfl) (System.meets_of_forall _ (by simp) _) hrun

/-! ### What a forwarder is given -/

/-- What the forwarder of a client was given, after what happens in a step. -/
theorem given_channelEvents (turns : List Turn) (turn : Turn) :
    BroadcastChannel.given client (channelEvents (turns ++ [turn])) =
      turn.onChannel.foldl (BroadcastChannel.trackGiven client)
        (BroadcastChannel.given client (channelEvents turns)) := by
  rw [channelEvents_append, channelEvents_singleton, BroadcastChannel.given,
    List.foldl_append]
  rfl

section Given

variable {received : List (ChannelEvent Nat String)} {events : List TaskEvent}
  {channel : BroadcastChannel Nat String} {tasks tasks' : Tasks} {given : List (Reception String)}

/-- The steps of the other tasks give nothing to a client. -/
theorem given_of_ne (hreceived : receptions channel label = some received)
    (hne : label.client ≠ some client) :
    (onChannel tasks tasks' label received events).foldl
      (BroadcastChannel.trackGiven client) given = given := by
  have hmoved : ∀ moved, label.client = some moved → moved ≠ client := by
    rintro moved hmoved rfl
    exact hne hmoved
  rw [onChannel, List.foldl_append, List.foldl_append, foldl_of_free (fun e he b => ?_),
    foldl_of_free (free_of_mem_sent fun _ _ => rfl), foldl_of_free (fun e he b => ?_)]
  · obtain ⟨moved, reception, hlabel, rfl⟩ := eq_received_of_mem hreceived he
    exact if_neg (hmoved moved hlabel)
  · obtain ⟨moved, hlabel, rfl | rfl⟩ := eq_of_mem_membership he
    · exact if_neg (hmoved moved hlabel)
    · rfl

/-- The messages among what the broadcast branch is given. -/
theorem messages_receptions (hreceived : receptions channel label = some received)
    (hlabel : label.client = some client) :
    BroadcastChannel.messages (received.foldl (BroadcastChannel.trackGiven client) given) =
      BroadcastChannel.messages given ++ label.taken.toList := by
  unfold receptions at hreceived
  split at hreceived
  · cases hreceived
    cases hlabel
    simp [BroadcastChannel.trackGiven, BroadcastChannel.messages, TaskLabel.taken,
      Reception.toOption]
  · split at hreceived
    · cases hreceived
      cases hlabel
      simp [BroadcastChannel.trackGiven, BroadcastChannel.messages, TaskLabel.taken,
        Reception.toOption]
    · cases hreceived
  · rename_i hmessage hlagged
    cases hreceived
    have hnone : label.taken = none := by
      unfold TaskLabel.taken
      split
      · rename_i c message
        cases message with
        | none => rfl
        | some m => exact absurd rfl (hmessage c m)
      · rfl
    simp [hnone]

/-- The messages among what a client's forwarder was given, after a step of its task. -/
theorem messages_of_step {result : Tasks × List TaskEvent}
    (hstep : tasks.step p label = some result)
    (hreceived : receptions channel label = some received)
    (hlabel : label.client = some client) :
    BroadcastChannel.messages ((onChannel tasks result.1 label received events).foldl
      (BroadcastChannel.trackGiven client) given) =
        if label.makesForwarder then []
        else BroadcastChannel.messages given ++ label.taken.toList := by
  rw [onChannel, List.foldl_append, List.foldl_append,
    foldl_of_free (free_of_mem_sent fun _ _ => rfl)]
  have hmakes := makesForwarder_iff hstep hlabel
  rw [membership, hlabel]
  dsimp only
  split
  · rename_i hbefore hafter
    rw [if_pos (hmakes.2 ⟨hbefore, hafter⟩)]
    simp [BroadcastChannel.trackGiven, BroadcastChannel.messages]
  · rename_i hbefore hafter
    rw [if_neg fun hm => by simp [hbefore] at hmakes; exact absurd hm (by simp [hmakes])]
    exact messages_receptions hreceived hlabel
  · rename_i hsubscribes hdrops
    rw [if_neg fun hm => hsubscribes (hmakes.1 hm).1 (hmakes.1 hm).2]
    exact messages_receptions hreceived hlabel

end Given

end Steps

end Announcing

end SteelProxy
