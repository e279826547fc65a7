import Mathlib.Data.List.Chain
import SteelProxy.Proxy.Announcements

/-!
# What the players are shown

Each message that a forwarder takes off the channel is written to its player before the forwarder
does anything else. In every interleaving the player is shown the announcements since its forwarder
was made, in order and each at most once: one is left out only when its write fails, or when the
forwarder has not taken it before sixteen newer ones were made (`announcements_delivered`). A
forwarder in its loop needs only steps of its own to show its player all that the channel still has
for it (`announcements_caught_up`).
-/

set_option autoImplicit false

namespace SteelProxy

open SteelProxy.Library SteelProxy.Library.Transition

/-- The system message that the event writes to the player of a client. -/
def TaskEvent.shown (client : Nat) : TaskEvent → Option String
  | .forwarder client' (.effect (.toClient (.systemChat message))) =>
      if client' = client then some message else none
  | _ => none

namespace Announcing

/-- The turns of a client's task since its forwarder was made, after one more turn. -/
def trackOwn (client : Nat) (own : List Turn) (turn : Turn) : List Turn :=
  if turn.label.client = some client then
    if turn.label.makesForwarder then [] else own ++ [turn]
  else
    own

/-- The turns of a client's task since its forwarder was made. -/
def ownTurns (client : Nat) (turns : List Turn) : List Turn := turns.foldl (trackOwn client) []

/-- The messages that the turns take off the channel. -/
def taken (turns : List Turn) : List String := turns.filterMap fun turn => turn.label.taken

/-- The message that was taken off the channel in the last turn. -/
def pending (turns : List Turn) : Option String :=
  turns.getLast?.bind fun turn => turn.label.taken

/-- The system messages that a turn writes to the player of a client. -/
def shown (client : Nat) (turn : Turn) : List String :=
  turn.events.filterMap (TaskEvent.shown client)

/-- What the player is shown of the messages that its forwarder takes off the channel: what is
written to it in the turn after the one in which a message is taken. -/
def heard (client : Nat) : List Turn → List String
  | turn :: next :: turns =>
      (if turn.label.taken.isSome then shown client next else []) ++ heard client (next :: turns)
  | _ => []

/-- The turn after the one in which a message is taken off the channel ends the write of the
message to the player, and shows nothing else. -/
def ShowsNext (client : Nat) (turn next : Turn) : Prop :=
  ∀ message, turn.label.taken = some message →
    ∃ sent, next.label = .written client sent ∧
      shown client next = if sent then [message] else []

/-- What the player hears of the announcements made since its forwarder was made. The channel gives
them to the forwarder in order, and one is missed only when as many newer ones have been made as
the channel keeps; each that is given is written to the player next, so that the player is shown
them in order and each at most once; and with no write failed these are all that the forwarder was
given, and without a miss all announcements up to some point. -/
structure HearsAnnouncements (client : Nat) (turns : List Turn) : Prop where
  delivered : ∃ used,
    BroadcastChannel.Delivered capacity (BroadcastChannel.sentSince client (channelEvents turns))
      (BroadcastChannel.given client (channelEvents turns)) used
  written : (ownTurns client turns).IsChain (ShowsNext client)
  inOrder : (heard client (ownTurns client turns)).Sublist
    (BroadcastChannel.sentSince client (channelEvents turns))
  complete : (∀ turn ∈ ownTurns client turns, turn.label ≠ .written client false) →
    heard client (ownTurns client turns) ++ (pending (ownTurns client turns)).toList =
      BroadcastChannel.messages (BroadcastChannel.given client (channelEvents turns))
  prefixed : (∀ turn ∈ ownTurns client turns, turn.label ≠ .written client false) →
    (∀ count, .lagged count ∉ BroadcastChannel.given client (channelEvents turns)) →
    heard client (ownTurns client turns) <+:
      BroadcastChannel.sentSince client (channelEvents turns)

section Steps

variable {p : ProxySetup} {s s' : Announcing} {label : TaskLabel} {turns : List Turn}
  {client : Nat}

/-! ### The broadcast branch -/

section Branch

variable {tasks : Tasks} {result : Tasks × List TaskEvent} {f : Forwarding} {input : Input}
  {message : String}

/-- A message that the forwarder takes is to be written to its player. -/
theorem peer_broadcast (hrunning : f.run = .forwarding) (env : Surroundings) :
    f.peer p (.broadcast (some message) env) = some .player := by
  simp only [Forwarding.peer, Input.withSent, Forwarding.step, hrunning,
    PacketForwarder.sendSystemMessage, PacketForwarder.write_of_sent]
  rfl

/-- A forwarder in its loop takes the broadcast branch for what it is given. -/
theorem afterSelect_broadcast (hrunning : f.run = .forwarding) (message : Option String) :
    tasks.afterSelect p client f (.broadcast message) =
      some (tasks.handle p client f (.broadcast message (tasks.surroundings p (.ok ())))) := by
  cases message <;> simp [Tasks.afterSelect, Received.input, Forwarding.step, hrunning]

/-- A step in which a message is taken leaves the forwarder at the write of it. -/
theorem writing_of_taken (hstep : tasks.step p label = some result)
    (hlabel : label.client = some client) (htaken : label.taken = some message) :
    ∃ f env, result.1.clients client = .writing f (.broadcast (some message) env) false ∧
      f.run = .forwarding := by
  cases label with
  | takes c received =>
      cases hlabel
      cases received with
      | broadcast m =>
          cases htaken
          simp only [Tasks.step] at hstep
          split at hstep
          · rename_i f hpc
            cases hrun : f.run with
            | forwarding =>
                refine ⟨f, tasks.surroundings p (.ok ()), ?_, hrun⟩
                rw [afterSelect_broadcast hrun, Tasks.handle, peer_broadcast hrun,
                  Option.isSome_some, if_pos rfl] at hstep
                cases hstep
                simp [Tasks.setClient]
            | draining => simp [Tasks.afterSelect, Received.input, Forwarding.step, hrun] at hstep
            | closed => simp [Tasks.afterSelect, Forwarding.step, hrun] at hstep
          · cases hstep
      | _ => cases htaken
  | _ => cases htaken

/-- A task at the write of a packet is moved by the end of the write alone. -/
theorem written_of_writing (hstep : tasks.step p label = some result)
    (hlabel : label.client = some client)
    (hpc : tasks.clients client = .writing f input false) :
    ∃ sent, label = .written client sent ∧
      result = tasks.afterHandler p client f (input.withSent sent) := by
  cases label with
  | written c sent =>
      cases hlabel
      simp only [Tasks.step, hpc, Option.some.injEq] at hstep
      exact ⟨sent, rfl, hstep.symm⟩
  | runs task now readyAt =>
      cases task with
      | client c =>
          cases hlabel
          simp [Tasks.step, Tasks.run, hpc] at hstep
      | lifecycle => cases hlabel
  | lifecycle label => cases hlabel
  | grants => cases hlabel
  | _ =>
      cases hlabel
      simp [Tasks.step, hpc] at hstep

/-- The write of a message shows it to the player, unless it fails. -/
theorem shown_afterHandler (hrunning : f.run = .forwarding) (env : Surroundings) (sent : Bool) :
    (tasks.afterHandler p client f ((Input.broadcast (some message) env).withSent sent)).2.filterMap
      (TaskEvent.shown client) = if sent then [message] else [] := by
  simp only [Tasks.afterHandler, Input.withSent, Forwarding.step, hrunning,
    PacketForwarder.sendSystemMessage]
  cases sent with
  | true => simp [PacketForwarder.write, TaskEvent.shown]
  | false => simp [PacketForwarder.write]

end Branch

/-! ### The turns of a client -/

section Turns

variable {turn next : Turn} {own : List Turn}

theorem ownTurns_append_one (client : Nat) (turns : List Turn) (turn : Turn) :
    ownTurns client (turns ++ [turn]) = trackOwn client (ownTurns client turns) turn := by
  rw [ownTurns, List.foldl_append]
  rfl

theorem taken_append_one (own : List Turn) (turn : Turn) :
    taken (own ++ [turn]) = taken own ++ turn.label.taken.toList := by
  rw [taken, List.filterMap_append, taken]
  cases htaken : turn.label.taken <;> simp [htaken]

theorem pending_append_one (own : List Turn) (turn : Turn) :
    pending (own ++ [turn]) = turn.label.taken := by
  simp [pending]

/-- What is shown in the turn after a message was taken is heard. -/
theorem heard_append_one (client : Nat) (own : List Turn) (next : Turn) :
    heard client (own ++ [next]) =
      heard client own ++ (if (pending own).isSome then shown client next else []) := by
  induction own with
  | nil => rfl
  | cons turn own ih =>
      cases own with
      | nil => exact List.append_nil _
      | cons turn' own =>
          have hpending : pending (turn :: turn' :: own) = pending (turn' :: own) := by
            simp [pending]
          rw [List.cons_append, List.cons_append, heard, ← List.cons_append, ih, heard, hpending,
            List.append_assoc]

theorem pending_link (h : ∀ turn ∈ own.getLast?, ShowsNext client turn next) {message : String}
    (hpending : pending own = some message) :
    ∃ sent, next.label = .written client sent ∧
      shown client next = if sent then [message] else [] := by
  obtain ⟨turn, hturn, htaken⟩ := Option.bind_eq_some_iff.1 hpending
  exact h turn hturn message htaken

theorem isChain_append_one :
    (own ++ [next]).IsChain (ShowsNext client) ↔
      own.IsChain (ShowsNext client) ∧ ∀ turn ∈ own.getLast?, ShowsNext client turn next := by
  rw [List.isChain_append]
  simp

/-- The messages that were taken are heard in order, but for the one that is not written yet and
those whose write failed. -/
theorem heard_sublist (h : own.IsChain (ShowsNext client)) :
    (heard client own ++ (pending own).toList).Sublist (taken own) := by
  induction own using List.reverseRecOn with
  | nil => exact List.Sublist.refl _
  | append_singleton own next ih =>
      obtain ⟨hown, hlink⟩ := isChain_append_one.1 h
      have hbefore := ih hown
      rw [heard_append_one, pending_append_one, taken_append_one]
      cases hpending : pending own with
      | none =>
          rw [hpending, Option.toList_none, List.append_nil] at hbefore
          rw [Option.isSome_none, if_neg Bool.false_ne_true, List.append_nil]
          exact hbefore.append_right _
      | some message =>
          obtain ⟨sent, hlabel, hshown⟩ := pending_link hlink hpending
          rw [hpending] at hbefore
          rw [hshown, hlabel]
          cases sent with
          | true => simpa [TaskLabel.taken] using hbefore
          | false =>
              simpa [TaskLabel.taken] using (List.sublist_append_left _ _).trans hbefore

/-- With no write failed all messages that were taken are heard, but for the last one. -/
theorem heard_eq (h : own.IsChain (ShowsNext client))
    (hwritten : ∀ turn ∈ own, turn.label ≠ .written client false) :
    heard client own ++ (pending own).toList = taken own := by
  induction own using List.reverseRecOn with
  | nil => rfl
  | append_singleton own next ih =>
      obtain ⟨hown, hlink⟩ := isChain_append_one.1 h
      have hbefore := ih hown fun turn hturn => hwritten turn (List.mem_append_left _ hturn)
      rw [heard_append_one, pending_append_one, taken_append_one, ← hbefore]
      cases hpending : pending own with
      | none => simp
      | some message =>
          obtain ⟨sent, hlabel, hshown⟩ := pending_link hlink hpending
          cases sent with
          | true => simp [hshown, hlabel, TaskLabel.taken]
          | false =>
              exact absurd hlabel (hwritten next (List.mem_append_right _ List.mem_cons_self))

end Turns

/-! ### The invariant -/

/-- The turns of a client's task against what the channel gave to its forwarder, and where the task
is while a message is to be written. -/
structure Hears (s : Announcing) (turns : List Turn) (client : Nat) : Prop where
  taken : taken (ownTurns client turns) =
    BroadcastChannel.messages (BroadcastChannel.given client (channelEvents turns))
  written : (ownTurns client turns).IsChain (ShowsNext client)
  waiting : ∀ message, pending (ownTurns client turns) = some message →
    ∃ f env, s.tasks.clients client = .writing f (.broadcast (some message) env) false ∧
      f.run = .forwarding

/-- A turn of another task. -/
theorem Hears.other {turn : Turn} {received : List (ChannelEvent Nat String)}
    (h : Hears s turns client) (htasks : s.tasks.step p turn.label = some (s'.tasks, turn.events))
    (hreceived : receptions s.channel turn.label = some received)
    (hhappens : turn.onChannel = onChannel s.tasks s'.tasks turn.label received turn.events)
    (hne : turn.label.client ≠ some client) : Hears s' (turns ++ [turn]) client := by
  have hown : ownTurns client (turns ++ [turn]) = ownTurns client turns := by
    rw [ownTurns_append_one, trackOwn, if_neg hne]
  have hgiven : BroadcastChannel.given client (channelEvents (turns ++ [turn])) =
      BroadcastChannel.given client (channelEvents turns) := by
    rw [given_channelEvents, hhappens]
    exact given_of_ne hreceived hne
  refine ⟨?_, ?_, ?_⟩
  · rw [hown, hgiven, h.taken]
  · rw [hown]
    exact h.written
  · rw [hown]
    intro message hpending
    rw [Tasks.clients_of_ne htasks hne]
    exact h.waiting message hpending

/-- A turn of the client's own task: while a message is pending it ends the write of it. -/
theorem Hears.own {turn : Turn} {received : List (ChannelEvent Nat String)}
    (h : Hears s turns client) (htasks : s.tasks.step p turn.label = some (s'.tasks, turn.events))
    (hreceived : receptions s.channel turn.label = some received)
    (hhappens : turn.onChannel = onChannel s.tasks s'.tasks turn.label received turn.events)
    (hclient : turn.label.client = some client) : Hears s' (turns ++ [turn]) client := by
  have hmessages : BroadcastChannel.messages
      (BroadcastChannel.given client (channelEvents (turns ++ [turn]))) =
        if turn.label.makesForwarder then []
        else BroadcastChannel.messages (BroadcastChannel.given client (channelEvents turns)) ++
          turn.label.taken.toList := by
    rw [given_channelEvents, hhappens]
    exact messages_of_step htasks hreceived hclient
  have hown : ownTurns client (turns ++ [turn]) =
      if turn.label.makesForwarder then [] else ownTurns client turns ++ [turn] := by
    rw [ownTurns_append_one, trackOwn, if_pos hclient]
  cases hmakes : turn.label.makesForwarder with
  | true =>
      -- the turns and what was given are counted from here
      rw [hmakes, if_pos rfl] at hmessages hown
      refine ⟨?_, ?_, ?_⟩
      · rw [hown, hmessages]
        rfl
      · rw [hown]
        exact List.isChain_nil
      · rw [hown]
        intro message hpending
        cases hpending
  | false =>
      rw [hmakes, if_neg Bool.false_ne_true] at hmessages hown
      refine ⟨?_, ?_, ?_⟩
      · rw [hown, hmessages, taken_append_one, h.taken]
      · rw [hown, isChain_append_one]
        refine ⟨h.written, ?_⟩
        intro last hlast message htaken
        obtain ⟨f, env, hpc, hrunning⟩ := h.waiting message (Option.bind_eq_some_iff.2
          ⟨last, hlast, htaken⟩)
        obtain ⟨sent, hlabel, hresult⟩ := written_of_writing htasks hclient hpc
        refine ⟨sent, hlabel, ?_⟩
        have hevents : turn.events = (s.tasks.afterHandler p client f
            ((Input.broadcast (some message) env).withSent sent)).2 := congrArg Prod.snd hresult
        rw [shown, hevents]
        exact shown_afterHandler hrunning env sent
      · rw [hown, pending_append_one]
        intro message htaken
        exact writing_of_taken htasks hclient htaken

theorem hears_exec {shared : Shared} {labels : List TaskLabel}
    (hrun : (system p).exec (start shared) labels = some (s, turns)) (client : Nat) :
    Hears s turns client := by
  refine @System.exec_invariant _ _ _ (system p) (fun _ _ => True)
    (fun s turns => Hears s turns client) ?_ labels (start shared) s [] turns
    ⟨rfl, List.isChain_nil, fun _ h => by cases h⟩ (System.meets_of_forall _ (by simp) _) hrun
  intro s turns label s' t h _ hstep
  obtain ⟨received, events, htasks, hreceived, -, rfl⟩ := step_eq_some hstep
  by_cases hclient : label.client = some client
  · exact h.own htasks hreceived rfl hclient
  · exact h.other htasks hreceived rfl hclient

end Steps

/-- In every run of the tasks, what is sent are the announcements of the lifecycle, and every
player is shown those since its forwarder was made in order and each at most once: each that the
forwarder takes is written to the player next, and one that it does not take in time is missed only
when sixteen newer ones have been made. -/
theorem announcements_delivered (p : ProxySetup) (shared : Shared) (labels : List TaskLabel)
    (s : Announcing) (turns : List Turn)
    (hrun : (system p).exec (start shared) labels = some (s, turns)) :
    Announced p shared labels s turns ∧ ∀ client, HearsAnnouncements client turns := by
  refine ⟨announced_exec hrun, fun client => ?_⟩
  obtain ⟨used, hdelivered⟩ := BroadcastChannel.delivered (channel_exec hrun) client
  have hhears := hears_exec hrun client
  have hsublist := heard_sublist hhears.written
  rw [hhears.taken] at hsublist
  have hheard : (heard client (ownTurns client turns)).Sublist
      (BroadcastChannel.messages (BroadcastChannel.given client (channelEvents turns))) :=
    (List.sublist_append_left _ _).trans hsublist
  have hcomplete : (∀ turn ∈ ownTurns client turns, turn.label ≠ .written client false) →
      heard client (ownTurns client turns) ++ (pending (ownTurns client turns)).toList =
        BroadcastChannel.messages (BroadcastChannel.given client (channelEvents turns)) :=
    fun hwritten => (heard_eq hhears.written hwritten).trans hhears.taken
  refine ⟨⟨used, hdelivered⟩, hhears.written, ?_, hcomplete, ?_⟩
  · exact hheard.trans (hdelivered.messages_sublist.trans (List.take_sublist _ _))
  · intro hwritten hnever
    have hprefix : heard client (ownTurns client turns) <+:
        BroadcastChannel.messages (BroadcastChannel.given client (channelEvents turns)) :=
      ⟨_, hcomplete hwritten⟩
    rw [hdelivered.messages_eq_take hnever] at hprefix
    exact hprefix.trans (List.take_prefix _ _)

/-- A player starts PR 7; it is shown the first of the three announcements, the write of the second
fails, and the third is to be written. -/
def heardSample : List TaskLabel :=
  Tasks.startSample ++
    [.takes 0 (.broadcast (some "§7[Proxy] Fetching PR #7 info from GitHub...")), .written 0 true,
      .takes 0 (.broadcast (some "§e[Proxy] Building PR #7 (commit 0123456)...")),
      .written 0 false,
      .takes 0 (.broadcast
        (some "§a[Proxy] PR #7 build queued. You will be notified when it's ready."))]

theorem announcements_delivered_heardSample :
    ∃ s turns, (system Tasks.sampleProxy).exec (start Tasks.sampleShared) heardSample =
        some (s, turns) ∧
      Announced Tasks.sampleProxy Tasks.sampleShared heardSample s turns ∧
      HearsAnnouncements 0 turns ∧
      heard 0 (ownTurns 0 turns) = ["§7[Proxy] Fetching PR #7 info from GitHub..."] ∧
      pending (ownTurns 0 turns) =
        some "§a[Proxy] PR #7 build queued. You will be notified when it's ready." := by
  have hheard : ((system Tasks.sampleProxy).exec (start Tasks.sampleShared) heardSample).map
      (fun result => (heard 0 (ownTurns 0 result.2), pending (ownTurns 0 result.2))) =
        some (["§7[Proxy] Fetching PR #7 info from GitHub..."],
          some "§a[Proxy] PR #7 build queued. You will be notified when it's ready.") := by
    decide +kernel
  obtain ⟨⟨s, turns⟩, hrun, hturns⟩ := Option.map_eq_some_iff.1 hheard
  obtain ⟨hannounced, hhears⟩ := announcements_delivered _ _ _ s turns hrun
  exact ⟨s, turns, hrun, hannounced, hhears 0, congrArg Prod.fst hturns, congrArg Prod.snd hturns⟩

/-! ### Catching up -/

/-- After the turns that come on top of `turns` the forwarder of a client has been given all that
was sent, nothing was sent in between, and the player has been shown each message that was given in
between. -/
structure CaughtUp (client : Nat) (turns later : List Turn) : Prop where
  nothingSent : BroadcastChannel.sentSince client (channelEvents later) =
    BroadcastChannel.sentSince client (channelEvents turns)
  all : BroadcastChannel.Delivered capacity
    (BroadcastChannel.sentSince client (channelEvents later))
    (BroadcastChannel.given client (channelEvents later))
    (BroadcastChannel.sentSince client (channelEvents later)).length
  shown : ∃ messages, heard client (ownTurns client later) =
      heard client (ownTurns client turns) ++ messages ∧
    BroadcastChannel.messages (BroadcastChannel.given client (channelEvents later)) =
      BroadcastChannel.messages (BroadcastChannel.given client (channelEvents turns)) ++ messages

section CatchingUp

variable {p : ProxySetup} {s : Announcing} {label : TaskLabel} {turns : List Turn} {client : Nat}
  {f : Forwarding}

/-- A reception that is shown, before the forwarder catches up. -/
theorem CaughtUp.after_reception {reception : Reception String} {turns₁ later : List Turn}
    (h : CaughtUp client (turns ++ turns₁) later)
    (hevents : channelEvents turns₁ = [.received client reception])
    (hheard : heard client (ownTurns client (turns ++ turns₁)) =
      heard client (ownTurns client turns) ++ reception.toOption.toList) :
    CaughtUp client turns later := by
  have hsent : BroadcastChannel.sentSince client (channelEvents (turns ++ turns₁)) =
      BroadcastChannel.sentSince client (channelEvents turns) := by
    rw [channelEvents_append, hevents, BroadcastChannel.sentSince_append_one]
    rfl
  have hgiven : BroadcastChannel.given client (channelEvents (turns ++ turns₁)) =
      BroadcastChannel.given client (channelEvents turns) ++ [reception] := by
    rw [channelEvents_append, hevents, BroadcastChannel.given_append_one,
      BroadcastChannel.trackGiven, if_pos rfl]
  obtain ⟨messages, hheard', hmessages⟩ := h.shown
  refine ⟨h.nothingSent.trans hsent, h.all, reception.toOption.toList ++ messages, ?_, ?_⟩
  · rw [hheard', hheard, List.append_assoc]
  · rw [hmessages, hgiven, BroadcastChannel.messages_append, List.append_assoc]
    cases reception <;> rfl

/-- A step of a forwarder that announces nothing and goes on. -/
theorem step_of_goesOn {tasks : Tasks} {events : List TaskEvent}
    {received : List (ChannelEvent Nat String)} {channel : BroadcastChannel Nat String}
    (htasks : s.tasks.step p label = some (tasks, events)) (hlabel : label.client = some client)
    (hbefore : (s.tasks.clients client).inForwarder = true)
    (hafter : (tasks.clients client).inForwarder = true)
    (hannounces : events.filterMap TaskEvent.announcement = [])
    (hreceived : receptions s.channel label = some received)
    (hchannel : (BroadcastChannel.system capacity).exec s.channel received =
      some (channel, received)) :
    step p s label = some (⟨tasks, channel⟩, [⟨label, received, events⟩]) := by
  have hmembership : membership s.tasks tasks label = [] := by
    rw [membership, hlabel]
    dsimp only
    rw [hbefore, hafter]
  simp only [step, htasks, hreceived, onChannel, hannounces, hmembership, List.map_nil,
    List.append_nil]
  rw [hchannel]
  rfl

/-- The channel gives the reception that is next. -/
theorem exec_received {channel : BroadcastChannel Nat String} {reception : Reception String}
    {c : Nat} (hnext : channel.next capacity client = some (reception, c)) :
    (BroadcastChannel.system capacity).exec channel [.received client reception] =
      some ({ channel with cursors := channel.cursors.insert client c },
        [.received client reception]) := by
  have hafter : channel.after capacity (.received client reception) =
      some { channel with cursors := channel.cursors.insert client c } :=
    BroadcastChannel.after_received_iff.2 ⟨c, hnext, rfl⟩
  rw [System.exec_singleton_iff]
  simp [BroadcastChannel.system, hafter]

/-- A forwarder in its loop takes a message, and writes it to its player. -/
theorem step_message {message : String} {c : Nat} (hf : s.tasks.clients client = .forwarding f)
    (hrunning : f.run = .forwarding)
    (hnext : s.channel.next capacity client = some (.message message, c)) :
    ∃ s₁ s₂ events,
      step p s (.takes client (.broadcast (some message))) = some (s₁,
        [⟨.takes client (.broadcast (some message)), [.received client (.message message)], []⟩]) ∧
      step p s₁ (.written client true) = some (s₂, [⟨.written client true, [], events⟩]) ∧
      events.filterMap (TaskEvent.shown client) = [message] ∧
      s₂.tasks.clients client = .forwarding f ∧
      s₂.channel = { s.channel with cursors := s.channel.cursors.insert client c } := by
  let input : Input := .broadcast (some message) (s.tasks.surroundings p (.ok ()))
  let tasks₁ := s.tasks.setClient client (.writing f input false)
  let events : List TaskEvent := [.forwarder client (.effect (.toClient (.systemChat message)))]
  have htakes : s.tasks.step p (.takes client (.broadcast (some message))) =
      some (tasks₁, []) := by
    simp only [Tasks.step, hf]
    rw [afterSelect_broadcast hrunning, Tasks.handle, peer_broadcast hrunning, Option.isSome_some,
      if_pos rfl]
  have hwrites : tasks₁.step p (.written client true) =
      some (tasks₁.setClient client (.forwarding f), events) := by
    simp [Tasks.step, tasks₁, input, events, Tasks.setClient, Tasks.afterHandler, Input.withSent,
      Forwarding.step, hrunning, PacketForwarder.sendSystemMessage, PacketForwarder.write]
  have hin : (s.tasks.clients client).inForwarder = true := by
    rw [hf]
    rfl
  have hin₁ : (tasks₁.clients client).inForwarder = true := by
    simp [tasks₁, Tasks.setClient, ClientPc.inForwarder]
  have hin₂ : ((tasks₁.setClient client (.forwarding f)).clients client).inForwarder = true := by
    simp [Tasks.setClient, ClientPc.inForwarder]
  refine ⟨_, _, events, step_of_goesOn htakes rfl hin hin₁ rfl rfl (exec_received hnext),
    step_of_goesOn hwrites rfl hin₁ hin₂ rfl rfl rfl, ?_, ?_, rfl⟩
  · simp [events, TaskEvent.shown]
  · simp [Tasks.setClient]

/-- A forwarder in its loop that has lagged goes on without a message. -/
theorem step_lagged {count c : Nat} (hf : s.tasks.clients client = .forwarding f)
    (hrunning : f.run = .forwarding)
    (hnext : s.channel.next capacity client = some (.lagged count, c)) :
    ∃ s₁, step p s (.takes client (.broadcast none)) = some (s₁,
        [⟨.takes client (.broadcast none), [.received client (.lagged count)], []⟩]) ∧
      s₁.tasks.clients client = .forwarding f ∧
      s₁.channel = { s.channel with cursors := s.channel.cursors.insert client c } := by
  have htakes : s.tasks.step p (.takes client (.broadcast none)) =
      some (s.tasks.setClient client (.forwarding f), []) := by
    simp only [Tasks.step, hf]
    rw [afterSelect_broadcast hrunning]
    simp [Tasks.handle, Forwarding.peer, Input.withSent, Forwarding.step, hrunning,
      Tasks.afterHandler]
  have hin : (s.tasks.clients client).inForwarder = true := by
    rw [hf]
    rfl
  have hin₁ : ((s.tasks.setClient client (.forwarding f)).clients client).inForwarder = true := by
    simp [Tasks.setClient, ClientPc.inForwarder]
  have hreceived : receptions s.channel (.takes client (.broadcast none)) =
      some [.received client (.lagged count)] := by
    simp [receptions, hnext]
  refine ⟨_, step_of_goesOn htakes rfl hin hin₁ rfl hreceived (exec_received hnext), ?_, rfl⟩
  simp [Tasks.setClient]

/-- The forwarder of a client takes what is next for it, and shows it to the player. -/
theorem taken_next {shared : Shared} {labels : List TaskLabel} {reception : Reception String}
    {c : Nat} (hrun : (system p).exec (start shared) labels = some (s, turns))
    (hf : s.tasks.clients client = .forwarding f) (hrunning : f.run = .forwarding)
    (hnext : s.channel.next capacity client = some (reception, c)) :
    ∃ labels₁ s₁ turns₁, (∀ l ∈ labels₁, TaskLabel.client l = some client) ∧
      (system p).exec s labels₁ = some (s₁, turns₁) ∧
      s₁.tasks.clients client = .forwarding f ∧
      s₁.channel = { s.channel with cursors := s.channel.cursors.insert client c } ∧
      channelEvents turns₁ = [.received client reception] ∧
      heard client (ownTurns client (turns ++ turns₁)) =
        heard client (ownTurns client turns) ++ reception.toOption.toList := by
  -- nothing is pending in the loop
  have hpending : pending (ownTurns client turns) = none := by
    cases hmessage : pending (ownTurns client turns) with
    | none => rfl
    | some message =>
        obtain ⟨f', env, hpc, -⟩ := (hears_exec hrun client).waiting message hmessage
        rw [hf] at hpc
        cases hpc
  have hown : ∀ (own : List Turn) (turn : Turn), turn.label.client = some client →
      turn.label.makesForwarder = false → trackOwn client own turn = own ++ [turn] := by
    intro own turn hlabel hmakes
    rw [trackOwn, if_pos hlabel, hmakes, if_neg Bool.false_ne_true]
  cases reception with
  | message message =>
      obtain ⟨s₁, s₂, events, htakes, hwrites, hshown, hf₂, hchannel⟩ :=
        step_message (p := p) hf hrunning hnext
      refine ⟨[.takes client (.broadcast (some message)), .written client true], s₂, _, ?_,
        (System.exec_cons_iff _).2 ⟨s₁, _, _, htakes, (System.exec_singleton_iff _).2 hwrites, rfl⟩,
        hf₂, hchannel, rfl, ?_⟩
      · intro l hl
        simp only [List.mem_cons, List.not_mem_nil, or_false] at hl
        rcases hl with rfl | rfl <;> rfl
      · rw [← List.append_assoc, ownTurns_append_one, ownTurns_append_one, hown _ _ rfl rfl,
          hown _ _ rfl rfl, heard_append_one, heard_append_one, pending_append_one, hpending]
        simp [TaskLabel.taken, shown, hshown, Reception.toOption]
  | lagged count =>
      obtain ⟨s₁, htakes, hf₁, hchannel⟩ := step_lagged (p := p) hf hrunning hnext
      refine ⟨[.takes client (.broadcast none)], s₁, _, ?_,
        (System.exec_singleton_iff _).2 htakes, hf₁, hchannel, rfl, ?_⟩
      · intro l hl
        cases List.mem_singleton.1 hl
        rfl
      · rw [ownTurns_append_one, hown _ _ rfl rfl, heard_append_one, hpending]
        simp [Reception.toOption]

/-- A forwarder in its loop catches up, by induction on how far it is behind. -/
theorem caughtUp_exec {shared : Shared} {labels : List TaskLabel} {c : Nat}
    (hrun : (system p).exec (start shared) labels = some (s, turns))
    (hf : s.tasks.clients client = .forwarding f) (hrunning : f.run = .forwarding)
    (hc : s.channel.cursors.lookup client = some c) :
    ∃ labels' s' turns', (∀ l ∈ labels', TaskLabel.client l = some client) ∧
      (system p).exec s labels' = some (s', turns') ∧
      s'.tasks.clients client = .forwarding f ∧ CaughtUp client turns (turns ++ turns') := by
  induction hbehind : s.channel.log.length - c using Nat.strong_induction_on
    generalizing s turns labels c with
  | h behind ih =>
      obtain ⟨used, hfollows⟩ := BroadcastChannel.follows_exec (channel_exec hrun) client
      cases hnext : s.channel.next capacity client with
      | none =>
          -- the forwarder is up with the channel
          refine ⟨[], s, [], by simp, rfl, hf, ?_⟩
          rw [List.append_nil]
          exact ⟨rfl, hfollows.delivered_all hc hnext, [], by simp, by simp⟩
      | some given =>
          obtain ⟨reception, c'⟩ := given
          obtain ⟨c₀, hc₀, hlt, hle⟩ := BroadcastChannel.lookup_of_next hnext
          rw [hc] at hc₀
          cases hc₀
          obtain ⟨labels₁, s₁, turns₁, hlabels₁, hrun₁, hf₁, hchannel, hevents, hheard⟩ :=
            taken_next hrun hf hrunning hnext
          have hlookup : s₁.channel.cursors.lookup client = some c' := by
            rw [hchannel]
            exact AList.lookup_insert _
          have hcloser : s₁.channel.log.length - c' < behind := by
            rw [hchannel]
            dsimp only
            omega
          have hexec : (system p).exec (start shared) (labels ++ labels₁) =
              some (s₁, turns ++ turns₁) :=
            (System.exec_append_iff _).2 ⟨s, turns, turns₁, hrun, hrun₁, rfl⟩
          obtain ⟨labels', s', turns', hlabels', hrun', hf', hcaught⟩ :=
            ih _ hcloser hexec hf₁ hlookup rfl
          refine ⟨labels₁ ++ labels', s', turns₁ ++ turns', ?_,
            (System.exec_append_iff _).2 ⟨s₁, turns₁, turns', hrun₁, hrun', rfl⟩, hf', ?_⟩
          · intro l hl
            rcases List.mem_append.1 hl with hl | hl
            · exact hlabels₁ l hl
            · exact hlabels' l hl
          · rw [← List.append_assoc]
            exact hcaught.after_reception hevents hheard

end CatchingUp

/-- In every state of every run a forwarder in its loop can be brought, by steps of its own task
alone, to have been given all announcements since it was made, and to have shown its player each
that it was given on the way. -/
theorem announcements_caught_up (p : ProxySetup) (shared : Shared) (labels : List TaskLabel)
    (s : Announcing) (turns : List Turn) (client : Nat) (f : Forwarding)
    (hrun : (system p).exec (start shared) labels = some (s, turns))
    (hf : s.tasks.clients client = .forwarding f) (hrunning : f.run = .forwarding) :
    ∃ labels' s' turns', (∀ l ∈ labels', TaskLabel.client l = some client) ∧
      (system p).exec s labels' = some (s', turns') ∧
      s'.tasks.clients client = .forwarding f ∧ CaughtUp client turns (turns ++ turns') := by
  have hsubscribed := subscribed_exec hrun client
  rw [hf] at hsubscribed
  obtain ⟨c, hc⟩ := Option.isSome_iff_exists.1 hsubscribed
  exact caughtUp_exec hrun hf hrunning hc

/-- The player starts PR 7, and has been shown the first of the three announcements. -/
def behindSample : List TaskLabel :=
  Tasks.startSample ++
    [.takes 0 (.broadcast (some "§7[Proxy] Fetching PR #7 info from GitHub...")), .written 0 true]

/-- The task is in the loop of its forwarder. -/
def inLoop : ClientPc → Bool
  | .forwarding f => decide (f.run = .forwarding)
  | _ => false

theorem announcements_caught_up_behindSample :
    ∃ s turns labels' s' turns',
      (system Tasks.sampleProxy).exec (start Tasks.sampleShared) behindSample = some (s, turns) ∧
      BroadcastChannel.sentSince 0 (channelEvents turns) =
        ["§7[Proxy] Fetching PR #7 info from GitHub...",
          "§e[Proxy] Building PR #7 (commit 0123456)...",
          "§a[Proxy] PR #7 build queued. You will be notified when it's ready."] ∧
      (system Tasks.sampleProxy).exec s labels' = some (s', turns') ∧
      CaughtUp 0 turns (turns ++ turns') := by
  have hbehind : ((system Tasks.sampleProxy).exec (start Tasks.sampleShared) behindSample).any
      (fun result => inLoop (result.1.tasks.clients 0) &&
        decide (BroadcastChannel.sentSince 0 (channelEvents result.2) =
          ["§7[Proxy] Fetching PR #7 info from GitHub...",
            "§e[Proxy] Building PR #7 (commit 0123456)...",
            "§a[Proxy] PR #7 build queued. You will be notified when it's ready."])) = true := by
    decide +kernel
  obtain ⟨⟨s, turns⟩, hrun, hloop⟩ := (Option.any_eq_true _ _).1 hbehind
  obtain ⟨hin, hsent⟩ := Bool.and_eq_true_iff.1 hloop
  cases hf : s.tasks.clients 0 with
  | forwarding f =>
      rw [hf] at hin
      obtain ⟨labels', s', turns', -, hrun', -, hcaught⟩ :=
        announcements_caught_up _ _ _ s turns 0 f hrun hf (of_decide_eq_true hin)
      exact ⟨s, turns, labels', s', turns', hrun, of_decide_eq_true hsent, hrun', hcaught⟩
  | _ => rw [hf] at hin; cases hin

end Announcing

end SteelProxy
