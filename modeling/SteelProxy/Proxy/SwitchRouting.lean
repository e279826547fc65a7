import SteelProxy.Proxy.LoginSafety
import SteelProxy.Proxy.PendingSwitches

/-!
# Switches and the clients that ask for them

The history of the pending switches tied to what the clients send: the player of a choice and of a
switch is the one of the connection's last hello, every request for a server of the registry is a
switch to that server, and only a switch is followed by a Transfer. The invariant tells where the
task of a client is from its last observation.
-/

set_option autoImplicit false

namespace SteelProxy

open SteelProxy.Library SteelProxy.Library.Transition

/-! ## What the clients send -/

/-- What the proxy takes from a client (an accepted hello, the acknowledgement of the login, or a
request of the forwarder's client for a server, with whether the registry has it), or an event of
the proxy. -/
inductive RoutingObservation where
  | hello (client : Nat) (uuid : Uuid)
  | acknowledged (client : Nat)
  | asked (client : Nat) (serverName : String) (found : Bool)
  | did (event : RoutingEvent)
  deriving DecidableEq, Repr

/-- The client whose task emits the event. -/
def RoutingEvent.client : RoutingEvent → Option Nat
  | .found client _ _ _ => some client
  | .switched client _ _ => some client
  | .transferred client => some client
  | .chosen client _ _ => some client
  | .lookedUp client _ _ => some client
  | .lookupFailed client _ _ => some client
  | .panicked client => some client
  | .registered _ => none
  | .unregistered _ => none

namespace RoutingObservation

/-- The client that is observed. -/
def client : RoutingObservation → Option Nat
  | .hello client _ => some client
  | .acknowledged client => some client
  | .asked client _ _ => some client
  | .did event => event.client

/-- The event of the proxy. -/
def event : RoutingObservation → Option RoutingEvent
  | .did event => some event
  | _ => none

/-- The observation, if it is one of the client. -/
def ofClient (client : Nat) (o : RoutingObservation) : Option RoutingObservation :=
  if o.client = some client then some o else none

/-- The uuid of a hello of the client. -/
def helloUuid (client : Nat) : RoutingObservation → Option Uuid
  | .hello client' uuid => if client' = client then some uuid else none
  | _ => none

end RoutingObservation

/-- The last observation of a client. -/
def lastBy (client : Nat) (obs : List RoutingObservation) : Option RoutingObservation :=
  lastOf (RoutingObservation.ofClient client) obs

/-- The uuid of the last hello of a client. -/
def helloOf (client : Nat) (obs : List RoutingObservation) : Option Uuid :=
  lastOf (RoutingObservation.helloUuid client) obs

/-- What an observation says about the observations of its client before it. -/
def Origin (pre : List RoutingObservation) : RoutingObservation → Prop
  | .did (.chosen client uuid _) =>
      lastBy client pre = some (.acknowledged client) ∧ helloOf client pre = some uuid
  | .did (.lookedUp client uuid name) => lastBy client pre = some (.did (.chosen client uuid name))
  | .did (.lookupFailed client uuid name) =>
      lastBy client pre = some (.did (.chosen client uuid name))
  | .did (.found client uuid name _) =>
      lastBy client pre = some (.asked client name true) ∧ helloOf client pre = some uuid
  | .did (.switched client uuid name) =>
      ∃ dynamic, lastBy client pre = some (.did (.found client uuid name dynamic))
  | .did (.transferred client) =>
      ∃ uuid name, lastBy client pre = some (.did (.switched client uuid name))
  | _ => True

/-- What the next observation of a client is after its last one, where `uuid` is that of its last
hello: an acknowledgement is answered with the choice of a backend, a request for a server of the
registry is a found target, and a found target is stored. -/
def Answers (uuid : Option Uuid) : RoutingObservation → RoutingObservation → Prop
  | .acknowledged client, next => uuid = none ∨ ∃ u name, next = .did (.chosen client u name)
  | .asked client name true, next => ∃ u dynamic, next = .did (.found client u name dynamic)
  | .did (.found client u name _), next => next = .did (.switched client u name)
  | _, _ => True

/-- The observation has its origin in those before it, and answers the last one of its client. -/
def Traced (pre : List RoutingObservation) (o : RoutingObservation) : Prop :=
  Origin pre o ∧ ∀ client last, o.client = some client → lastBy client pre = some last →
    Answers (helloOf client pre) last o

/-- No client waits for the answer to an acknowledgement after a hello or to a request for a
registered server; and a target that was found is about to be stored. -/
structure Settled (s : Routing) (obs : List RoutingObservation) (client : Nat) : Prop where
  acknowledged : lastBy client obs = some (.acknowledged client) → helloOf client obs = none
  asked : ∀ name, lastBy client obs ≠ some (.asked client name true)
  found : ∀ uuid name dynamic, lastBy client obs = some (.did (.found client uuid name dynamic)) →
    ∃ f input, s.clients client = .storing f input uuid name

/-- What the login of a client takes. -/
def LoginEvent.observation (client : Nat) : LoginEvent → Option RoutingObservation
  | .hello _ uuid => some (.hello client uuid)
  | .acknowledged => some (.acknowledged client)
  | _ => none

namespace Routing

/-- What a step takes from its client. -/
def taken (ids : PacketIds) (packets : LoginPackets) (s : Routing) :
    RoutingLabel → List RoutingObservation
  | .receives client packet _ =>
      match s.clients client with
      | .login state =>
          (ClientHandler.accepted packets state packet).filterMap (LoginEvent.observation client)
      | _ => []
  | .forwards client input =>
      match s.clients client with
      | .forwarding f =>
          (f.requested ids input).toList.map fun serverName =>
            .asked client serverName (s.backends.contains serverName)
      | _ => []
  | _ => []

/-- The proxy with what it takes from its clients. -/
def observed (ids : PacketIds) (packets : LoginPackets) (config : ProxyConfig) :
    System Routing RoutingLabel RoutingObservation :=
  (system ids packets config).annotated (taken ids packets) .did

/-! ### The invariant -/

/-- The last observation of a client calls for no answer. -/
def Answered (uuid : Option Uuid) : Option RoutingObservation → Prop
  | some (.acknowledged _) => uuid = none
  | some (.asked _ _ found) => found = false
  | some (.did (.found _ _ _ _)) => False
  | _ => True

/-- What the uuid of the last hello and the last observation say about the task of a client. -/
def Located (ids : PacketIds) (client : Nat) (uuid : Option Uuid)
    (last : Option RoutingObservation) : ClientTask → Prop
  | .absent => uuid = none ∧ last = none
  | .login state => state.playerUuid = uuid ∧ Answered uuid last
  | .lookup _ uuid' name => uuid = some uuid' ∧ last = some (.did (.chosen client uuid' name))
  | .connecting connector _ => uuid = some connector.uuid ∧ Answered uuid last
  | .forwarding f => uuid = some f.forwarder.playerUuid ∧ Answered uuid last
  | .storing f _ uuid' name =>
      uuid = some f.forwarder.playerUuid ∧ uuid' = f.forwarder.playerUuid ∧
        ∃ dynamic, last = some (.did (.found client uuid' name dynamic))
  | .writing f input =>
      uuid = some f.forwarder.playerUuid ∧ Answered uuid last ∧
        ((f.foundTarget ids input).isSome = true →
          ∃ uuid' name, last = some (.did (.switched client uuid' name)))
  | .ended => Answered uuid last

/-- Every task is where the observations of its client say. -/
def AllLocated (ids : PacketIds) (s : Routing) (obs : List RoutingObservation) : Prop :=
  ∀ client, Located ids client (helloOf client obs) (lastBy client obs) (s.clients client)

section Located

variable {ids : PacketIds} {packets : LoginPackets} {config : ProxyConfig} {s s' : Routing}
  {label : RoutingLabel} {obs block pre : List RoutingObservation} {client c : Nat}
  {o : RoutingObservation} {t : List RoutingEvent}

theorem lastBy_append_one (client : Nat) (obs : List RoutingObservation)
    (o : RoutingObservation) :
    lastBy client (obs ++ [o]) = if o.client = some client then some o else lastBy client obs := by
  rw [lastBy, lastOf_append_one, RoutingObservation.ofClient]
  split <;> rfl

theorem helloOf_append_one (client : Nat) (obs : List RoutingObservation)
    (o : RoutingObservation) :
    helloOf client (obs ++ [o]) = (o.helloUuid client).or (helloOf client obs) :=
  lastOf_append_one

/-- Observations of another client change nothing for a client. -/
theorem lastBy_append_of_ne (h : ∀ o ∈ block, o.client ≠ some c) :
    lastBy c (obs ++ block) = lastBy c obs :=
  lastOf_append_of_forall_none fun o ho => if_neg (h o ho)

theorem helloOf_append_of_ne (h : ∀ o ∈ block, o.client ≠ some c) :
    helloOf c (obs ++ block) = helloOf c obs := by
  refine lastOf_append_of_forall_none fun o ho => ?_
  have hne := h o ho
  cases o with
  | hello client uuid => exact if_neg fun heq => hne (congrArg some heq)
  | _ => rfl

/-- An observation of a client whose last one calls for no answer. -/
theorem traced_of_answered (hclient : o.client = some client) (horigin : Origin pre o)
    (h : Answered (helloOf client pre) (lastBy client pre)) : Traced pre o := by
  refine ⟨horigin, ?_⟩
  intro c last hc hlast
  rw [hclient] at hc
  cases hc
  rw [hlast] at h
  cases last with
  | hello client' uuid => trivial
  | acknowledged client' => exact Or.inl h
  | asked client' name found =>
      cases h
      trivial
  | did e => cases e <;> trivial

/-- An observation that answers the last one of its client. -/
theorem traced_of_answers {last : RoutingObservation} (hclient : o.client = some client)
    (horigin : Origin pre o) (hlast : lastBy client pre = some last)
    (hanswers : Answers (helloOf client pre) last o) : Traced pre o := by
  refine ⟨horigin, ?_⟩
  intro c last' hc hlast'
  rw [hclient] at hc
  cases hc
  rw [hlast] at hlast'
  cases hlast'
  exact hanswers

/-- A step of one client. -/
theorem AllLocated.set (h : AllLocated ids s obs) (client : Nat)
    (hblock : ∀ o ∈ block, o.client = some client)
    (hclients : ∀ c, c ≠ client → s'.clients c = s.clients c)
    (hlocated : Located ids client (helloOf client (obs ++ block)) (lastBy client (obs ++ block))
      (s'.clients client)) : AllLocated ids s' (obs ++ block) := by
  intro c
  by_cases hc : c = client
  · rw [hc]
    exact hlocated
  · have hne : ∀ o ∈ block, o.client ≠ some c := by
      intro o ho heq
      rw [hblock o ho] at heq
      exact hc (Option.some.inj heq).symm
    rw [helloOf_append_of_ne hne, lastBy_append_of_ne hne, hclients c hc]
    exact h c

/-- A step of no client. -/
theorem AllLocated.others (h : AllLocated ids s obs) (hblock : ∀ o ∈ block, o.client = none)
    (hclients : s'.clients = s.clients) : AllLocated ids s' (obs ++ block) := by
  intro c
  have hne : ∀ o ∈ block, o.client ≠ some c := by
    intro o ho heq
    rw [hblock o ho] at heq
    cases heq
  rw [helloOf_append_of_ne hne, lastBy_append_of_ne hne, hclients]
  exact h c

/-- A step of one client without observations. -/
theorem AllLocated.silent (h : AllLocated ids s obs) (client : Nat) {task : ClientTask}
    (hlocated : Located ids client (helloOf client obs) (lastBy client obs) task) :
    AllLocated ids (s.setClient client task) (obs ++ []) := by
  refine h.set client (by simp) ?_ ?_
  · intro c hne
    rw [clients_setClient, if_neg hne]
  · rw [List.append_nil, clients_setClient, if_pos rfl]
    exact hlocated

/-- A step of one client with one observation. -/
theorem AllLocated.one (h : AllLocated ids s obs) (client : Nat) {task : ClientTask}
    (ho : o.client = some client)
    (hlocated : Located ids client ((o.helloUuid client).or (helloOf client obs)) (some o) task) :
    AllLocated ids (s.setClient client task) (obs ++ [o]) := by
  refine h.set client ?_ ?_ ?_
  · intro x hx
    rw [List.mem_singleton.1 hx]
    exact ho
  · intro c hne
    rw [clients_setClient, if_neg hne]
  · rw [helloOf_append_one, lastBy_append_one, if_pos ho, clients_setClient, if_pos rfl]
    exact hlocated

/-- The replies of the login are no observations. -/
theorem taken_login {state : LoginState} {packet : RawPacket} (sent : Bool)
    (htask : s.clients client = .login state) :
    taken ids packets s (.receives client packet sent) =
      (ClientHandler.observe packets state packet sent).filterMap
        (LoginEvent.observation client) := by
  have houtcome : (ClientHandler.handle packets state packet sent).outcome.filterMap
      (LoginEvent.observation client) = [] := by
    cases ClientHandler.handle packets state packet sent with
    | next state' reply => cases reply <;> rfl
    | finished reply => cases reply <;> rfl
    | _ => rfl
  rw [taken, htask, ClientHandler.observe, List.filterMap_append, houtcome, List.append_nil]

/-- A step of one client with two observations. -/
theorem AllLocated.two {o' : RoutingObservation} (h : AllLocated ids s obs) (client : Nat)
    {task : ClientTask} (ho : o.client = some client) (ho' : o'.client = some client)
    (hlocated : Located ids client
      ((o'.helloUuid client).or ((o.helloUuid client).or (helloOf client obs))) (some o') task) :
    AllLocated ids (s.setClient client task) (obs ++ [o, o']) := by
  refine h.set client ?_ ?_ ?_
  · intro x hx
    rcases List.mem_cons.1 hx with rfl | hx
    · exact ho
    · rw [List.mem_singleton.1 hx]
      exact ho'
  · intro c hne
    rw [clients_setClient, if_neg hne]
  · rw [List.append_cons, helloOf_append_one, helloOf_append_one, lastBy_append_one, if_pos ho',
      clients_setClient, if_pos rfl]
    exact hlocated

/-- One observation of a client that owes no answer. -/
theorem traced_one (hclient : o.client = some client) (horigin : Origin obs o)
    (h : Answered (helloOf client obs) (lastBy client obs)) :
    Justified (fun pre => Traced (obs ++ pre)) [o] := by
  rw [justified_singleton_iff, List.append_nil]
  exact traced_of_answered hclient horigin h

/-- Two observations of a client that owes no answer, the second of which answers the first. -/
theorem traced_two {o' : RoutingObservation} (hclient : o.client = some client)
    (hclient' : o'.client = some client) (horigin : Origin obs o)
    (h : Answered (helloOf client obs) (lastBy client obs)) (horigin' : Origin (obs ++ [o]) o')
    (hanswers : Answers (helloOf client (obs ++ [o])) o o') :
    Justified (fun pre => Traced (obs ++ pre)) [o, o'] := by
  rw [justified_cons_iff, justified_singleton_iff, List.append_nil]
  refine ⟨traced_of_answered hclient horigin h, ?_⟩
  refine traced_of_answers hclient' horigin' ?_ hanswers
  rw [lastBy_append_one, if_pos hclient]

/-- An iteration of the login loop. -/
theorem located_login {state : LoginState} {packet : RawPacket} {sent : Bool}
    (h : AllLocated ids s obs) (htask : s.clients client = .login state) :
    AllLocated ids (s.afterLogin config client (ClientHandler.handle packets state packet sent)).1
        (obs ++ (taken ids packets s (.receives client packet sent) ++
          (s.afterLogin config client
            (ClientHandler.handle packets state packet sent)).2.map .did)) ∧
      Justified (fun pre => Traced (obs ++ pre))
        (taken ids packets s (.receives client packet sent) ++
          (s.afterLogin config client
            (ClientHandler.handle packets state packet sent)).2.map .did) := by
  have hlocated := h client
  rw [htask] at hlocated
  obtain ⟨hplayer, hanswered⟩ := hlocated
  have hiterated := @ClientHandler.iterated_handle packets state packet sent
  rw [taken_login sent htask]
  generalize ClientHandler.observe packets state packet sent = events at hiterated ⊢
  generalize ClientHandler.handle packets state packet sent = login at hiterated ⊢
  cases hiterated with
  | intended intent hprotocol => exact ⟨h.silent client ⟨hplayer, hanswered⟩, justified_nil⟩
  | described hprotocol => exact ⟨h.silent client ⟨hplayer, hanswered⟩, justified_nil⟩
  | ponged time hprotocol => exact ⟨h.silent client hanswered, justified_nil⟩
  | greeted name uuid hprotocol =>
      refine ⟨h.one client rfl ⟨?_, trivial⟩, traced_one rfl trivial hanswered⟩
      rw [RoutingObservation.helloUuid, if_pos rfl]
      rfl
  | unanswered name uuid => exact ⟨h.one client rfl trivial, traced_one rfl trivial hanswered⟩
  | acknowledged uuid hacknowledged =>
      have hhello : helloOf client obs = some uuid := hplayer.symm.trans hacknowledged
      have htarget : AllLocated ids (s.getTargetServer uuid).2 obs := h
      refine ⟨htarget.two client rfl rfl ⟨hhello, rfl⟩, ?_⟩
      refine traced_two rfl rfl trivial hanswered ⟨?_, ?_⟩ (Or.inr ⟨uuid, _, rfl⟩)
      · rw [lastBy_append_one]
        exact if_pos rfl
      · rw [helloOf_append_one]
        exact hhello
  | panicked hfirst =>
      refine ⟨h.one client rfl ?_, traced_one rfl trivial hanswered⟩
      exact hplayer.symm.trans hfirst.2.2.2
  | failed => exact ⟨h.silent client hanswered, justified_nil⟩
  | left => exact ⟨h.silent client hanswered, justified_nil⟩
  | skipped => exact ⟨h.silent client ⟨hplayer, hanswered⟩, justified_nil⟩

/-- The lookup of the chosen backend. -/
theorem located_lookup {username : Option String} {uuid : Uuid} {backendName : String}
    (h : AllLocated ids s obs) (htask : s.clients client = .lookup username uuid backendName) :
    AllLocated ids (s.afterLookup client username uuid backendName).1
        (obs ++ (s.afterLookup client username uuid backendName).2.map .did) ∧
      Justified (fun pre => Traced (obs ++ pre))
        ((s.afterLookup client username uuid backendName).2.map .did) := by
  have hlocated := h client
  rw [htask] at hlocated
  obtain ⟨hhello, hlast⟩ := hlocated
  have hanswered : Answered (helloOf client obs) (lastBy client obs) := by
    rw [hlast]
    trivial
  rw [afterLookup]
  cases s.backends.get backendName with
  | none => exact ⟨h.one client rfl trivial, traced_one rfl hlast hanswered⟩
  | some backend =>
      cases username with
      | none =>
          exact ⟨h.two client rfl rfl trivial, traced_two rfl rfl hlast hanswered trivial trivial⟩
      | some username =>
          exact ⟨h.one client rfl ⟨hhello, trivial⟩, traced_one rfl hlast hanswered⟩

/-- The handler of an input up to its write. -/
theorem located_forward {f f' : Forwarding} {input : Input} {events : List ForwardEvent}
    (h : AllLocated ids s obs) (htask : s.clients client = .forwarding f)
    (hforward : Forwarding.step ids config f (input.withBackends s.backends) =
      some (f', events)) :
    AllLocated ids (s.afterForward client f (input.withBackends s.backends) events).1
        (obs ++ (taken ids packets s (.forwards client input) ++
          (s.afterForward client f (input.withBackends s.backends) events).2.map .did)) ∧
      Justified (fun pre => Traced (obs ++ pre))
        (taken ids packets s (.forwards client input) ++
          (s.afterForward client f (input.withBackends s.backends) events).2.map .did) := by
  have hlocated := h client
  rw [htask] at hlocated
  obtain ⟨hhello, hanswered⟩ := hlocated
  have hfound := Forwarding.foundTarget_withBackends ids f input s.backends
  rw [afterForward, storedTarget_of_step hforward, taken, htask]
  dsimp only
  cases hrequested : f.requested ids input with
  | none =>
      rw [hrequested] at hfound
      refine ⟨h.silent client ⟨hhello, hanswered, ?_⟩, justified_nil⟩
      rw [hfound]
      exact fun hsome => absurd hsome Bool.false_ne_true
  | some serverName =>
      rw [hrequested] at hfound
      cases hcontains : s.backends.contains serverName with
      | false =>
          rw [Option.filter_some_neg hcontains] at hfound ⊢
          refine ⟨h.one client rfl ⟨hhello, hcontains, ?_⟩, traced_one rfl trivial hanswered⟩
          rw [hfound]
          exact fun hsome => absurd hsome Bool.false_ne_true
      | true =>
          rw [Option.filter_some_pos hcontains]
          simp only [Option.toList_some, List.map_cons, List.map_nil, hcontains]
          refine ⟨h.two client rfl rfl ⟨hhello, rfl, _, rfl⟩, ?_⟩
          refine traced_two rfl rfl trivial hanswered ⟨?_, ?_⟩ ⟨_, _, rfl⟩
          · rw [lastBy_append_one]
            exact if_pos rfl
          · rw [helloOf_append_one]
            exact hhello

/-- The write of a handler's packet. -/
theorem located_write {f : Forwarding} {input : Input} {sent : Bool}
    (h : AllLocated ids s obs) (htask : s.clients client = .writing f input) :
    AllLocated ids
        (s.afterWrite client (Forwarding.step ids config f (input.withSent sent))).1
        (obs ++ (s.afterWrite client
          (Forwarding.step ids config f (input.withSent sent))).2.map .did) ∧
      Justified (fun pre => Traced (obs ++ pre))
        ((s.afterWrite client
          (Forwarding.step ids config f (input.withSent sent))).2.map .did) := by
  have hlocated := h client
  rw [htask] at hlocated
  obtain ⟨hhello, hanswered, hswitched⟩ := hlocated
  cases hstep : Forwarding.step ids config f (input.withSent sent) with
  | none => exact ⟨h.silent client hanswered, justified_nil⟩
  | some result =>
      obtain ⟨f', events⟩ := result
      have hstepped := @Forwarding.stepped_of_step ids config _ _ _ _ hstep
      have hplayer : ∀ last, Answered (helloOf client obs) last →
          Located ids client (helloOf client obs) last
            (if f'.run = .closed then .ended else .forwarding f') := by
        intro last hlast
        split
        · exact hlast
        · rename_i hopen
          refine ⟨?_, hlast⟩
          rw [hstepped.playerUuid hopen]
          exact hhello
      rw [afterWrite]
      dsimp only
      by_cases htransfer : events.any ForwardEvent.isTransfer = true
      · rw [if_pos htransfer]
        have hfound := hstepped.transfer htransfer
        rw [Forwarding.foundTarget_withSent] at hfound
        exact ⟨h.one client rfl (hplayer _ trivial), traced_one rfl (hswitched hfound) hanswered⟩
      · rw [if_neg htransfer]
        exact ⟨h.silent client (hplayer _ hanswered), justified_nil⟩

/-- One step keeps every task located, and its observations are traced. -/
theorem located_step (h : AllLocated ids s obs)
    (hstepped : Stepped ids packets config s label s' t) :
    AllLocated ids s' (obs ++ (taken ids packets s label ++ t.map .did)) ∧
      Justified (fun pre => Traced (obs ++ pre)) (taken ids packets s label ++ t.map .did) := by
  cases hstepped with
  | accepted client htask =>
      have hlocated := h client
      rw [htask] at hlocated
      refine ⟨h.silent client ⟨hlocated.1.symm, ?_⟩, justified_nil⟩
      rw [hlocated.2]
      trivial
  | received client packet sent state htask => exact located_login h htask
  | lookedUp client username uuid backendName htask => exact located_lookup h htask
  | connectFailed client connector backendName htask =>
      have hlocated := h client
      rw [htask] at hlocated
      exact ⟨h.silent client hlocated.2, justified_nil⟩
  | connected client connector backendName threshold htask =>
      have hlocated := h client
      rw [htask] at hlocated
      exact ⟨h.silent client hlocated, justified_nil⟩
  | forwarded client input f f' events htask hforward => exact located_forward h htask hforward
  | stored client f input uuid serverName htask =>
      have hlocated := h client
      rw [htask] at hlocated
      obtain ⟨hhello, rfl, dynamic, hlast⟩ := hlocated
      have htarget : AllLocated ids (s.setTargetServer f.forwarder.playerUuid serverName) obs := h
      refine ⟨htarget.one client rfl ⟨hhello, trivial, fun _ => ⟨_, _, rfl⟩⟩, ?_⟩
      show Justified (fun pre => Traced (obs ++ pre)) [_]
      rw [justified_singleton_iff, List.append_nil]
      exact traced_of_answers rfl ⟨dynamic, hlast⟩ hlast rfl
  | wrote client sent f input htask => exact located_write h htask
  | added name backend =>
      refine ⟨h.others (by simp [taken, RoutingObservation.client, RoutingEvent.client]) rfl, ?_⟩
      refine justified_singleton_iff.2 ⟨trivial, ?_⟩
      intro c last hc
      cases hc
  | removed name =>
      split
      · refine ⟨h.others (by simp [taken, RoutingObservation.client, RoutingEvent.client]) rfl, ?_⟩
        refine justified_singleton_iff.2 ⟨trivial, ?_⟩
        intro c last hc
        cases hc
      · exact ⟨h.others (by simp [taken]) rfl, justified_nil⟩

theorem settled_of_answered (h : Answered (helloOf client obs) (lastBy client obs)) :
    Settled s obs client where
  acknowledged hlast := by
    rw [hlast] at h
    exact h
  asked name hlast := by
    rw [hlast] at h
    cases h
  found uuid name dynamic hlast := by
    rw [hlast] at h
    exact h.elim

/-- No task is located where a client waits for an answer. -/
theorem AllLocated.settled (h : AllLocated ids s obs) (client : Nat) : Settled s obs client := by
  have hlocated := h client
  cases htask : s.clients client with
  | absent =>
      rw [htask] at hlocated
      refine settled_of_answered ?_
      rw [hlocated.2]
      trivial
  | login state =>
      rw [htask] at hlocated
      exact settled_of_answered hlocated.2
  | lookup username uuid backendName =>
      rw [htask] at hlocated
      refine settled_of_answered ?_
      rw [hlocated.2]
      trivial
  | connecting connector backendName =>
      rw [htask] at hlocated
      exact settled_of_answered hlocated.2
  | forwarding f =>
      rw [htask] at hlocated
      exact settled_of_answered hlocated.2
  | storing f input uuid serverName =>
      rw [htask] at hlocated
      obtain ⟨-, -, dynamic, hlast⟩ := hlocated
      refine ⟨?_, ?_, ?_⟩
      · intro heq
        rw [hlast] at heq
        cases heq
      · intro name heq
        rw [hlast] at heq
        cases heq
      · intro uuid' name dynamic' heq
        rw [hlast] at heq
        cases heq
        exact ⟨f, input, htask⟩
  | writing f input =>
      rw [htask] at hlocated
      exact settled_of_answered hlocated.2.1
  | ended =>
      rw [htask] at hlocated
      exact settled_of_answered hlocated

/-- The observations of every run are traced, and no client waits for an answer. -/
theorem traced_run {labels : List RoutingLabel}
    (hrun : (observed ids packets config).exec (start config) labels = some (s, obs)) :
    Justified Traced obs ∧ ∀ client, Settled s obs client := by
  have hinv : ∀ s obs label s' block, (AllLocated ids s obs ∧ Justified Traced obs) → True →
      (observed ids packets config).step s label = some (s', block) →
      AllLocated ids s' (obs ++ block) ∧ Justified Traced (obs ++ block) := by
    intro s obs label s' block h _ hstep
    obtain ⟨t, hrouting, rfl⟩ := (System.step_annotated_iff _).1 hstep
    obtain ⟨hlocated, htraced⟩ := located_step h.1 (stepped_of_step hrouting)
    exact ⟨hlocated, justified_append_iff.2 ⟨h.2, htraced⟩⟩
  have hstart : AllLocated ids (start config) [] := fun _ => ⟨rfl, rfl⟩
  have h := (observed ids packets config).exec_invariant hinv ⟨hstart, justified_nil⟩
    ((observed ids packets config).meets_of_forall (fun _ _ _ => trivial) _) hrun
  rw [List.nil_append] at h
  exact ⟨h.2, h.1.settled⟩

end Located

/-- What a step takes from its client is no event of the proxy. -/
theorem events_taken (ids : PacketIds) (packets : LoginPackets) (s : Routing)
    (label : RoutingLabel) :
    (taken ids packets s label).filterMap RoutingObservation.event = [] := by
  rw [List.filterMap_eq_nil_iff]
  intro o ho
  cases label with
  | receives client packet sent =>
      simp only [taken] at ho
      split at ho
      · obtain ⟨e, -, he⟩ := List.mem_filterMap.1 ho
        cases e <;> cases he <;> rfl
      · cases ho
  | forwards client input =>
      simp only [taken] at ho
      split at ho
      · obtain ⟨name, -, rfl⟩ := List.mem_map.1 ho
        rfl
      · cases ho
  | _ => cases ho

/-! ## Runs -/

/-- In every run of the proxy with a loaded configuration, the backend name chosen at an
acknowledged login is the target of the player's last switch since the last acknowledged login,
or the default server; and its lookup fails only for the target of such a switch that is no
static backend, was found among the dynamic backends and has been unregistered since. The player
is the one of the connection's last hello; a request for a server of the registry finds it and is
stored for that player; and only a stored switch is followed by a Transfer. -/
theorem login_routed (readToString : String → Option String)
    (fromStr : String → Option ProxyConfig) (path : String) (ids : PacketIds)
    (packets : LoginPackets) (config : ProxyConfig) (labels : List RoutingLabel) (s : Routing)
    (obs : List RoutingObservation)
    (hload : ProxyConfig.load readToString fromStr path = .ok config)
    (hrun : (observed ids packets config).exec (start config) labels = some (s, obs)) :
    Justified (Routed config) (obs.filterMap RoutingObservation.event) ∧ Justified Traced obs ∧
      ∀ client, Settled s obs client := by
  have hdefault := ProxyConfig.defaultServer_mem_of_load hload
  have hevents := (system ids packets config).exec_of_annotated (events_taken ids packets)
    (fun _ => rfl) hrun
  exact ⟨routed_run hdefault hevents, traced_run hrun⟩

/-- The configuration file of `sampleConfig`. -/
def sampleToml : String :=
  "public_address = \"proxy.example\"\ndefault_server = \"master\"\n" ++
    "[backends.master]\naddress = \"10.0.0.1\"\nport = 25566\n"

/-- A client connects and logs in, up to the lookup of its backend. -/
def sampleLogin (client : Nat) : List RoutingLabel :=
  [.accepts client, .receives client sampleIntention true, .receives client sampleHello true,
    .receives client ⟨3, []⟩ true, .looksUp client]

/-- A player asks for a server that is unknown, and switches to a dynamic backend, which is
unregistered before the next login. -/
def dropSample : List RoutingLabel :=
  sampleLogin 0 ++
    [.connects 0 (some none), .forwards 0 (.client ⟨3, []⟩ .sample), .writes 0 true,
      .forwards 0 (.client ⟨6, [11, 115, 101, 114, 118, 101, 114, 32, 112, 114, 45, 55]⟩ .sample),
      .writes 0 true, .addDynamic "pr-7" ⟨"127.0.0.1", 30007, none⟩,
      .forwards 0 (.client ⟨6, [11, 115, 101, 114, 118, 101, 114, 32, 112, 114, 45, 55]⟩ .sample),
      .stores 0, .writes 0 true, .removeDynamic "pr-7"] ++
    sampleLogin 1

/-- The observations of `dropSample`. -/
def dropTrace : List RoutingObservation :=
  [.hello 0 1, .acknowledged 0, .did (.chosen 0 1 "master"), .did (.lookedUp 0 1 "master"),
    .asked 0 "pr-7" false, .did (.registered "pr-7"), .asked 0 "pr-7" true,
    .did (.found 0 1 "pr-7" true), .did (.switched 0 1 "pr-7"), .did (.transferred 0),
    .did (.unregistered "pr-7"), .hello 1 1, .acknowledged 1, .did (.chosen 1 1 "pr-7"),
    .did (.lookupFailed 1 1 "pr-7")]

theorem login_routed_dropTrace :
    Justified (Routed sampleConfig) (dropTrace.filterMap RoutingObservation.event) ∧
      Justified Traced dropTrace := by
  have hload : ProxyConfig.load (fun path => if path = "proxy.toml" then some sampleToml else none)
      (fun content => if content = sampleToml then some sampleConfig else none) "proxy.toml" =
      .ok sampleConfig := by rfl
  have hevents : ((observed .sample .sample sampleConfig).exec (start sampleConfig)
      dropSample).map Prod.snd = some dropTrace := by decide +kernel
  obtain ⟨s, hrun⟩ := System.exists_exec_of_events _ hevents
  have h := login_routed _ _ "proxy.toml" .sample .sample sampleConfig dropSample s dropTrace
    hload hrun
  exact ⟨h.1, h.2.1⟩

end Routing

end SteelProxy
