import SteelProxy.Proxy.Routing

/-!
# The history of the pending switches

In every run of the proxy, the backend name chosen at an acknowledged login is the target of the
player's last switch since the previous acknowledged login, or the default server; and the lookup
of the chosen name fails only for the target of a switch that was a dynamic backend when it was
found and has been unregistered since. The invariant ties the pending switches to the history.
-/

set_option autoImplicit false

namespace SteelProxy

open SteelProxy.Library SteelProxy.Library.Transition

/-! ## What a step does -/

/-- The server that an input of the loop asks for. -/
def Forwarding.requested (ids : PacketIds) (f : Forwarding) : Input → Option String
  | .client packet _ =>
      if f.run = .forwarding then
        PacketForwarder.switchTarget ids f.forwarder.currentProtocol packet
      else
        none
  | _ => none

theorem Forwarding.foundTarget_withBackends (ids : PacketIds) (f : Forwarding) (input : Input)
    (backends : BackendRegistry) :
    f.foundTarget ids (input.withBackends backends) =
      (f.requested ids input).filter backends.contains := by
  cases input with
  | client packet env =>
      simp only [Input.withBackends, foundTarget, requested]
      split <;> rfl
  | _ => rfl

theorem Forwarding.foundTarget_withSent (ids : PacketIds) (f : Forwarding) (input : Input)
    (sent : Bool) : f.foundTarget ids (input.withSent sent) = f.foundTarget ids input := by
  cases input <;> rfl

/-- A task that holds no name that it found or chose. -/
def ClientTask.Inert : ClientTask → Prop
  | .lookup _ _ _ => False
  | .storing _ _ _ _ => False
  | _ => True

/-- An event that is no switch and no choice of a backend, and changes no registry. -/
def RoutingEvent.Neutral : RoutingEvent → Prop
  | .transferred _ => True
  | .lookedUp _ _ _ => True
  | .panicked _ => True
  | _ => False

namespace Routing

/-- The steps of the proxy. -/
inductive Moved (config : ProxyConfig) (s : Routing) : Routing → List RoutingEvent → Prop where
  | quiet (client : Nat) (task : ClientTask) (t : List RoutingEvent) (hinert : task.Inert)
      (hneutral : ∀ e ∈ t, e.Neutral) : Moved config s (s.setClient client task) t
  | chosen (client : Nat) (username : Option String) (uuid : Uuid) (backendName : String)
      (hname : backendName = (s.pendingSwitches.lookup uuid).getD config.defaultServer) :
      Moved config s
        ((s.getTargetServer uuid).2.setClient client (.lookup username uuid backendName))
        [.chosen client uuid backendName]
  | lookupFailed (client : Nat) (username : Option String) (uuid : Uuid) (backendName : String)
      (hclient : s.clients client = .lookup username uuid backendName)
      (hget : s.backends.get backendName = none) :
      Moved config s (s.setClient client .ended) [.lookupFailed client uuid backendName]
  | found (client : Nat) (f : Forwarding) (input : Input) (uuid : Uuid) (serverName : String)
      (hfound : s.backends.contains serverName = true) :
      Moved config s (s.setClient client (.storing f input uuid serverName))
        [.found client uuid serverName (s.backends.dynamicBackends.lookup serverName).isSome]
  | stored (client : Nat) (f : Forwarding) (input : Input) (uuid : Uuid) (serverName : String)
      (hclient : s.clients client = .storing f input uuid serverName) :
      Moved config s ((s.setTargetServer uuid serverName).setClient client (.writing f input))
        [.switched client uuid serverName]
  | registered (name : String) (backend : BackendServer) :
      Moved config s { s with backends := s.backends.addDynamic name backend } [.registered name]
  | unregistered (name : String)
      (hremoved : (s.backends.dynamicBackends.lookup name).isSome = true) :
      Moved config s { s with backends := (s.backends.removeDynamic name).2 } [.unregistered name]
  | nothingRemoved (name : String)
      (habsent : (s.backends.dynamicBackends.lookup name).isSome = false) :
      Moved config s { s with backends := (s.backends.removeDynamic name).2 } []

section Moved

variable {ids : PacketIds} {packets : LoginPackets} {config : ProxyConfig} {s s' : Routing}
  {label : RoutingLabel} {t : List RoutingEvent}

/-- The target that a handler stores: the requested server, under the uuid of the player. -/
theorem storedTarget_of_step {f f' : Forwarding} {input : Input} {events : List ForwardEvent}
    (hforward : Forwarding.step ids config f (input.withBackends s.backends) =
      some (f', events)) :
    events.findSome? ForwardEvent.storedTarget =
      ((f.requested ids input).filter s.backends.contains).map fun serverName =>
        (f.forwarder.playerUuid, serverName) := by
  rw [(@Forwarding.stepped_of_step ids config _ _ _ _ hforward).storedTarget,
    Forwarding.foundTarget_withBackends]

/-- A step that is quiet for its client. -/
theorem Moved.silent {client : Nat} {task : ClientTask} (hinert : task.Inert) :
    Moved config s (s.setClient client task) [] :=
  .quiet client task [] hinert (by simp)

/-- Every step of the proxy is one of `Moved`. -/
theorem moved_of_stepped (h : Stepped ids packets config s label s' t) : Moved config s s' t := by
  cases h with
  | accepted client htask => exact .silent trivial
  | received client packet sent state htask =>
      cases hlogin : ClientHandler.handle packets state packet sent with
      | next state' reply => exact .silent trivial
      | acknowledged username uuid => exact .chosen client username uuid _ rfl
      | finished reply => exact .silent trivial
      | failed => exact .silent trivial
      | panicked => exact .silent trivial
  | lookedUp client username uuid backendName htask =>
      rw [afterLookup]
      cases hget : s.backends.get backendName with
      | none => exact .lookupFailed client username uuid backendName htask hget
      | some backend =>
          cases username with
          | none => exact .quiet client _ _ trivial (by simp [RoutingEvent.Neutral])
          | some username => exact .quiet client _ _ trivial (by simp [RoutingEvent.Neutral])
  | connectFailed client connector backendName htask => exact .silent trivial
  | connected client connector backendName threshold htask => exact .silent trivial
  | forwarded client input f f' events htask hforward =>
      rw [afterForward, storedTarget_of_step hforward]
      cases hfound : (f.requested ids input).filter s.backends.contains with
      | none => exact .silent trivial
      | some serverName =>
          exact .found client f _ _ serverName (Option.filter_eq_some_iff.1 hfound).2
  | stored client f input uuid serverName htask => exact .stored client f input uuid _ htask
  | wrote client sent f input htask =>
      cases Forwarding.step ids config f (input.withSent sent) with
      | none => exact .silent trivial
      | some result =>
          rw [afterWrite]
          refine .quiet client _ _ ?_ ?_
          · split <;> trivial
          · dsimp only
            split <;> simp [RoutingEvent.Neutral]
  | added name backend => exact .registered name backend
  | removed name =>
      split
      · rename_i hremoved
        exact .unregistered name hremoved
      · rename_i habsent
        exact .nothingRemoved name (Bool.not_eq_true _ ▸ habsent)

end Moved

end Routing

/-! ## The history of the pending switches -/

/-- What an event makes the pending switch of a player. -/
def RoutingEvent.pending (uuid : Uuid) : RoutingEvent → Option (Option String)
  | .switched _ uuid' serverName => if uuid' = uuid then some (some serverName) else none
  | .chosen _ uuid' _ => if uuid' = uuid then some none else none
  | _ => none

/-- The target of the player's last switch since the last acknowledged login. -/
def pendingTarget (uuid : Uuid) (tr : List RoutingEvent) : Option String :=
  (lastOf (RoutingEvent.pending uuid) tr).join

theorem pendingTarget_append_one (uuid : Uuid) (tr : List RoutingEvent) (e : RoutingEvent) :
    pendingTarget uuid (tr ++ [e]) = (e.pending uuid).getD (pendingTarget uuid tr) := by
  rw [pendingTarget, lastOf_append_one]
  cases e.pending uuid with
  | none => rfl
  | some target => rfl

theorem pendingTarget_append {uuid : Uuid} {tr t : List RoutingEvent}
    (ht : ∀ e ∈ t, e.pending uuid = none) :
    pendingTarget uuid (tr ++ t) = pendingTarget uuid tr := by
  rw [pendingTarget, lastOf_append_of_forall_none ht]
  rfl

/-- The last call of `switch_server` by the client found the target; `since` are the events since
then. -/
def FoundBy (tr : List RoutingEvent) (client : Nat) (uuid : Uuid) (name : String) (dynamic : Bool)
    (since : List RoutingEvent) : Prop :=
  ∃ a, tr = a ++ .found client uuid name dynamic :: since ∧
    ∀ uuid' name' dynamic', .found client uuid' name' dynamic' ∉ since

/-- The target of the player's last switch, stored by the call that found it, with the events
since it was found. -/
def LastSwitch (tr : List RoutingEvent) (uuid : Uuid) (name : String) (dynamic : Bool)
    (since : List RoutingEvent) : Prop :=
  ∃ client pre b e, tr = pre ++ .switched client uuid name :: e ∧
    FoundBy pre client uuid name dynamic b ∧ since = b ++ .switched client uuid name :: e ∧
      ∀ x ∈ e, x.pending uuid = none

/-- What an event of a run says about the events before it. -/
def Routed (config : ProxyConfig) (pre : List RoutingEvent) : RoutingEvent → Prop
  | .switched client uuid serverName =>
      ∃ dynamic since, FoundBy pre client uuid serverName dynamic since
  | .chosen _ uuid backendName =>
      backendName = (pendingTarget uuid pre).getD config.defaultServer
  | .lookupFailed client uuid backendName =>
      ∃ a since b, pre = a ++ .chosen client uuid backendName :: b ∧
        (∀ uuid' name', .chosen client uuid' name' ∉ b) ∧
        pendingTarget uuid a = some backendName ∧ LastSwitch a uuid backendName true since ∧
        backendName ∉ config.backends ∧ .unregistered backendName ∈ since ++ b
  | _ => True

section History

variable {tr t since : List RoutingEvent} {client : Nat} {uuid : Uuid} {name : String}
  {dynamic : Bool}

theorem FoundBy.append (h : FoundBy tr client uuid name dynamic since)
    (ht : ∀ uuid' name' dynamic', .found client uuid' name' dynamic' ∉ t) :
    FoundBy (tr ++ t) client uuid name dynamic (since ++ t) := by
  obtain ⟨a, rfl, hlast⟩ := h
  refine ⟨a, by simp, ?_⟩
  intro uuid' name' dynamic' hmem
  rcases List.mem_append.1 hmem with hmem | hmem
  · exact hlast uuid' name' dynamic' hmem
  · exact ht uuid' name' dynamic' hmem

theorem LastSwitch.append (h : LastSwitch tr uuid name dynamic since)
    (ht : ∀ e ∈ t, e.pending uuid = none) :
    LastSwitch (tr ++ t) uuid name dynamic (since ++ t) := by
  obtain ⟨client, pre, b, e, rfl, hfound, rfl, hquiet⟩ := h
  refine ⟨client, pre, b, e ++ t, by simp, hfound, by simp, ?_⟩
  intro x hx
  rcases List.mem_append.1 hx with hx | hx
  · exact hquiet x hx
  · exact ht x hx

theorem LastSwitch.pendingTarget_eq (h : LastSwitch tr uuid name dynamic since) :
    pendingTarget uuid tr = some name := by
  obtain ⟨client, pre, b, e, rfl, hfound, rfl, hquiet⟩ := h
  rw [List.append_cons, pendingTarget_append hquiet,
    pendingTarget_append_one, RoutingEvent.pending, if_pos rfl, Option.getD_some]

end History

namespace Routing

/-! ## The invariant -/

/-- A static backend, or one that was dynamic and is still listed or has been unregistered
since. -/
def Listed (s : Routing) (name : String) (dynamic : Bool) (since : List RoutingEvent) : Prop :=
  (s.backends.staticBackends.lookup name).isSome = true ∨
    (dynamic = true ∧ ((s.backends.dynamicBackends.lookup name).isSome = true ∨
      .unregistered name ∈ since))

/-- The registry changes with the events that say so. -/
def Registers (s s' : Routing) (t : List RoutingEvent) : Prop :=
  s'.backends.staticBackends = s.backends.staticBackends ∧
    ∀ name, (s.backends.dynamicBackends.lookup name).isSome = true →
      (s'.backends.dynamicBackends.lookup name).isSome = true ∨ .unregistered name ∈ t

/-- The name was chosen at the client's last acknowledged login, as the default server or as the
target of the player's last switch. -/
def ChosenBy (config : ProxyConfig) (s : Routing) (tr : List RoutingEvent) (client : Nat)
    (uuid : Uuid) (name : String) : Prop :=
  ∃ a b, tr = a ++ .chosen client uuid name :: b ∧
    (∀ uuid' name', .chosen client uuid' name' ∉ b) ∧
    (name = config.defaultServer ∨
      ∃ dynamic since, LastSwitch a uuid name dynamic since ∧ Listed s name dynamic (since ++ b))

/-- The invariant of the proxy. -/
structure Routes (config : ProxyConfig) (s : Routing) (tr : List RoutingEvent) : Prop where
  static : s.backends.staticBackends = config.backends
  pending : ∀ uuid, s.pendingSwitches.lookup uuid = pendingTarget uuid tr
  targets : ∀ uuid name, s.pendingSwitches.lookup uuid = some name →
    ∃ dynamic since, LastSwitch tr uuid name dynamic since ∧ Listed s name dynamic since
  storing : ∀ client f input uuid name, s.clients client = .storing f input uuid name →
    ∃ dynamic since, FoundBy tr client uuid name dynamic since ∧ Listed s name dynamic since
  lookup : ∀ client username uuid name, s.clients client = .lookup username uuid name →
    ChosenBy config s tr client uuid name

section Invariant

variable {config : ProxyConfig} {s s' : Routing} {tr t since : List RoutingEvent} {client : Nat}
  {uuid : Uuid} {name : String} {dynamic : Bool}

theorem registers_of_eq (h : s'.backends = s.backends) : Registers s s' t := by
  rw [Registers, h]
  exact ⟨rfl, fun _ hlisted => Or.inl hlisted⟩

theorem Listed.mono (h : Listed s name dynamic since) (hregisters : Registers s s' t) :
    Listed s' name dynamic (since ++ t) := by
  rw [Listed, hregisters.1]
  rcases h with hstatic | ⟨hdynamic, hlisted | hgone⟩
  · exact Or.inl hstatic
  · rcases hregisters.2 name hlisted with hlisted' | hgone
    · exact Or.inr ⟨hdynamic, Or.inl hlisted'⟩
    · exact Or.inr ⟨hdynamic, Or.inr (List.mem_append_right since hgone)⟩
  · exact Or.inr ⟨hdynamic, Or.inr (List.mem_append_left t hgone)⟩

theorem ChosenBy.mono (h : ChosenBy config s tr client uuid name)
    (hregisters : Registers s s' t) (ht : ∀ uuid' name', .chosen client uuid' name' ∉ t) :
    ChosenBy config s' (tr ++ t) client uuid name := by
  obtain ⟨a, b, rfl, hlast, hchosen⟩ := h
  refine ⟨a, b ++ t, by simp, ?_, ?_⟩
  · intro uuid' name' hmem
    rcases List.mem_append.1 hmem with hmem | hmem
    · exact hlast uuid' name' hmem
    · exact ht uuid' name' hmem
  · rcases hchosen with hdefault | ⟨dynamic, since, hswitch, hlisted⟩
    · exact Or.inl hdefault
    · have hlisted' := hlisted.mono hregisters
      rw [List.append_assoc] at hlisted'
      exact Or.inr ⟨dynamic, since, hswitch, hlisted'⟩

/-- The target of a player's last switch, after events that are no switch of the player. -/
theorem Routes.target_append (h : Routes config s tr)
    (htarget : s.pendingSwitches.lookup uuid = some name)
    (hquiet : ∀ e ∈ t, e.pending uuid = none) (hregisters : Registers s s' t) :
    ∃ dynamic since, LastSwitch (tr ++ t) uuid name dynamic since ∧
      Listed s' name dynamic since := by
  obtain ⟨dynamic, since, hswitch, hlisted⟩ := h.targets uuid name htarget
  exact ⟨dynamic, since ++ t, hswitch.append hquiet, hlisted.mono hregisters⟩

/-- The target that a client has found, after events in which it finds no other. -/
theorem Routes.found_append (h : Routes config s tr) {f : Forwarding} {input : Input}
    (hclient : s.clients client = .storing f input uuid name)
    (hfound : ∀ uuid' name' dynamic', .found client uuid' name' dynamic' ∉ t)
    (hregisters : Registers s s' t) :
    ∃ dynamic since, FoundBy (tr ++ t) client uuid name dynamic since ∧
      Listed s' name dynamic since := by
  obtain ⟨dynamic, since, hfoundBy, hlisted⟩ := h.storing client f input uuid name hclient
  exact ⟨dynamic, since ++ t, hfoundBy.append hfound, hlisted.mono hregisters⟩

/-- The name chosen at a login. -/
theorem Routes.chosenBy (h : Routes config s tr) (client : Nat)
    (hname : name = (s.pendingSwitches.lookup uuid).getD config.defaultServer) :
    ChosenBy config s (tr ++ [.chosen client uuid name]) client uuid name := by
  refine ⟨tr, [], rfl, by simp, ?_⟩
  cases htarget : s.pendingSwitches.lookup uuid with
  | none =>
      rw [htarget] at hname
      exact Or.inl hname
  | some target =>
      rw [htarget] at hname
      obtain ⟨dynamic, since, hswitch, hlisted⟩ := h.targets uuid target htarget
      rw [show name = target from hname]
      rw [← List.append_nil since] at hlisted
      exact Or.inr ⟨dynamic, since, hswitch, hlisted⟩

/-- The lookup of a chosen name fails only for a target that was unregistered. -/
theorem Routes.lookupFailed (h : Routes config s tr)
    (hdefault : config.defaultServer ∈ config.backends)
    (hchosen : ChosenBy config s tr client uuid name) (hget : s.backends.get name = none) :
    Routed config tr (.lookupFailed client uuid name) := by
  rw [BackendRegistry.get, Option.or_eq_none_iff] at hget
  have hstatic : name ∉ config.backends := by
    rw [← h.static]
    exact AList.lookup_eq_none.1 hget.2
  obtain ⟨a, b, heq, hlast, rfl | ⟨dynamic, since, hswitch, hlisted⟩⟩ := hchosen
  · -- the default server is a static backend of every loaded configuration
    exact absurd hdefault hstatic
  · rcases hlisted with hlisted | ⟨rfl, hlisted | hgone⟩
    · rw [hget.2] at hlisted
      cases hlisted
    · rw [hget.1] at hlisted
      cases hlisted
    · exact ⟨a, since, b, heq, hlast, hswitch.pendingTarget_eq, hswitch, hstatic, hgone⟩

/-! ## One step -/

/-- A step that leaves the pending switches. The tasks of the other clients stay. -/
theorem Routes.keep (h : Routes config s tr) (client : Nat)
    (hpending : s'.pendingSwitches = s.pendingSwitches)
    (hclients : ∀ c, c ≠ client → s'.clients c = s.clients c) (hregisters : Registers s s' t)
    (hquiet : ∀ uuid, ∀ e ∈ t, e.pending uuid = none)
    (hchosen : ∀ c uuid' name', .chosen c uuid' name' ∉ t)
    (hfound : ∀ c, c ≠ client → ∀ uuid' name' dynamic', .found c uuid' name' dynamic' ∉ t)
    (hstoring : ∀ f input uuid name, s'.clients client = .storing f input uuid name →
      ∃ dynamic since, FoundBy (tr ++ t) client uuid name dynamic since ∧
        Listed s' name dynamic since)
    (hlookup : ∀ username uuid name, s'.clients client = .lookup username uuid name →
      ChosenBy config s' (tr ++ t) client uuid name) :
    Routes config s' (tr ++ t) where
  static := hregisters.1.trans h.static
  pending uuid := by
    rw [hpending, pendingTarget_append (hquiet uuid)]
    exact h.pending uuid
  targets uuid name htarget := by
    rw [hpending] at htarget
    exact h.target_append htarget (hquiet uuid) hregisters
  storing c f input uuid name hc := by
    by_cases hne : c = client
    · subst hne
      exact hstoring f input uuid name hc
    · rw [hclients c hne] at hc
      exact h.found_append hc (hfound c hne) hregisters
  lookup c username uuid name hc := by
    by_cases hne : c = client
    · subst hne
      exact hlookup username uuid name hc
    · rw [hclients c hne] at hc
      exact (h.lookup c username uuid name hc).mono hregisters (hchosen c)

/-- A step of a client task that leaves it with no name. -/
theorem Routes.setInert (h : Routes config s tr) (client : Nat) {task : ClientTask}
    (hinert : task.Inert) (hquiet : ∀ uuid, ∀ e ∈ t, e.pending uuid = none)
    (hchosen : ∀ c uuid' name', .chosen c uuid' name' ∉ t)
    (hfound : ∀ c uuid' name' dynamic', .found c uuid' name' dynamic' ∉ t) :
    Routes config (s.setClient client task) (tr ++ t) := by
  refine h.keep client rfl ?_ (registers_of_eq rfl) hquiet hchosen (fun c _ => hfound c) ?_ ?_
  · intro c hne
    rw [clients_setClient, if_neg hne]
  · intro f input uuid name hclient
    rw [clients_setClient, if_pos rfl] at hclient
    rw [hclient] at hinert
    exact absurd hinert id
  · intro username uuid name hclient
    rw [clients_setClient, if_pos rfl] at hclient
    rw [hclient] at hinert
    exact absurd hinert id

/-- A change of the dynamic backends. -/
theorem Routes.setBackends (h : Routes config s tr) {backends : BackendRegistry}
    (hregisters : Registers s { s with backends := backends } t)
    (hquiet : ∀ uuid, ∀ e ∈ t, e.pending uuid = none)
    (hchosen : ∀ c uuid' name', .chosen c uuid' name' ∉ t)
    (hfound : ∀ c uuid' name' dynamic', .found c uuid' name' dynamic' ∉ t) :
    Routes config { s with backends := backends } (tr ++ t) := by
  -- no client moves: the client singled out is any one
  refine h.keep 0 rfl (fun c _ => rfl) hregisters hquiet hchosen (fun c _ => hfound c) ?_ ?_
  · intro f input uuid name hclient
    exact h.found_append hclient (hfound 0) hregisters
  · intro username uuid name hclient
    exact (h.lookup 0 username uuid name hclient).mono hregisters (hchosen 0)

/-- A call of `switch_server` finds its target. -/
theorem Routes.found (h : Routes config s tr) (client : Nat) (f : Forwarding) (input : Input)
    (uuid : Uuid) (hfound : s.backends.contains name = true) :
    Routes config (s.setClient client (.storing f input uuid name))
      (tr ++ [.found client uuid name (s.backends.dynamicBackends.lookup name).isSome]) := by
  refine h.keep client rfl ?_ (registers_of_eq rfl) (by simp [RoutingEvent.pending]) (by simp)
    (fun c hne => by simp [hne]) ?_ ?_
  · intro c hne
    rw [clients_setClient, if_neg hne]
  · intro f' input' uuid' name' hclient
    rw [clients_setClient, if_pos rfl] at hclient
    cases hclient
    -- the event records whether the name was dynamic; if it was not, it is a static one
    refine ⟨_, [], ⟨tr, rfl, by simp⟩, ?_⟩
    rw [BackendRegistry.contains, Bool.or_eq_true] at hfound
    rcases hfound with hdynamic | hstatic
    · exact Or.inr ⟨hdynamic, Or.inl hdynamic⟩
    · exact Or.inl hstatic
  · intro username uuid' name' hclient
    rw [clients_setClient, if_pos rfl] at hclient
    cases hclient

/-- The found target of a switch is stored. -/
theorem Routes.stored (h : Routes config s tr) {f : Forwarding} {input : Input}
    (hclient : s.clients client = .storing f input uuid name) :
    Routes config ((s.setTargetServer uuid name).setClient client (.writing f input))
      (tr ++ [.switched client uuid name]) where
  static := h.static
  pending u := by
    rw [pendingTarget_append_one]
    show AList.lookup u (s.pendingSwitches.insert uuid name) =
      (if uuid = u then some (some name) else none).getD (pendingTarget u tr)
    rw [KeyedMap.lookup_insert_ite, ← h.pending u]
    by_cases hu : u = uuid
    · rw [if_pos hu, if_pos hu.symm]
      rfl
    · rw [if_neg hu, if_neg (Ne.symm hu)]
      rfl
  targets u target htarget := by
    have hlookup : AList.lookup u (s.pendingSwitches.insert uuid name) = some target := htarget
    rw [KeyedMap.lookup_insert_ite] at hlookup
    split at hlookup
    · -- the stored target is the one that this call found
      rename_i hu
      cases hlookup
      obtain ⟨dynamic, since, hfound, hlisted⟩ := h.storing client f input uuid name hclient
      rw [hu]
      exact ⟨dynamic, since ++ [.switched client uuid name],
        ⟨client, tr, since, [], rfl, hfound, rfl, by simp⟩, hlisted.mono (registers_of_eq rfl)⟩
    · rename_i hu
      refine h.target_append hlookup ?_ (registers_of_eq rfl)
      intro e he
      rw [List.mem_singleton.1 he]
      exact if_neg (Ne.symm hu)
  storing c g i u target hc := by
    rw [clients_setClient] at hc
    split at hc
    · cases hc
    · exact h.found_append hc (by simp) (registers_of_eq rfl)
  lookup c username u target hc := by
    rw [clients_setClient] at hc
    split at hc
    · cases hc
    · exact (h.lookup c username u target hc).mono (registers_of_eq rfl) (by simp)

/-- The target of an acknowledged login is taken. -/
theorem Routes.chosen (h : Routes config s tr) (username : Option String)
    (hname : name = (s.pendingSwitches.lookup uuid).getD config.defaultServer) :
    Routes config ((s.getTargetServer uuid).2.setClient client (.lookup username uuid name))
      (tr ++ [.chosen client uuid name]) where
  static := h.static
  pending u := by
    rw [pendingTarget_append_one]
    show AList.lookup u (s.pendingSwitches.erase uuid) =
      (if uuid = u then some none else none).getD (pendingTarget u tr)
    rw [KeyedMap.lookup_erase_ite, ← h.pending u]
    by_cases hu : u = uuid
    · rw [if_pos hu, if_pos hu.symm]
      rfl
    · rw [if_neg hu, if_neg (Ne.symm hu)]
      rfl
  targets u target htarget := by
    have hlookup : AList.lookup u (s.pendingSwitches.erase uuid) = some target := htarget
    rw [KeyedMap.lookup_erase_ite] at hlookup
    split at hlookup
    · cases hlookup
    · -- the pending switch of another player is not taken
      rename_i hu
      refine h.target_append hlookup ?_ (registers_of_eq rfl)
      intro e he
      rw [List.mem_singleton.1 he]
      exact if_neg (Ne.symm hu)
  storing c g i u target hc := by
    rw [clients_setClient] at hc
    split at hc
    · cases hc
    · exact h.found_append hc (by simp) (registers_of_eq rfl)
  lookup c username' u target hc := by
    rw [clients_setClient] at hc
    split at hc
    · rename_i heq
      cases hc
      rw [heq]
      obtain ⟨a, b, htr, hlast, hchosen⟩ := h.chosenBy client hname
      exact ⟨a, b, htr, hlast, hchosen⟩
    · rename_i hne
      apply (h.lookup c username' u target hc).mono (registers_of_eq rfl)
      intro uuid' name' hmem
      cases List.mem_singleton.1 hmem
      exact hne rfl

/-- One step of the proxy keeps the invariant, and its events are routed. -/
theorem routes_moved (hdefault : config.defaultServer ∈ config.backends)
    (h : Routes config s tr) (hmoved : Moved config s s' t) :
    Routes config s' (tr ++ t) ∧ Justified (fun pre => Routed config (tr ++ pre)) t := by
  cases hmoved with
  | quiet client task _ hinert hneutral =>
      refine ⟨h.setInert client hinert ?_ ?_ ?_, ?_⟩
      · intro uuid e he
        have hquiet := hneutral e he
        cases e <;> first | rfl | exact hquiet.elim
      · exact fun c uuid name hmem => hneutral _ hmem
      · exact fun c uuid name dynamic hmem => hneutral _ hmem
      · rintro pre e post rfl
        have hquiet := hneutral e (by simp)
        cases e <;> trivial
  | chosen client username uuid backendName hname =>
      refine ⟨h.chosen username hname, ?_⟩
      rw [justified_singleton_iff, List.append_nil]
      show backendName = _
      rw [← h.pending uuid]
      exact hname
  | lookupFailed client username uuid backendName hclient hget =>
      refine ⟨h.setInert client trivial (by simp [RoutingEvent.pending]) (by simp) (by simp), ?_⟩
      rw [justified_singleton_iff, List.append_nil]
      exact h.lookupFailed hdefault (h.lookup client username uuid backendName hclient) hget
  | found client f input uuid serverName hfound =>
      exact ⟨h.found client f input uuid hfound, justified_singleton_iff.2 trivial⟩
  | stored client f input uuid serverName hclient =>
      refine ⟨h.stored hclient, ?_⟩
      rw [justified_singleton_iff, List.append_nil]
      obtain ⟨dynamic, since, hfound, -⟩ := h.storing client f input uuid serverName hclient
      exact ⟨dynamic, since, hfound⟩
  | registered name backend =>
      refine ⟨h.setBackends ⟨rfl, ?_⟩ (by simp [RoutingEvent.pending]) (by simp) (by simp),
        justified_singleton_iff.2 trivial⟩
      intro k hlisted
      rw [BackendRegistry.lookup_addDynamic]
      split
      · exact Or.inl rfl
      · exact Or.inl hlisted
  | unregistered name hremoved =>
      refine ⟨h.setBackends ⟨rfl, ?_⟩ (by simp [RoutingEvent.pending]) (by simp) (by simp),
        justified_singleton_iff.2 trivial⟩
      intro k hlisted
      rw [BackendRegistry.lookup_removeDynamic]
      split
      · rename_i hk
        rw [hk]
        exact Or.inr (List.mem_singleton_self _)
      · exact Or.inl hlisted
  | nothingRemoved name habsent =>
      refine ⟨h.setBackends ⟨rfl, ?_⟩ (by simp) (by simp) (by simp), justified_nil⟩
      intro k hlisted
      rw [BackendRegistry.lookup_removeDynamic]
      split
      · rename_i hk
        rw [hk, habsent] at hlisted
        cases hlisted
      · exact Or.inl hlisted

end Invariant

theorem routes_start (config : ProxyConfig) : Routes config (start config) [] where
  static := rfl
  pending _ := rfl
  targets _ _ htarget := by cases htarget
  storing _ _ _ _ _ hclient := by cases hclient
  lookup _ _ _ _ hclient := by cases hclient

/-- The events of every run of the proxy with a loaded configuration are routed. -/
theorem routed_run {ids : PacketIds} {packets : LoginPackets} {config : ProxyConfig}
    {labels : List RoutingLabel} {s : Routing} {tr : List RoutingEvent}
    (hdefault : config.defaultServer ∈ config.backends)
    (hrun : (system ids packets config).exec (start config) labels = some (s, tr)) :
    Justified (Routed config) tr := by
  have hinv : ∀ s tr label s' t, (Routes config s tr ∧ Justified (Routed config) tr) → True →
      (system ids packets config).step s label = some (s', t) →
      Routes config s' (tr ++ t) ∧ Justified (Routed config) (tr ++ t) := by
    intro s tr label s' t h _ hstep
    obtain ⟨hroutes, hrouted⟩ :=
      routes_moved hdefault h.1 (moved_of_stepped (stepped_of_step hstep))
    exact ⟨hroutes, justified_append_iff.2 ⟨h.2, hrouted⟩⟩
  have hrouted := (system ids packets config).exec_invariant hinv
    ⟨routes_start config, justified_nil⟩
    ((system ids packets config).meets_of_forall (fun _ _ _ => trivial) _) hrun
  rw [List.nil_append] at hrouted
  exact hrouted.2

end Routing

end SteelProxy
