import SteelProxy.K8s.Agreement
import SteelProxy.K8s.Manifests

/-!
# What the players are told about a PR

Players learn from two broadcasts whether `/server pr-n` leads somewhere: that PR n is ready, and
that it is shutting down. The first one is sent when `handle_starting` ends, after the backend was
registered and the row was written, the second one when `handle_ready` begins to unregister. In
every run the later of the two tells the truth about the registry, and no PR becomes ready without
being announced (`notices_hold`).
-/

set_option autoImplicit false

namespace SteelProxy

open SteelProxy.Library SteelProxy.Library.Transition

/-- The handler waits between the registration of a backend and its notice, or between a notice
and the removal of the backend. -/
def HandlerPc.Noticing : HandlerPc → Prop
  | .persist _ _ => True
  | .unregister _ => True
  | _ => False

namespace Lifecycle

/-! ## The two notices -/

/-- The broadcast at the end of `handle_starting`. -/
def readyNotice (n : UInt32) : String :=
  s!"§a[Proxy] PR #{n} is ready! Use §e/server pr-{n}§a to connect."

/-- The broadcast of `handle_ready` at the shutdown time. -/
def expiryNotice (n : UInt32) : String :=
  s!"§e[Proxy] PR #{n} is shutting down (timeout expired)"

/-- What an event tells about PR `n`: that it is ready, or that it is shutting down. -/
def noticeOf (n : UInt32) : Event → Option Bool
  | .broadcast message =>
      if message = readyNotice n then some true
      else if message = expiryNotice n then some false
      else none
  | _ => none

/-- What the players were told about PR `n` last. -/
def lastNotice (n : UInt32) (tr : List Event) : Option Bool := lastOf (noticeOf n) tr

/-- The events tell nothing about any PR. -/
def Quiet (events : List Event) : Prop := ∀ n, ∀ e ∈ events, noticeOf n e = none

theorem quiet_nil : Quiet [] := fun _ _ he => by cases he

theorem quiet_cons_iff {e : Event} {events : List Event} :
    Quiet (e :: events) ↔ (∀ n, noticeOf n e = none) ∧ Quiet events := by
  simp only [Quiet, List.forall_mem_cons, forall_and]

theorem quiet_append_iff {events events' : List Event} :
    Quiet (events ++ events') ↔ Quiet events ∧ Quiet events' := by
  simp only [Quiet, List.forall_mem_append, forall_and]

theorem Quiet.lastNotice {events : List Event} (h : Quiet events) (n : UInt32) (tr : List Event) :
    lastNotice n (tr ++ events) = lastNotice n tr :=
  lastOf_append_of_forall_none (h n)

/-! ### The texts -/

theorem space_notMem_toString (n : UInt32) : ' ' ∉ (toString n : String).toList := by
  intro hmem
  rw [toList_toString] at hmem
  exact absurd (Nat.isDigit_of_mem_toDigits (by decide) (by decide) hmem) (by decide)

/-- A text about PR `n` determines `n` and what it says. -/
theorem eq_of_prText {pre rest rest' : String} {n m : UInt32} {xs ys : List Char}
    (hrest : rest.toList = ' ' :: xs) (hrest' : rest'.toList = ' ' :: ys)
    (h : pre ++ toString n ++ rest = pre ++ toString m ++ rest') : n = m ∧ xs = ys := by
  simp only [String.append_assoc] at h
  have hlist := congrArg String.toList ((String.append_right_inj pre).1 h)
  rw [String.toList_append, String.toList_append, hrest, hrest'] at hlist
  obtain ⟨hn, hxs⟩ :=
    Text.eq_of_append_separator (space_notMem_toString n) (space_notMem_toString m) hlist
  exact ⟨@eq_of_append_toString_eq "" n m (by rw [String.toList_inj.1 hn]), hxs⟩

/-- The notice of a ready PR, cut behind the number. -/
theorem readyNotice_eq (n : UInt32) :
    readyNotice n = "§a[Proxy] PR #" ++ toString n ++
      (" is ready! Use §e/server pr-" ++ (toString n ++ "§a to connect.")) := by
  have h : readyNotice n = "§a[Proxy] PR #" ++ toString n ++ " is ready! Use §e/server pr-" ++
      toString n ++ "§a to connect." := rfl
  rw [h]
  simp only [String.append_assoc]

theorem toList_readyText (n : UInt32) :
    (" is ready! Use §e/server pr-" ++ (toString n ++ "§a to connect.")).toList =
      ' ' :: ("is ready! Use §e/server pr-".toList ++ (toString n ++ "§a to connect.").toList) := by
  have h : " is ready! Use §e/server pr-".toList = ' ' :: "is ready! Use §e/server pr-".toList := by
    simp
  rw [String.toList_append, h, List.cons_append]

theorem startsWith_readyNotice (n : UInt32) :
    Text.startsWith "§a[Proxy] PR #" (readyNotice n) = true := by
  rw [readyNotice_eq]
  exact Text.startsWith_append (Text.startsWith_append (by decide) _) _

theorem startsWith_expiryNotice (n : UInt32) :
    Text.startsWith "§e[Proxy] PR #" (expiryNotice n) = true :=
  Text.startsWith_append (Text.startsWith_append (by decide) _) _

/-- A text with another beginning is no notice. -/
theorem noticeOf_of_startsWith (pre : String) {message : String}
    (h : Text.startsWith pre message = true)
    (hready : Text.startsWith pre "§a[Proxy] PR #" = false ∧
      Text.startsWith "§a[Proxy] PR #" pre = false)
    (hexpiry : Text.startsWith pre "§e[Proxy] PR #" = false ∧
      Text.startsWith "§e[Proxy] PR #" pre = false) (n : UInt32) :
    noticeOf n (.broadcast message) = none := by
  have hne := Text.ne_of_startsWith h (startsWith_readyNotice n) hready.1 hready.2
  have hne' := Text.ne_of_startsWith h (startsWith_expiryNotice n) hexpiry.1 hexpiry.2
  rw [noticeOf, if_neg hne, if_neg hne']

/-- A text about a PR that does not say that it is ready is no notice. -/
theorem noticeOf_of_prText {m : UInt32} {rest : String} {c : Char} {xs : List Char}
    (hrest : rest.toList = ' ' :: c :: xs) (hc : c ≠ 'i') (n : UInt32) :
    noticeOf n (.broadcast ("§a[Proxy] PR #" ++ toString m ++ rest)) = none := by
  have hne : "§a[Proxy] PR #" ++ toString m ++ rest ≠ readyNotice n := by
    intro h
    rw [readyNotice_eq] at h
    obtain ⟨-, hxs⟩ := eq_of_prText hrest (toList_readyText n) h
    have hi : "is ready! Use §e/server pr-".toList =
        'i' :: "s ready! Use §e/server pr-".toList := by simp
    rw [hi, List.cons_append] at hxs
    exact hc (List.cons.inj hxs).1
  have hstarts : Text.startsWith "§a[Proxy] PR #" ("§a[Proxy] PR #" ++ toString m ++ rest) = true :=
    Text.startsWith_append (Text.startsWith_append (by decide) _) _
  have hne' := Text.ne_of_startsWith hstarts (startsWith_expiryNotice n) (by decide) (by decide)
  rw [noticeOf, if_neg hne, if_neg hne']

theorem noticeOf_readyNotice (n m : UInt32) :
    noticeOf n (.broadcast (readyNotice m)) = if m = n then some true else none := by
  by_cases hm : m = n
  · rw [if_pos hm, noticeOf, hm, if_pos rfl]
  · have hne : readyNotice m ≠ readyNotice n := by
      intro h
      rw [readyNotice_eq, readyNotice_eq] at h
      exact hm (eq_of_prText (toList_readyText m) (toList_readyText n) h).1
    have hne' := Text.ne_of_startsWith (startsWith_readyNotice m) (startsWith_expiryNotice n)
      (by decide) (by decide)
    rw [if_neg hm, noticeOf, if_neg hne, if_neg hne']

theorem noticeOf_expiryNotice (n m : UInt32) :
    noticeOf n (.broadcast (expiryNotice m)) = if m = n then some false else none := by
  have hne := Text.ne_of_startsWith (startsWith_expiryNotice m) (startsWith_readyNotice n)
    (by decide) (by decide)
  rw [noticeOf, if_neg hne]
  by_cases hm : m = n
  · rw [if_pos hm, hm, if_pos rfl]
  · have hne' : expiryNotice m ≠ expiryNotice n := by
      intro h
      have htext : "§e[Proxy] PR #" ++ toString m ++ " is shutting down (timeout expired)" =
          "§e[Proxy] PR #" ++ toString n ++ " is shutting down (timeout expired)" := h
      have hrest : " is shutting down (timeout expired)".toList =
          ' ' :: "is shutting down (timeout expired)".toList := rfl
      exact hm (eq_of_prText hrest hrest htext).1
    rw [if_neg hm, if_neg hne']

/-! ## What the pieces tell -/

/-- What a piece of a `start_pr` call tells is no notice. -/
theorem quiet_of_stepped {setup : Setup} {sh : Shared} {id : Nat} {call : StartCall}
    {label : StartLabel} {o : StartPr.Outcome} (h : StartPr.Stepped setup sh id call label o) :
    Quiet o.events := by
  cases h with
  | bailed error => exact quiet_cons_iff.2 ⟨fun _ => rfl, quiet_nil⟩
  | begun n huntracked => exact quiet_nil
  | registryChecked n habsent =>
      have htext : Text.startsWith "§7" s!"§7[Proxy] Fetching PR #{n} info from GitHub..." = true :=
        Text.startsWith_append (Text.startsWith_append (by decide) _) _
      exact quiet_cons_iff.2 ⟨noticeOf_of_startsWith "§7" htext (by decide) (by decide), quiet_nil⟩
  | commitReceived n answer commitHash commitHashShort hcommit => exact quiet_nil
  | buildsQueried n commitHash commitHashShort => exact quiet_nil
  | cached n commitHash commitHashShort =>
      -- it begins as the ready notice does, and differs from it after the number of the PR
      have htext : s!"§a[Proxy] PR #{n} already built for commit {commitHashShort}. Deploying..." =
          "§a[Proxy] PR #" ++ toString n ++
            (" already built for commit " ++ (commitHashShort ++ ". Deploying...")) := by
        have hparts :
            s!"§a[Proxy] PR #{n} already built for commit {commitHashShort}. Deploying..." =
              "§a[Proxy] PR #" ++ toString n ++ " already built for commit " ++ commitHashShort ++
                ". Deploying..." := rfl
        rw [hparts]
        simp only [String.append_assoc]
      have hrest : (" already built for commit " ++ (commitHashShort ++ ". Deploying...")).toList =
          ' ' :: 'a' :: ("lready built for commit ".toList ++
            (commitHashShort ++ ". Deploying...").toList) := by
        rw [String.toList_append]
        rfl
      have hnone : ∀ k, noticeOf k (.broadcast
          s!"§a[Proxy] PR #{n} already built for commit {commitHashShort}. Deploying...") =
            none := by
        intro k
        rw [htext]
        exact noticeOf_of_prText hrest (by decide) k
      exact quiet_cons_iff.2 ⟨hnone, quiet_cons_iff.2 ⟨fun _ => rfl,
        quiet_cons_iff.2 ⟨fun _ => rfl, quiet_nil⟩⟩⟩
  | missed n commitHash commitHashShort =>
      have htext : Text.startsWith "§e[Proxy] Building"
          s!"§e[Proxy] Building PR #{n} (commit {commitHashShort})..." = true :=
        Text.startsWith_append (Text.startsWith_append (Text.startsWith_append
          (Text.startsWith_append (by decide) _) _) _) _
      exact quiet_cons_iff.2
        ⟨noticeOf_of_startsWith "§e[Proxy] Building" htext (by decide) (by decide), quiet_nil⟩
  | queued n commitHash commitHashShort queueUrl answer now =>
      have hrest : " build queued. You will be notified when it's ready.".toList =
          ' ' :: 'b' :: "uild queued. You will be notified when it's ready.".toList := rfl
      exact quiet_cons_iff.2 ⟨fun _ => rfl, quiet_cons_iff.2 ⟨fun _ => rfl,
        quiet_cons_iff.2 ⟨noticeOf_of_prText hrest (by decide),
          quiet_cons_iff.2 ⟨fun _ => rfl, quiet_nil⟩⟩⟩⟩

/-- The texts of failures are no notices. -/
theorem quiet_failure {message : String} (h : Text.startsWith "§c" message = true) :
    Quiet [.broadcast message] :=
  quiet_cons_iff.2 ⟨noticeOf_of_startsWith "§c" h (by decide) (by decide), quiet_nil⟩

/-- `NoticeEffect sh n overflow pc o`: what a piece of the handler of PR `n` that leads to the
outcome `o` tells about `n` and does to the registry; `pc` is where the handler waited, and
`overflow` the case of the panic after the registration. -/
inductive NoticeEffect (sh : Shared) (n : UInt32) (overflow : Prop) :
    Option HandlerPc → Outcome → Prop where
  | quiet {pc : Option HandlerPc} {o : Outcome} (hpc : ∀ pc', pc = some pc' → ¬ pc'.Noticing)
      (hevents : Quiet o.events) (hflow : ∀ pc', o.flow = .await pc' → ¬ pc'.Noticing)
      (hback : o.shared.backends = sh.backends) : NoticeEffect sh n overflow pc o
  | registered {pc : Option HandlerPc} {o : Outcome} (address : String) (port : UInt16)
      (commitHash commitHashShort : String) (hevents : o.events = [])
      (hflow : o.flow = .await (.persist commitHash commitHashShort))
      (hback : o.shared.backends = K8sManager.registerBackend sh.backends n address port) :
      NoticeEffect sh n overflow pc o
  | announced {o : Outcome} (commitHash commitHashShort : String) (before : List Event)
      (hbefore : Quiet before) (hevents : o.events = before ++ [.broadcast (readyNotice n)])
      (hflow : o.flow = .done) (hback : o.shared.backends = sh.backends) :
      NoticeEffect sh n overflow (some (.persist commitHash commitHashShort)) o
  | expiring {o : Outcome} (deploymentName : String)
      (hevents : o.events = [.broadcast (expiryNotice n)])
      (hflow : o.flow = .await (.unregister deploymentName))
      (hback : o.shared.backends = sh.backends) : NoticeEffect sh n overflow none o
  | unregistered {o : Outcome} (deploymentName : String) (hevents : o.events = [])
      (hflow : o.flow = .done)
      (hback : o.shared.backends = K8sManager.unregisterBackend sh.backends n) :
      NoticeEffect sh n overflow (some (.unregister deploymentName)) o
  | panicked {pc : Option HandlerPc} {o : Outcome} (hoverflow : overflow) :
      NoticeEffect sh n overflow pc o

section NoticeEffect

variable {setup : Setup} {sh : Shared} {n : UInt32} {i : PrInstance} {overflow : Prop}
  {o : Outcome}

theorem noticeEffect_dispatch (now : Instant) :
    NoticeEffect sh n False none (dispatch setup sh n i now) := by
  have hnone : ∀ pc', (none : Option HandlerPc) = some pc' → ¬ pc'.Noticing := by
    intro pc' h
    cases h
  simp only [dispatch]
  cases i.state with
  | building startedAt buildUrl =>
      simp only [handleBuilding]
      split
      · refine .quiet hnone (quiet_failure ?_) (by simp) rfl
        exact Text.startsWith_append (Text.startsWith_append (Text.startsWith_append
          (Text.startsWith_append (by decide) _) _) _) _
      · cases buildUrl with
        | none => exact .quiet hnone quiet_nil (by simp) rfl
        | some queueUrl => exact .quiet hnone quiet_nil (by rintro _ ⟨⟩; exact id) rfl
  | deploying imageTag => exact .quiet hnone quiet_nil (by rintro _ ⟨⟩; exact id) rfl
  | starting deploymentName address port startedAt =>
      simp only [handleStarting]
      split
      · refine .quiet hnone (quiet_failure ?_) (by simp) rfl
        exact Text.startsWith_append (Text.startsWith_append (by decide) _) _
      · exact .quiet hnone quiet_nil (by rintro _ ⟨⟩; exact id) rfl
  | ready deploymentName address port readyAt shutdownAt =>
      simp only [handleReady]
      split
      · exact .expiring deploymentName rfl rfl rfl
      · exact .quiet hnone quiet_nil (by simp) rfl
  | shuttingDown deploymentName => exact .quiet hnone quiet_nil (by rintro _ ⟨⟩; exact id) rfl
  | failed reason =>
      exact .quiet hnone (quiet_cons_iff.2 ⟨fun _ => rfl, quiet_nil⟩) (by simp [untracked]) rfl

theorem quiet_cleanUpFailed (sh : Shared) (n : UInt32) (error : String) :
    Quiet (cleanUpFailed sh n error).events := by
  refine quiet_append_iff.2 ⟨quiet_failure ?_, quiet_cons_iff.2 ⟨fun _ => rfl, quiet_nil⟩⟩
  exact Text.startsWith_append (Text.startsWith_append (Text.startsWith_append (by decide) _) _) _

theorem quiet_untracked (sh : Shared) (n : UInt32) : Quiet (untracked sh n []).events :=
  quiet_cons_iff.2 ⟨fun _ => rfl, quiet_nil⟩

/-- A piece that fails or ends, before and after which the handler tells nothing. -/
theorem NoticeEffect.of_done {pc : HandlerPc} (hpc : ¬ pc.Noticing) (hevents : Quiet o.events)
    (hflow : o.flow = .done) (hback : o.shared.backends = sh.backends) :
    NoticeEffect sh n overflow (some pc) o := by
  refine .quiet ?_ hevents ?_ hback
  · rintro _ ⟨⟩
    exact hpc
  · intro pc' h
    rw [hflow] at h
    cases h

/-- A piece that goes on to an `await` without telling anything. -/
theorem NoticeEffect.of_await {pc pc' : HandlerPc} (hpc : ¬ pc.Noticing) (hpc' : ¬ pc'.Noticing)
    (hevents : Quiet o.events) (hflow : o.flow = .await pc')
    (hback : o.shared.backends = sh.backends) : NoticeEffect sh n overflow (some pc) o := by
  refine .quiet ?_ hevents ?_ hback
  · rintro _ ⟨⟩
    exact hpc
  · intro pc'' h
    rw [hflow] at h
    cases h
    exact hpc'

theorem quiet_deploymentFailed (sh : Shared) (n : UInt32) (error : String) :
    Quiet (deploymentFailed sh n error).events := by
  refine quiet_failure ?_
  exact Text.startsWith_append (Text.startsWith_append (Text.startsWith_append (by decide) _) _) _

theorem quiet_serviceFailed (sh : Shared) (n : UInt32) (error : String) :
    Quiet (serviceFailed sh n error).events := by
  refine quiet_failure ?_
  exact Text.startsWith_append (Text.startsWith_append (Text.startsWith_append (by decide) _) _) _

theorem noticeEffect_handleStartingChecked (commitHash commitHashShort deploymentName
    address : String) (port : UInt16) (call : KubeCall Deployment) {sh' : Shared}
    (hback : sh'.backends = sh.backends) :
    NoticeEffect sh n overflow
      (some (.checkReady commitHash commitHashShort deploymentName address port))
      (handleStartingChecked sh' n commitHash commitHashShort deploymentName address port
        call) := by
  simp only [handleStartingChecked]
  split
  · exact .of_await id id (quiet_cons_iff.2 ⟨fun _ => rfl, quiet_nil⟩) rfl hback
  · exact .of_done id quiet_nil rfl hback
  · exact .of_done id quiet_nil rfl hback

theorem noticeEffect_of_resumed {pc : HandlerPc} {answer : Answer}
    (h : Resumed setup sh n pc answer o) :
    NoticeEffect sh n (DeadlineOverflows setup pc answer) (some pc) o := by
  cases h with
  | buildUrl commitHashShort queueUrl answer =>
      simp only [handleBuildingUrl]
      split
      · exact .of_await id id quiet_nil rfl rfl
      · exact .of_done id quiet_nil rfl rfl
      · exact .of_done id quiet_nil rfl rfl
  | buildStatus commitHashShort queueUrl buildUrl answer =>
      have hone : ∀ status, Quiet [.buildReported n queueUrl buildUrl status] := fun _ =>
        quiet_cons_iff.2 ⟨fun _ => rfl, quiet_nil⟩
      simp only [handleBuildingStatus]
      split
      -- the text of a completed build differs from the notices after the number of the PR
      · have hrest : " build completed! Deploying...".toList =
            ' ' :: 'b' :: "uild completed! Deploying...".toList := rfl
        refine .of_done id (quiet_cons_iff.2 ⟨fun _ => rfl, quiet_cons_iff.2
          ⟨noticeOf_of_prText hrest (by decide), quiet_nil⟩⟩) rfl rfl
      · refine .of_done id (quiet_cons_iff.2 ⟨fun _ => rfl, quiet_failure ?_⟩) rfl rfl
        exact Text.startsWith_append (Text.startsWith_append (Text.startsWith_append
          (by decide) _) _) _
      · exact .of_done id (hone _) rfl rfl
      · exact .of_done id (hone _) rfl rfl
      · exact .of_done id (hone _) rfl rfl
      · exact .of_done id quiet_nil rfl rfl
  | noDeploymentClient imageTag hclient =>
      exact .of_done id (quiet_deploymentFailed sh n _) rfl rfl
  | deploymentDeleted imageTag answer =>
      cases answer with
      | ok u => exact .of_await id id quiet_nil rfl (by simp [createDeploymentDeleted])
      | error e => exact .of_await id id quiet_nil rfl (by simp [createDeploymentDeleted])
  | settled imageTag => exact .of_await id id quiet_nil rfl rfl
  | deploymentCreated imageTag answer =>
      cases answer with
      | ok u => exact .of_await id id (quiet_cons_iff.2 ⟨fun _ => rfl, quiet_nil⟩) rfl rfl
      | error e => exact .of_done id (quiet_deploymentFailed sh n _) rfl rfl
  | noServiceClient hclient => exact .of_done id (quiet_serviceFailed sh n _) rfl rfl
  | serviceDeleted answer =>
      exact .of_await id id quiet_nil rfl (by simp [createServiceDeleted])
  | serviceCreated answer now =>
      simp only [createServiceCreated]
      cases answer with
      | error e => exact .of_done id (quiet_serviceFailed sh n _) rfl rfl
      | ok svc =>
          cases hport : svc.firstNodePort with
          | none =>
              simp only [hport]
              exact .of_done id (quiet_serviceFailed _ n _) rfl rfl
          | some nodePort =>
              simp only [hport]
              exact .of_done id quiet_nil rfl rfl
  | noReadinessClient commitHash commitHashShort deploymentName address port hclient =>
      exact noticeEffect_handleStartingChecked _ _ _ _ _ _ rfl
  | readinessChecked commitHash commitHashShort deploymentName address port answer =>
      exact noticeEffect_handleStartingChecked _ _ _ _ _ _ rfl
  | registered commitHash commitHashShort deploymentName address port now readyAt =>
      simp only [handleStartingRegistered]
      split
      · rename_i hoverflow
        exact .panicked hoverflow
      -- registered and set ready between the same two awaits, and announced after the next one
      · exact .registered address port commitHash commitHashShort rfl rfl rfl
  | persisted commitHash commitHashShort answer =>
      cases answer with
      | ok now =>
          exact .announced commitHash commitHashShort [.upserted n commitHash commitHashShort _ _]
            (quiet_cons_iff.2 ⟨fun _ => rfl, quiet_nil⟩) rfl rfl rfl
      | error e => exact .announced commitHash commitHashShort [] quiet_nil rfl rfl rfl
  | unregistered deploymentName now readyAt => exact .unregistered deploymentName rfl rfl rfl
  | noTearDownClient hclient => exact .of_done id (quiet_cleanUpFailed sh n _) rfl rfl
  | deploymentTornDown answer =>
      simp only [deleteInstanceDeployment]
      cases answer with
      | ok u => exact .of_await id id quiet_nil rfl (by simp)
      | error e =>
          dsimp only
          split
          · exact .of_await id id quiet_nil rfl (by simp)
          · exact .of_done id (quiet_cleanUpFailed _ n _) rfl
              (by simp [cleanUpFailed, untracked, Shared.untrack])
  | serviceTornDown answer =>
      simp only [deleteInstanceService]
      cases answer with
      | ok u =>
          exact .of_done id (quiet_untracked _ n) rfl (by simp [untracked, Shared.untrack])
      | error e =>
          dsimp only
          split
          · exact .of_done id (quiet_untracked _ n) rfl (by simp [untracked, Shared.untrack])
          · exact .of_done id (quiet_cleanUpFailed _ n _) rfl
              (by simp [cleanUpFailed, untracked, Shared.untrack])

end NoticeEffect

/-- A piece tells nothing about other PRs and leaves their backends alone. -/
theorem NoticeEffect.of_ne {sh : Shared} {n m : UInt32} {overflow : Prop} {pc : Option HandlerPc}
    {o : Outcome} (h : NoticeEffect sh m overflow pc o) (hno : ¬ overflow) (hn : n ≠ m) :
    (∀ e ∈ o.events, noticeOf n e = none) ∧ backendOf o.shared n = backendOf sh n := by
  cases h with
  | quiet hpc hevents hflow hback =>
      refine ⟨hevents n, ?_⟩
      rw [backendOf, backendOf, hback]
  | registered address port commitHash commitHashShort hevents hflow hback =>
      refine ⟨?_, ?_⟩
      · rw [hevents]
        exact quiet_nil n
      · rw [backendOf_registerBackend hback, if_neg hn]
  | announced commitHash commitHashShort before hbefore hevents hflow hback =>
      refine ⟨?_, ?_⟩
      · rw [hevents]
        intro e he
        rcases List.mem_append.1 he with he | he
        · exact hbefore n e he
        · rw [List.mem_singleton.1 he, noticeOf_readyNotice, if_neg (Ne.symm hn)]
      · rw [backendOf, backendOf, hback]
  | expiring deploymentName hevents hflow hback =>
      refine ⟨?_, ?_⟩
      · rw [hevents]
        intro e he
        rw [List.mem_singleton.1 he, noticeOf_expiryNotice, if_neg (Ne.symm hn)]
      · rw [backendOf, backendOf, hback]
  | unregistered deploymentName hevents hflow hback =>
      refine ⟨?_, ?_⟩
      · rw [hevents]
        exact quiet_nil n
      · rw [backendOf_unregisterBackend hback, if_neg hn]
  | panicked hoverflow => exact absurd hoverflow hno

/-! ## Runs -/

/-- What the players were told last about PR `n` against its backend. Between the registration and
its notice, and between a notice and the removal, the handler of `n` is running. -/
structure Told (recovered : Prop) (w : World) (n : UInt32) (last : Option Bool) : Prop where
  registered : last = some true → (backendOf w.shared n).isSome = true
  staying : last = some true → ∀ deploymentName rest,
    w.loop ≠ .running n (.unregister deploymentName) rest
  told : (backendOf w.shared n).isSome = true →
    last = some true ∨ (last = none ∧ recovered) ∨
      ∃ pc rest, w.loop = .running n pc rest ∧ pc.Noticing

section Told

variable {recovered : Prop} {w w' : World} {n m : UInt32} {last last' : Option Bool}

/-- A step that is quiet about `n` and outside of its notices. -/
theorem Told.congr (h : Told recovered w n last)
    (hback : backendOf w'.shared n = backendOf w.shared n)
    (hbefore : ∀ pc rest, w.loop = .running n pc rest → pc.Noticing → w'.loop = .running n pc rest)
    (hafter : ∀ deploymentName rest, w'.loop = .running n (.unregister deploymentName) rest →
      w.loop = .running n (.unregister deploymentName) rest) :
    Told recovered w' n last where
  registered := by
    rw [hback]
    exact h.registered
  staying hlast deploymentName rest hloop :=
    h.staying hlast deploymentName rest (hafter deploymentName rest hloop)
  told := by
    rw [hback]
    intro hsome
    rcases h.told hsome with hlast | hlast | ⟨pc, rest, hloop, hpc⟩
    · exact Or.inl hlast
    · exact Or.inr (Or.inl hlast)
    · exact Or.inr (Or.inr ⟨pc, rest, hbefore pc rest hloop hpc, hpc⟩)

/-- A piece of the handler of PR `m`, which waited at `before` if it was running. -/
theorem Told.of_effect {tr : List Event} {o : Outcome} {overflow : Prop}
    {before : Option HandlerPc} {rest : List (UInt32 × PrInstance)}
    (h : Told recovered w n (lastNotice n tr)) (hno : ¬ overflow)
    (heff : NoticeEffect w.shared m overflow before o)
    (hrunning : ∀ pc, before = some pc → w.loop = .running m pc rest)
    (hloop : ∀ k pc rest', w.loop = .running k pc rest' → k = m ∧ before = some pc)
    (hready : ∀ pc, before = some pc → pc.Noticing → (backendOf w.shared m).isSome = true) :
    Told recovered { w with shared := o.shared, loop := afterFlow m rest o.flow } n
      (lastNotice n (tr ++ o.events)) := by
  by_cases hn : n = m
  · subst hn
    cases heff with
    | quiet hpc hevents hflow hback =>
        rw [hevents.lastNotice]
        refine h.congr ?_ ?_ ?_
        · rw [backendOf, backendOf, hback]
        · intro pc rest' hpcloop hnoticing
          exact absurd hnoticing (hpc pc (hloop n pc rest' hpcloop).2)
        · intro deploymentName rest' hafter
          exact absurd trivial (hflow _ (afterFlow_eq_running_iff.1 hafter).1)
    | registered address port commitHash commitHashShort hevents hflow hback =>
        have hsome : (backendOf o.shared n).isSome = true := by
          rw [backendOf_registerBackend hback, if_pos rfl]
          rfl
        have hafter : afterFlow n rest o.flow =
            .running n (.persist commitHash commitHashShort) rest :=
          afterFlow_eq_running_iff.2 ⟨hflow, rfl, rfl⟩
        -- the ready notice comes next, and until then nothing has to have been told
        refine ⟨fun _ => hsome, ?_, ?_⟩
        · intro _ deploymentName rest' heq
          rw [hafter] at heq
          cases heq
        · exact fun _ => Or.inr (Or.inr ⟨_, rest, hafter, trivial⟩)
    | announced commitHash commitHashShort before hbefore hevents hflow hback =>
        have hlast : lastNotice n (tr ++ o.events) = some true := by
          rw [hevents, ← List.append_assoc, lastNotice, lastOf_append_one, noticeOf_readyNotice,
            if_pos rfl]
          rfl
        have hsame : backendOf o.shared n = backendOf w.shared n := by
          rw [backendOf, backendOf, hback]
        -- the handler registered the backend before it waited for the database
        refine ⟨fun _ => ?_, ?_, fun _ => Or.inl hlast⟩
        · rw [hsame]
          exact hready _ rfl trivial
        · intro _ deploymentName rest' heq
          rw [hflow] at heq
          cases heq
    | expiring deploymentName hevents hflow hback =>
        have hlast : lastNotice n (tr ++ o.events) = some false := by
          rw [hevents, lastNotice, lastOf_append_one, noticeOf_expiryNotice, if_pos rfl]
          rfl
        have hafter : afterFlow n rest o.flow = .running n (.unregister deploymentName) rest :=
          afterFlow_eq_running_iff.2 ⟨hflow, rfl, rfl⟩
        -- the backend is still registered, and the handler is about to unregister it
        rw [hlast]
        refine ⟨?_, ?_, fun _ => Or.inr (Or.inr ⟨_, rest, hafter, trivial⟩)⟩
        · intro htrue
          cases htrue
        · intro htrue
          cases htrue
    | unregistered deploymentName hevents hflow hback =>
        have hnone : backendOf o.shared n = none := by
          rw [backendOf_unregisterBackend hback, if_pos rfl]
        -- the removal was announced, so the last notice is not the one of a ready PR
        have hlast : lastNotice n tr ≠ some true := fun hlast =>
          h.staying hlast deploymentName rest (hrunning _ rfl)
        rw [hevents, List.append_nil]
        refine ⟨fun h => absurd h hlast, fun h => absurd h hlast, fun hsome => ?_⟩
        rw [hnone] at hsome
        cases hsome
    | panicked hoverflow => exact absurd hoverflow hno
  · obtain ⟨hevents, hback⟩ := heff.of_ne hno hn
    have hlast : lastNotice n (tr ++ o.events) = lastNotice n tr :=
      lastOf_append_of_forall_none hevents
    rw [hlast]
    refine h.congr hback ?_ ?_
    · intro pc rest' hpcloop
      exact absurd (hloop n pc rest' hpcloop).1 hn
    · intro deploymentName rest' hafter
      exact absurd (afterFlow_eq_running_iff.1 hafter).2.1.symm hn

/-- At its notices the handler finds the PR registered. -/
theorem isSome_backendOf_of_noticing (hcoh : Coherent w) (hagrees : Agrees w.shared)
    {pc : HandlerPc} {rest : List (UInt32 × PrInstance)} (hloop : w.loop = .running n pc rest)
    (hpc : pc.Noticing) : (backendOf w.shared n).isSome = true := by
  obtain ⟨i, hi, hmatches⟩ := hcoh.lookup_running hloop
  have hready : ∃ deploymentName address port readyAt shutdownAt,
      i.state = .ready deploymentName address port readyAt shutdownAt := by
    cases pc with
    | persist commitHash commitHashShort => exact hmatches.2.2
    | unregister deploymentName => exact ⟨deploymentName, hmatches⟩
    | _ => exact absurd hpc id
  obtain ⟨deploymentName, address, port, readyAt, shutdownAt, hstate⟩ := hready
  exact (registryAgreement_of_agrees hagrees n).registered_iff_ready.2
    ⟨i, deploymentName, address, port, readyAt, shutdownAt, hi, hstate⟩

theorem told_step {setup : Setup} {label : Label} {tr t : List Event} (hcoh : Coherent w)
    (hagrees : Agrees w.shared) (hfits : DeadlineFits setup w label)
    (h : Told recovered w n (lastNotice n tr)) (hstep : step setup w label = some (w', t)) :
    Told recovered w' n (lastNotice n (tr ++ t)) := by
  cases label with
  | start id label =>
      obtain ⟨o, ho, rfl, rfl⟩ := step_start_iff.1 hstep
      have hstepped := StartPr.stepped_of_step ho
      -- a call tells its player and everybody what it does, but gives no notice
      rw [(quiet_of_stepped hstepped).lastNotice]
      refine h.congr ?_ (fun pc rest hloop _ => hloop) (fun deploymentName rest hloop => hloop)
      simp only [backendOf, (stepped_endpoints hstepped).1]
  | tick snapshot =>
      obtain ⟨hloop, -, rfl, rfl⟩ := step_tick_iff.1 hstep
      rw [List.append_nil]
      refine h.congr rfl ?_ ?_
      · intro pc rest hrunning
        rw [hloop] at hrunning
        cases hrunning
      · intro deploymentName rest hrunning
        cases hrunning
  | advance now =>
      rcases step_advance_iff.1 hstep with ⟨hloop, rfl, rfl⟩ | ⟨m, i, rest, hloop, rfl, rfl⟩
      · rw [List.append_nil]
        refine h.congr rfl ?_ ?_
        · intro pc rest hrunning
          rw [hloop] at hrunning
          cases hrunning
        · intro deploymentName rest hrunning
          cases hrunning
      · refine h.of_effect id (noticeEffect_dispatch now) ?_ ?_ ?_
        · intro pc hpc
          cases hpc
        · intro k pc rest' hrunning
          rw [hloop] at hrunning
          cases hrunning
        · intro pc hpc
          cases hpc
  | resume answer =>
      obtain ⟨m, pc, rest, o, hloop, ho, rfl, rfl⟩ := step_resume_iff.1 hstep
      refine h.of_effect (hfits m pc rest hloop) (noticeEffect_of_resumed (resumed_of_resume ho))
        ?_ ?_ ?_
      · rintro _ ⟨⟩
        exact hloop
      · intro k pc' rest' hrunning
        rw [hloop] at hrunning
        cases hrunning
        exact ⟨rfl, rfl⟩
      · rintro _ ⟨⟩ hpc
        exact isSome_backendOf_of_noticing hcoh hagrees hloop hpc

end Told

/-- A run after a recovery, with what the players were told about a PR. -/
theorem told_exec {setup : Setup} {staticBackends : KeyedMap String BackendServer}
    {builds : PrBuilds} {deployments : KeyedMap String String}
    {services : KeyedMap String (Option Int32)} {loadError : Option String}
    {answers : PrBuild → RowAnswers} {sh : Shared} {result : Except String Nat}
    {labels : List Label} {w : World} {tr : List Event}
    (hrec : Recovery.recoverFromDb setup.kubernetes loadError answers
      (Shared.startUp staticBackends builds deployments services) = some (sh, result))
    (hmeets : (system setup).Meets
      (fun w label => NoOverlap w label ∧ DeadlineFits setup w label) (started sh) labels)
    (hrun : (system setup).exec (started sh) labels = some (w, tr)) (n : UInt32) :
    Agrees w.shared ∧ Told ((backendOf sh n).isSome = true) w n (lastNotice n tr) := by
  have hstart : Agrees (started sh).shared :=
    agrees_recoverFromDb (agrees_startUp staticBackends builds deployments services) hrec
  have hinv : Coherent w ∧ Agrees w.shared ∧
      Told ((backendOf sh n).isSome = true) w n (lastNotice n ([] ++ tr)) := by
    refine @System.exec_invariant _ _ _ (system setup)
      (fun w label => NoOverlap w label ∧ DeadlineFits setup w label)
      (fun w tr => Coherent w ∧ Agrees w.shared ∧
        Told ((backendOf sh n).isSome = true) w n (lastNotice n tr)) ?_ labels (started sh) w [] tr
      ⟨coherent_of_fresh (fresh_started sh), hstart, ?_⟩ hmeets hrun
    · rintro s tr label s' t ⟨hcoh, hagrees, htold⟩ ⟨hno, hfits⟩ hstep
      exact ⟨coherent_step hcoh hno hstep, agrees_step hcoh hagrees hfits hstep,
        told_step hcoh hagrees hfits htold hstep⟩
    · -- nothing has been told, and what is registered has been recovered
      refine ⟨?_, ?_, fun hsome => Or.inr (Or.inl ⟨rfl, hsome⟩)⟩
      · intro htrue
        cases htrue
      · intro htrue
        cases htrue
  exact hinv.2

/-- What the players know of PR `n`. If they were told last that it is ready, it is tracked in
`Ready`, and its backend is registered at the address and port of that state. And if its backend
is registered outside of its handler, they were told so, unless it is the backend of a recovery
that they were told nothing about. -/
structure NoticesHold (recovered : Shared) (w : World) (n : UInt32) (tr : List Event) : Prop where
  ready_holds : lastNotice n tr = some true →
    ∃ i deploymentName address port readyAt shutdownAt, w.shared.instances.lookup n = some i ∧
      i.state = .ready deploymentName address port readyAt shutdownAt ∧
        backendOf w.shared n = some ⟨address, port, some s!"PR #{n}"⟩
  ready_told : (backendOf w.shared n).isSome = true → ¬ InHandler w n →
    lastNotice n tr = some true ∨
      (lastNotice n tr = none ∧ (backendOf recovered n).isSome = true)

/-- In every run after a recovery in which calls of one PR do not overlap and no backend is
registered whose shutdown time cannot be represented, the notices about every PR hold. -/
theorem notices_hold (setup : Setup) (staticBackends : KeyedMap String BackendServer)
    (builds : PrBuilds) (deployments : KeyedMap String String)
    (services : KeyedMap String (Option Int32)) (loadError : Option String)
    (answers : PrBuild → RowAnswers) (sh : Shared) (result : Except String Nat)
    (labels : List Label) (w : World) (tr : List Event)
    (hrec : Recovery.recoverFromDb setup.kubernetes loadError answers
      (Shared.startUp staticBackends builds deployments services) = some (sh, result))
    (hmeets : (system setup).Meets
      (fun w label => NoOverlap w label ∧ DeadlineFits setup w label) (started sh) labels)
    (hrun : (system setup).exec (started sh) labels = some (w, tr)) :
    ∀ n, NoticesHold sh w n tr := by
  intro n
  obtain ⟨hagrees, htold⟩ := told_exec hrec hmeets hrun n
  refine ⟨fun hlast => ?_, fun hsome hidle => ?_⟩
  · obtain ⟨i, deploymentName, address, port, readyAt, shutdownAt, hi, hstate⟩ :=
      (registryAgreement_of_agrees hagrees n).registered_iff_ready.1 (htold.registered hlast)
    refine ⟨i, deploymentName, address, port, readyAt, shutdownAt, hi, hstate, ?_⟩
    rw [hagrees n, expectedBackend, endpointOf, hi, Option.bind_some, hstate]
    rfl
  · rcases htold.told hsome with hlast | hlast | ⟨pc, rest, hloop, -⟩
    · exact Or.inl hlast
    · exact Or.inr hlast
    · exact absurd ⟨pc, rest, hloop⟩ hidle

/-- PR 7 is deployed from its cached build, registered and announced. -/
def announcedSample : List Label := deployCachedSample ++ [.resume (.persisted (.ok "now"))]

/-- Only a registration has a shutdown time. -/
theorem deadlineFits_of_fits {setup : Setup} {label : Label}
    (h : ∀ now readyAt, label = .resume (.registryLocked now readyAt) →
      now.addSecs (setup.kubernetes.instanceTimeoutMinutes * 60) ≠ none) (w : World) :
    DeadlineFits setup w label := by
  cases label with
  | resume answer =>
      intro n pc rest _
      cases answer with
      | registryLocked now readyAt =>
          cases pc with
          | register commitHash commitHashShort deploymentName address port =>
              exact h now readyAt rfl
          | _ => exact id
      | _ => cases pc <;> exact id
  | _ => trivial

/-- The only call of this run is made at its start. -/
theorem meets_announcedSample (sh : Shared) :
    (system sampleSetup).Meets
      (fun w label => NoOverlap w label ∧ DeadlineFits sampleSetup w label) (started sh)
      announcedSample := by
  have hcons : announcedSample = .start 0 (.call 7) :: announcedSample.tail := rfl
  have htail : ∀ w, ∀ label ∈ announcedSample.tail, NoOverlap w label := by
    simp [announcedSample, deployCachedSample, sampleChecks, sampleDeploy, sampleRegister,
      NoOverlap]
  have hfits : Instant.addSecs ⟨0⟩ (sampleSetup.kubernetes.instanceTimeoutMinutes * 60) ≠ none := by
    decide
  have hlocked : ∀ label ∈ announcedSample.tail, ∀ now readyAt,
      label = .resume (.registryLocked now readyAt) →
        now.addSecs (sampleSetup.kubernetes.instanceTimeoutMinutes * 60) ≠ none := by
    simp [announcedSample, deployCachedSample, sampleChecks, sampleDeploy, sampleRegister, hfits]
  rw [hcons]
  refine (system sampleSetup).meets_cons ⟨?_, trivial⟩ ((system sampleSetup).meets_of_forall ?_)
  · intro _ _ id' hpending
    cases hpending
  · intro w label hlabel
    exact ⟨htail w label hlabel, deadlineFits_of_fits (hlocked label hlabel) w⟩

/-- PR 7 was announced, and is registered. -/
theorem notices_hold_announcedSample :
    ∃ sh w tr, (system sampleSetup).exec (started sh) announcedSample = some (w, tr) ∧
      (∀ n, NoticesHold sh w n tr) ∧ lastNotice 7 tr = some true ∧
        backendOf w.shared 7 = some ⟨"127.0.0.1", 30007, some "PR #7"⟩ := by
  -- the deployment of the row is not ready yet, so its recovery changes nothing
  have hrec : Recovery.recoverFromDb sampleSetup.kubernetes none
      (fun _ => { readyAnswers with deployment := .ok ⟨some 0⟩ }) Recovery.sampleStartUp =
        some ({ Recovery.sampleStartUp with clientReady := true }, .ok 0) := by rfl
  have hfinal : ((system sampleSetup).exec
      (started { Recovery.sampleStartUp with clientReady := true }) announcedSample).map
        (fun p => (lastNotice 7 p.2, backendOf p.1.shared 7)) =
          some (some true, some ⟨"127.0.0.1", 30007, some "PR #7"⟩) := by decide +kernel
  obtain ⟨⟨w, tr⟩, hrun, heq⟩ := Option.map_eq_some_iff.1 hfinal
  obtain ⟨hlast, hback⟩ := Prod.mk.inj heq
  exact ⟨_, w, tr, hrun, notices_hold sampleSetup ∅ _ ∅ ∅ none _ _ _ _ w tr hrec
    (meets_announcedSample _) hrun, hlast, hback⟩

end Lifecycle

end SteelProxy
