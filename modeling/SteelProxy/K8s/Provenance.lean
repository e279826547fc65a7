import SteelProxy.K8s.ClusterEffects

/-!
# Provenance of cached builds

A row `Ready` of `pr_builds` makes every later start of the same commit skip the build, so it has
to come from a deployment of an image that Jenkins built for that commit. The tag is read from
the snapshot of a tick, the commit from the snapshot of a later one, and in between `start_pr` may
insert another instance under the same PR. If an insertion never changes the commit of a PR that
the loop is working on (`KeepsCommit`), every row written has its provenance
(`provenance_of_keepsCommit`); `mixed_commits_cached` is a run that mixes two commits.
-/

set_option autoImplicit false

namespace SteelProxy.Lifecycle

open SteelProxy.Library SteelProxy.Library.Transition

/-- A build triggered for PR `n` and the short commit `c` has reported `Success`. -/
def Built (n : UInt32) (c : String) (tr : List Event) : Prop :=
  ∃ queueUrl buildUrl,
    [.triggered n c queueUrl, .buildReported n queueUrl buildUrl .success].Sublist tr

/-- The image of the deployment that was found ready for PR `n`. -/
def readyImage (n : UInt32) : Event → Option (Option String)
  | .foundReady m image => if m = n then some image else none
  | _ => none

/-- The image deployed for PR `n` and the short commit `c`. -/
def imageOf (setup : Setup) (n : UInt32) (c : String) : String :=
  deploymentImage setup.kubernetes (imageTagOf n c)

/-- The deployment last found ready for PR `n` runs the image of the short commit `c`. -/
def FoundReady (setup : Setup) (n : UInt32) (c : String) (tr : List Event) : Prop :=
  lastOf (readyImage n) tr = some (some (imageOf setup n c))

/-- A written row names the image of its commit and the state `Ready`, the deployment found ready
runs this image, and a build triggered for the commit has reported `Success`. -/
def Provenance (setup : Setup) (tr : List Event) : Event → Prop
  | .upserted n _ c imageTag state =>
      imageTag = imageTagOf n c ∧ state = "Ready" ∧ FoundReady setup n c tr ∧ Built n c tr
  | _ => True

section Facts

variable {setup : Setup} {n : UInt32} {c : String} {tr t : List Event}

theorem Built.mono (h : Built n c tr) : Built n c (tr ++ t) := by
  obtain ⟨queueUrl, buildUrl, hsub⟩ := h
  exact ⟨queueUrl, buildUrl, hsub.trans (List.sublist_append_left tr t)⟩

/-- The report of a triggered build. -/
theorem built_of_reported {queueUrl buildUrl : String} (htrig : Event.triggered n c queueUrl ∈ tr)
    (hrep : Event.buildReported n queueUrl buildUrl .success ∈ t) : Built n c (tr ++ t) :=
  ⟨queueUrl, buildUrl,
    (List.singleton_sublist.2 htrig).append (List.singleton_sublist.2 hrep)⟩

theorem FoundReady.mono (h : FoundReady setup n c tr) (ht : ∀ e ∈ t, readyImage n e = none) :
    FoundReady setup n c (tr ++ t) :=
  (lastOf_append_of_forall_none ht).trans h

end Facts

/-! ## What instances, handlers and rows carry -/

/-- The state is not `Starting`. -/
def NotStarting : InstanceState → Prop
  | .starting _ _ _ _ => False
  | _ => True

/-- The cluster runs the image of `(n, c)`, and it was built. -/
def Deployed (setup : Setup) (sh : Shared) (tr : List Event) (n : UInt32) (c : String) : Prop :=
  Built n c tr ∧ sh.deployments.lookup (deploymentName n) = some (imageOf setup n c)

/-- What a state of PR `n` with the short commit `c` carries. -/
def StateOk (setup : Setup) (sh : Shared) (tr : List Event) (n : UInt32) (c : String) :
    InstanceState → Prop
  | .building _ (some queueUrl) => .triggered n c queueUrl ∈ tr
  | .deploying imageTag => imageTag = imageTagOf n c ∧ Built n c tr
  | .starting name _ _ _ => name = deploymentName n ∧ Deployed setup sh tr n c
  | _ => True

/-- What the handler of PR `n`, whose instance is `i`, carries. A handler that changes the
deployment works on an instance that is not `Starting`. -/
def PcOk (setup : Setup) (sh : Shared) (tr : List Event) (n : UInt32) (i : PrInstance) :
    HandlerPc → Prop
  | .buildUrl c queueUrl => c = i.commitHashShort ∧ .triggered n c queueUrl ∈ tr
  | .buildStatus c queueUrl _ => c = i.commitHashShort ∧ .triggered n c queueUrl ∈ tr
  | .deleteDeployment imageTag =>
      NotStarting i.state ∧ imageTag = imageTagOf n i.commitHashShort ∧ Built n i.commitHashShort tr
  | .settle imageTag =>
      NotStarting i.state ∧ imageTag = imageTagOf n i.commitHashShort ∧ Built n i.commitHashShort tr
  | .createDeployment imageTag =>
      NotStarting i.state ∧ imageTag = imageTagOf n i.commitHashShort ∧ Built n i.commitHashShort tr
  | .deleteService => Deployed setup sh tr n i.commitHashShort
  | .createService => Deployed setup sh tr n i.commitHashShort
  | .checkReady _ c name _ _ =>
      c = i.commitHashShort ∧ name = deploymentName n ∧ Deployed setup sh tr n c
  | .register _ c _ _ _ => c = i.commitHashShort ∧ Built n c tr ∧ FoundReady setup n c tr
  | .persist _ c => c = i.commitHashShort ∧ Built n c tr ∧ FoundReady setup n c tr
  | .unregister _ => True
  | .tearDownDeployment => NotStarting i.state
  | .tearDownService => True

/-- The rows `Ready` were built. -/
def BuildsOk (builds : PrBuilds) (tr : List Event) : Prop :=
  ∀ row ∈ builds.rows, row.state = "Ready" → ∀ n, row.prNumber = prNumberAsI64 n →
    Built n row.commitHashShort tr

section Carried

variable {setup : Setup} {sh sh' : Shared} {tr t : List Event} {n : UInt32} {c : String}

theorem Deployed.mono (h : Deployed setup sh tr n c)
    (hdep : sh'.deployments.lookup (deploymentName n) = sh.deployments.lookup (deploymentName n)) :
    Deployed setup sh' (tr ++ t) n c :=
  ⟨h.1.mono, hdep.trans h.2⟩

theorem StateOk.mono {state : InstanceState} (h : StateOk setup sh tr n c state)
    (hdep : NotStarting state ∨
      sh'.deployments.lookup (deploymentName n) = sh.deployments.lookup (deploymentName n)) :
    StateOk setup sh' (tr ++ t) n c state := by
  cases state with
  | building startedAt buildUrl =>
      cases buildUrl with
      | none => trivial
      | some queueUrl => exact List.mem_append_left t h
  | deploying imageTag => exact ⟨h.1, h.2.mono⟩
  | starting name address port startedAt =>
      rcases hdep with hnot | hdep
      · exact hnot.elim
      · exact ⟨h.1, h.2.mono hdep⟩
  | ready name address port readyAt shutdownAt => trivial
  | shuttingDown name => trivial
  | failed reason => trivial

theorem PcOk.mono {i i' : PrInstance} {pc : HandlerPc} (h : PcOk setup sh tr n i pc)
    (hdep : sh'.deployments.lookup (deploymentName n) = sh.deployments.lookup (deploymentName n))
    (ht : ∀ e ∈ t, readyImage n e = none) (hshort : i'.commitHashShort = i.commitHashShort)
    (hnot : NotStarting i.state → NotStarting i'.state) : PcOk setup sh' (tr ++ t) n i' pc := by
  cases pc with
  | buildUrl c queueUrl => exact ⟨h.1.trans hshort.symm, List.mem_append_left t h.2⟩
  | buildStatus c queueUrl buildUrl => exact ⟨h.1.trans hshort.symm, List.mem_append_left t h.2⟩
  | deleteDeployment imageTag =>
      obtain ⟨hs, htag, hbuilt⟩ := h
      simp only [PcOk, hshort]
      exact ⟨hnot hs, htag, hbuilt.mono⟩
  | settle imageTag =>
      obtain ⟨hs, htag, hbuilt⟩ := h
      simp only [PcOk, hshort]
      exact ⟨hnot hs, htag, hbuilt.mono⟩
  | createDeployment imageTag =>
      obtain ⟨hs, htag, hbuilt⟩ := h
      simp only [PcOk, hshort]
      exact ⟨hnot hs, htag, hbuilt.mono⟩
  | deleteService =>
      simp only [PcOk, hshort]
      exact Deployed.mono h hdep
  | createService =>
      simp only [PcOk, hshort]
      exact Deployed.mono h hdep
  | checkReady commitHash c name address port =>
      exact ⟨h.1.trans hshort.symm, h.2.1, h.2.2.mono hdep⟩
  | register commitHash c name address port =>
      exact ⟨h.1.trans hshort.symm, h.2.1.mono, h.2.2.mono ht⟩
  | persist commitHash c => exact ⟨h.1.trans hshort.symm, h.2.1.mono, h.2.2.mono ht⟩
  | unregister name => trivial
  | tearDownDeployment => exact hnot h
  | tearDownService => trivial

theorem BuildsOk.mono {builds : PrBuilds} (h : BuildsOk builds tr) : BuildsOk builds (tr ++ t) :=
  fun row hrow hready n hn => (h row hrow hready n hn).mono

/-- A row written for a built commit. -/
theorem BuildsOk.upsert {builds : PrBuilds} (h : BuildsOk builds tr) (hbuilt : Built n c tr)
    (commitHash imageTag state : String) (stateData : Option String) (now : String) :
    BuildsOk (builds.upsert n commitHash c imageTag state stateData now) tr := by
  intro row hrow hready m hm
  rcases PrBuilds.mem_rows_upsert hrow with ⟨hold, -⟩ | ⟨hnumber, -, hshort, -, -⟩
  · exact h row hold hready m hm
  · have hnm : m = n := prNumberAsI64_injective (hm.symm.trans hnumber)
    rw [hnm, hshort]
    exact hbuilt

/-- A hit in the table is a built commit. -/
theorem BuildsOk.built {builds : PrBuilds} (h : BuildsOk builds tr)
    (hexists : builds.existsWithCommit n c = true) : Built n c tr := by
  obtain ⟨row, hrow, hnumber, hshort, hready⟩ := (builds.existsWithCommit_iff n c).1 hexists
  rw [← hshort]
  exact h row hrow hready n hnumber

end Carried

/-! ## Pieces of a handler -/

/-- What a piece of the handler of PR `n`, whose instance is `i`, leaves behind. -/
structure PieceOk (setup : Setup) (tr : List Event) (n : UInt32) (i : PrInstance) (o : Outcome) :
    Prop where
  justified : Justified (fun pre => Provenance setup (tr ++ pre)) o.events
  builds : BuildsOk o.shared.builds (tr ++ o.events)
  state : ∀ i', o.shared.instances.lookup n = some i' →
    i'.commitHashShort = i.commitHashShort ∧
      StateOk setup o.shared (tr ++ o.events) n i'.commitHashShort i'.state
  flow : ∀ pc, o.flow = .await pc → ∃ i', o.shared.instances.lookup n = some i' ∧
    PcOk setup o.shared (tr ++ o.events) n i' pc

section Pieces

variable {setup : Setup} {sh sh' : Shared} {tr : List Event} {n : UInt32} {i : PrInstance}
  {flow : Flow} {events : List Event}

theorem justified_of_forall (h : ∀ e ∈ events, ∀ pre, Provenance setup pre e) :
    Justified (fun pre => Provenance setup (tr ++ pre)) events := by
  rintro pre e post rfl
  exact h e (by simp) (tr ++ pre)

/-- A piece that keeps the instance. -/
theorem PieceOk.of_kept (hi : sh.instances.lookup n = some i)
    (hstate : StateOk setup sh tr n i.commitHashShort i.state) (hbuilds : BuildsOk sh.builds tr)
    (hrows : sh'.builds = sh.builds) (hinst : sh'.instances = sh.instances)
    (hdep : NotStarting i.state ∨
      sh'.deployments.lookup (deploymentName n) = sh.deployments.lookup (deploymentName n))
    (hev : ∀ e ∈ events, ∀ pre, Provenance setup pre e)
    (hflow : ∀ pc, flow = .await pc → PcOk setup sh' (tr ++ events) n i pc) :
    PieceOk setup tr n i ⟨sh', flow, events⟩ where
  justified := justified_of_forall hev
  builds := by
    simp only [hrows]
    exact hbuilds.mono
  state := by
    intro i' hi'
    simp only [hinst, hi, Option.some.injEq] at hi'
    subst hi'
    exact ⟨rfl, hstate.mono hdep⟩
  flow := fun pc hpc => ⟨i, by simp only [hinst, hi], hflow pc hpc⟩

/-- A piece that moves the instance to a new state. -/
theorem PieceOk.of_moved {state : InstanceState} (hi : sh.instances.lookup n = some i)
    (hbuilds : BuildsOk sh.builds tr) (hrows : sh'.builds = sh.builds)
    (hinst : sh'.instances = sh.instances) (hev : ∀ e ∈ events, ∀ pre, Provenance setup pre e)
    (hnew : StateOk setup (sh'.setState n state) (tr ++ events) n i.commitHashShort state)
    (hflow : ∀ pc, flow = .await pc →
      PcOk setup (sh'.setState n state) (tr ++ events) n { i with state := state } pc) :
    PieceOk setup tr n i ⟨sh'.setState n state, flow, events⟩ := by
  have hlookup : (sh'.setState n state).instances.lookup n = some { i with state := state } :=
    Shared.lookup_setState (by rw [hinst, hi]) state
  refine ⟨justified_of_forall hev, ?_, ?_, fun pc hpc => ⟨_, hlookup, hflow pc hpc⟩⟩
  · show BuildsOk sh'.builds (tr ++ events)
    rw [hrows]
    exact hbuilds.mono
  · intro i' hi'
    rw [hlookup, Option.some.injEq] at hi'
    subst hi'
    exact ⟨rfl, hnew⟩

/-- A piece that ends by removing the instance. -/
theorem PieceOk.of_untracked (hbuilds : BuildsOk sh.builds tr) (hrows : sh'.builds = sh.builds)
    (hev : ∀ e ∈ events, ∀ pre, Provenance setup pre e) :
    PieceOk setup tr n i (untracked sh' n events) where
  justified := by
    apply justified_of_forall
    intro e he
    rcases List.mem_append.1 he with he | he
    · exact hev e he
    · rw [List.mem_singleton] at he
      subst he
      exact fun _ => trivial
  builds := by
    show BuildsOk sh'.builds _
    rw [hrows]
    exact hbuilds.mono
  state := by
    intro i' hi'
    simp [untracked, Shared.untrack, K8sManager.lookup_removeInstance] at hi'
  flow := by
    intro pc hpc
    cases hpc

variable (hi : sh.instances.lookup n = some i)
  (hstate : StateOk setup sh tr n i.commitHashShort i.state) (hbuilds : BuildsOk sh.builds tr)

include hi hstate hbuilds

/-- Dispatching an entry of the snapshot that has the commit of the tracked instance. -/
theorem pieceOk_of_dispatched {entry : PrInstance} {now : Instant} {o : Outcome}
    (h : Dispatched setup sh n entry now o) (hshort : entry.commitHashShort = i.commitHashShort)
    (hentry : StateOk setup sh tr n entry.commitHashShort entry.state)
    (hsame : i.state = entry.state ∨ NotStarting i.state) : PieceOk setup tr n i o := by
  have hkeep : ∀ flow events, (∀ e ∈ events, ∀ pre, Provenance setup pre e) →
      (∀ pc, flow = .await pc → PcOk setup sh (tr ++ events) n i pc) →
        PieceOk setup tr n i ⟨sh, flow, events⟩ :=
    fun flow events hev hflow => .of_kept hi hstate hbuilds rfl rfl (Or.inr rfl) hev hflow
  have hcarry : NotStarting entry.state → NotStarting i.state := by
    intro hnot
    rcases hsame with heq | hnot'
    · rw [heq]
      exact hnot
    · exact hnot'
  cases h with
  | buildTimedOut startedAt queueUrl message hs hlate =>
      exact .of_moved hi hbuilds rfl rfl (by simp [Provenance]) trivial (by simp)
  | notQueued startedAt hs => exact hkeep _ _ (by simp) (by simp)
  | building startedAt queueUrl hs =>
      rw [hs] at hentry
      apply hkeep _ _ (by simp)
      intro pc hpc
      cases hpc
      exact ⟨hshort, List.mem_append_left _ hentry⟩
  | deploying imageTag hs =>
      rw [hs, hshort] at hentry
      apply hkeep _ _ (by simp)
      intro pc hpc
      cases hpc
      exact ⟨hcarry (by rw [hs]; trivial), hentry.1, hentry.2.mono⟩
  | startTimedOut name address port startedAt message hs hlate =>
      exact .of_moved hi hbuilds rfl rfl (by simp [Provenance]) trivial (by simp)
  | starting name address port startedAt hs =>
      rw [hs] at hentry
      apply hkeep _ _ (by simp)
      intro pc hpc
      cases hpc
      exact ⟨hshort, hentry.1, hentry.2.mono rfl⟩
  | expired name address port readyAt shutdownAt message hs hlate =>
      apply hkeep _ _ (by simp [Provenance])
      intro pc hpc
      cases hpc
      trivial
  | ready name address port readyAt shutdownAt hs => exact hkeep _ _ (by simp) (by simp)
  | shuttingDown name hs =>
      apply hkeep _ _ (by simp)
      intro pc hpc
      cases hpc
      exact hcarry (by rw [hs]; trivial)
  | failed reason hs => exact .of_untracked hbuilds rfl (by simp)

/-- The report of Jenkins: `Success` is what makes the commit built. -/
theorem pieceOk_handleBuildingStatus {c queueUrl : String} (buildUrl : String)
    (answer : HttpAnswer BuildJson) (hc : c = i.commitHashShort)
    (htrig : Event.triggered n c queueUrl ∈ tr) :
    PieceOk setup tr n i (handleBuildingStatus sh n c queueUrl buildUrl answer) := by
  simp only [handleBuildingStatus]
  split
  · refine .of_moved hi hbuilds rfl rfl (by simp [Provenance]) ?_ (by simp)
    rw [← hc]
    exact ⟨rfl, built_of_reported htrig List.mem_cons_self⟩
  · exact .of_moved hi hbuilds rfl rfl (by simp [Provenance]) trivial (by simp)
  · exact .of_kept hi hstate hbuilds rfl rfl (Or.inr rfl) (by simp [Provenance]) (by simp)
  · exact .of_kept hi hstate hbuilds rfl rfl (Or.inr rfl) (by simp [Provenance]) (by simp)
  · exact .of_moved hi hbuilds rfl rfl (by simp [Provenance]) trivial (by simp)
  · exact .of_kept hi hstate hbuilds rfl rfl (Or.inr rfl) (by simp) (by simp)

/-- The readiness query records the image that the deployment runs. -/
theorem pieceOk_handleStartingChecked {commitHash c name address : String} {port : UInt16}
    (call : KubeCall Deployment) (hsh' : sh' = sh ∨ sh' = sh.withClient)
    (hc : c = i.commitHashShort) (hname : name = deploymentName n)
    (hdeployed : Deployed setup sh tr n c) :
    PieceOk setup tr n i (handleStartingChecked sh' n commitHash c name address port call) := by
  have hfields : sh'.builds = sh.builds ∧ sh'.instances = sh.instances ∧
      sh'.deployments = sh.deployments := by
    rcases hsh' with rfl | rfl <;> exact ⟨rfl, rfl, rfl⟩
  obtain ⟨hrows, hinst, hdep⟩ := hfields
  have hkeep : ∀ flow events, (∀ e ∈ events, ∀ pre, Provenance setup pre e) →
      (∀ pc, flow = .await pc → PcOk setup sh' (tr ++ events) n i pc) →
        PieceOk setup tr n i ⟨sh', flow, events⟩ :=
    fun flow events hev hflow =>
      .of_kept hi hstate hbuilds hrows hinst (Or.inr (by rw [hdep])) hev hflow
  simp only [handleStartingChecked]
  split
  · apply hkeep _ _ (by simp [Provenance])
    intro pc hpc
    cases hpc
    refine ⟨hc, hdeployed.1.mono, ?_⟩
    -- the event just emitted records the image, and the instance's deployment runs the right one
    rw [FoundReady, lastOf_append, hdep, hname, hdeployed.2]
    simp [lastOf, readyImage]
  · exact hkeep _ _ (by simp) (by simp)
  · exact hkeep _ _ (by simp) (by simp)

/-- The upsert: the row has the provenance that the handler carries. -/
theorem pieceOk_handleStartingPersisted {commitHash c : String} (answer : Except String String)
    (hbuilt : Built n c tr) (hfound : FoundReady setup n c tr) :
    PieceOk setup tr n i (handleStartingPersisted sh n commitHash c answer) := by
  simp only [handleStartingPersisted]
  cases answer with
  | error e =>
      exact .of_kept hi hstate hbuilds rfl rfl (Or.inr rfl) (by simp [Provenance]) (by simp)
  | ok now =>
      refine ⟨?_, ?_, ?_, by simp⟩
      · simp only [justified_cons_iff, justified_nil, and_true, List.append_nil]
        exact ⟨⟨rfl, rfl, hfound, hbuilt⟩, trivial⟩
      · exact (hbuilds.upsert hbuilt commitHash _ _ _ _).mono
      · intro i' hi'
        rw [show (_ : Option PrInstance) = some i from hi, Option.some.injEq] at hi'
        subst hi'
        exact ⟨rfl, hstate.mono (Or.inr rfl)⟩

theorem pieceOk_of_resumed {pc : HandlerPc} {answer : Answer} {o : Outcome}
    (h : Resumed setup sh n pc answer o) (hpc : PcOk setup sh tr n i pc) :
    PieceOk setup tr n i o := by
  have hfail : ∀ reason events, (∀ e ∈ events, ∀ pre, Provenance setup pre e) →
      PieceOk setup tr n i ⟨sh.setState n (.failed reason), .done, events⟩ :=
    fun reason events hev => .of_moved hi hbuilds rfl rfl hev trivial (by simp)
  cases h with
  | buildUrl c queueUrl answer =>
      simp only [handleBuildingUrl]
      split
      · refine .of_kept hi hstate hbuilds rfl rfl (Or.inr rfl) (by simp) ?_
        intro pc hpc'
        cases hpc'
        exact ⟨hpc.1, List.mem_append_left _ hpc.2⟩
      · exact .of_kept hi hstate hbuilds rfl rfl (Or.inr rfl) (by simp) (by simp)
      · exact .of_kept hi hstate hbuilds rfl rfl (Or.inr rfl) (by simp) (by simp)
  | buildStatus c queueUrl buildUrl answer =>
      exact pieceOk_handleBuildingStatus hi hstate hbuilds buildUrl answer hpc.1 hpc.2
  | noDeploymentClient imageTag hclient => exact hfail _ _ (by simp [Provenance])
  | deploymentDeleted imageTag answer =>
      -- the deployment goes, which matters only to an instance in `Starting`
      obtain ⟨hnot, htag, hbuilt⟩ := hpc
      cases answer with
      | ok u =>
          refine .of_kept hi hstate hbuilds (by simp) (by simp) (Or.inl hnot) (by simp) ?_
          intro pc hpc'
          cases hpc'
          exact ⟨hnot, htag, hbuilt.mono⟩
      | error e =>
          refine .of_kept hi hstate hbuilds (by simp) (by simp) (Or.inl hnot) (by simp) ?_
          intro pc hpc'
          cases hpc'
          exact ⟨hnot, htag, hbuilt.mono⟩
  | settled imageTag =>
      obtain ⟨hnot, htag, hbuilt⟩ := hpc
      refine .of_kept hi hstate hbuilds rfl rfl (Or.inr rfl) (by simp) ?_
      intro pc hpc'
      cases hpc'
      exact ⟨hnot, htag, hbuilt.mono⟩
  | deploymentCreated imageTag answer =>
      obtain ⟨hnot, htag, hbuilt⟩ := hpc
      cases answer with
      | error e => exact hfail _ _ (by simp [Provenance])
      | ok u =>
          refine .of_kept hi hstate hbuilds rfl rfl (Or.inl hnot) (by simp [Provenance]) ?_
          intro pc hpc'
          cases hpc'
          -- the created deployment runs the image of the tag, which is the tag of the commit
          refine ⟨hbuilt.mono, ?_⟩
          simp only [AList.lookup_insert, htag, imageOf]
  | noServiceClient hclient => exact hfail _ _ (by simp [Provenance])
  | serviceDeleted answer =>
      refine .of_kept hi hstate hbuilds (by simp) (by simp) (Or.inr (by simp)) (by simp) ?_
      intro pc hpc'
      cases hpc'
      exact Deployed.mono hpc (by simp)
  | serviceCreated answer now =>
      simp only [createServiceCreated]
      cases answer with
      | error e => exact hfail _ _ (by simp [Provenance])
      | ok svc =>
          cases hport : svc.firstNodePort with
          | none =>
              simp only [hport]
              exact .of_moved hi hbuilds rfl rfl (by simp [Provenance]) trivial (by simp)
          | some nodePort =>
              simp only [hport]
              exact .of_moved hi hbuilds rfl rfl (by simp) ⟨rfl, Deployed.mono hpc rfl⟩ (by simp)
  | noReadinessClient commitHash c name address port hclient =>
      exact pieceOk_handleStartingChecked hi hstate hbuilds _ (Or.inl rfl) hpc.1 hpc.2.1 hpc.2.2
  | readinessChecked commitHash c name address port answer =>
      exact pieceOk_handleStartingChecked hi hstate hbuilds _ (Or.inr rfl) hpc.1 hpc.2.1 hpc.2.2
  | registered commitHash c name address port now readyAt =>
      obtain ⟨hc, hbuilt, hfound⟩ := hpc
      simp only [handleStartingRegistered]
      split
      · exact .of_kept hi hstate hbuilds rfl rfl (Or.inr rfl) (by simp) (by simp)
      · refine .of_moved hi hbuilds rfl rfl (by simp) trivial ?_
        intro pc hpc'
        cases hpc'
        exact ⟨hc, hbuilt.mono, hfound.mono (by simp)⟩
  | persisted commitHash c answer =>
      exact pieceOk_handleStartingPersisted hi hstate hbuilds answer hpc.2.1 hpc.2.2
  | unregistered name now readyAt =>
      exact .of_moved hi hbuilds rfl rfl (by simp) trivial (by simp)
  | noTearDownClient hclient => exact .of_untracked hbuilds rfl (by simp [Provenance])
  | deploymentTornDown answer =>
      have hawait : PieceOk setup tr n i
          ⟨sh.withClient.afterDeleteDeployment (deploymentName n) answer,
            .await .tearDownService, []⟩ := by
        refine .of_kept hi hstate hbuilds (by simp) (by simp) (Or.inl hpc) (by simp) ?_
        intro pc hpc'
        cases hpc'
        trivial
      simp only [deleteInstanceDeployment]
      cases answer with
      | ok u => exact hawait
      | error e =>
          dsimp only
          split
          · exact hawait
          · exact .of_untracked hbuilds (by simp) (by simp [Provenance])
  | serviceTornDown answer =>
      simp only [deleteInstanceService]
      cases answer with
      | ok u => exact .of_untracked hbuilds (by simp) (by simp)
      | error e =>
          dsimp only
          split
          · exact .of_untracked hbuilds (by simp) (by simp)
          · exact .of_untracked hbuilds (by simp) (by simp [Provenance])

end Pieces

/-! ## Runs -/

/-- The loop is inside the handler of PR `n` or still has an entry of `n`. -/
def LoopHolds (n : UInt32) : LoopState → Prop
  | .next rest => n ∈ rest.map Prod.fst
  | .running m _ rest => n = m ∨ n ∈ rest.map Prod.fst
  | _ => False

/-- If the loop holds PR `n`, then the tracked instance of `n` has the short commit `c`. -/
def HoldsCommit (w : World) (n : UInt32) (c : String) : Prop :=
  LoopHolds n w.loop → ∀ i, w.shared.instances.lookup n = some i → i.commitHashShort = c

/-- A call that inserts its instance does not change the commit of a PR that the loop holds. -/
def KeepsCommit (setup : Setup) (w : World) : Label → Prop
  | .start id .buildsResumed =>
      ∀ n commitHash c, w.calls id = .decided n commitHash c true → HoldsCommit w n c
  | .start id (.jenkinsAnswered answer _) =>
      ∀ n commitHash c queueUrl, w.calls id = .jenkins n commitHash c →
        JenkinsClient.triggerBuild setup.jenkins answer = .ok queueUrl → HoldsCommit w n c
  | _ => True

/-- The instance `i'` may stand for `i` while the loop holds the PR. -/
def Replaces (i i' : PrInstance) : Prop :=
  i'.commitHashShort = i.commitHashShort ∧ (i'.state = i.state ∨ NotStarting i'.state)

theorem replaces_refl (i : PrInstance) : Replaces i i := ⟨rfl, Or.inl rfl⟩

theorem Replaces.trans {i₁ i₂ i₃ : PrInstance} (h₁ : Replaces i₁ i₂) (h₂ : Replaces i₂ i₃) :
    Replaces i₁ i₃ := by
  refine ⟨h₂.1.trans h₁.1, ?_⟩
  rcases h₂.2 with heq | hnot
  · rw [heq]
    exact h₁.2
  · exact Or.inr hnot

/-- The entries of the snapshot have distinct PRs, carry what their states carry, and are
replaced by the tracked instances. -/
def RestOk (setup : Setup) (sh : Shared) (tr : List Event) (rest : List (UInt32 × PrInstance)) :
    Prop :=
  (rest.map Prod.fst).Nodup ∧ ∀ k entry, (k, entry) ∈ rest →
    StateOk setup sh tr k entry.commitHashShort entry.state ∧
      ∃ i, sh.instances.lookup k = some i ∧ Replaces entry i

/-- What the position of the loop carries. -/
def LoopOk (setup : Setup) (sh : Shared) (tr : List Event) : LoopState → Prop
  | .waiting => True
  | .next rest => RestOk setup sh tr rest
  | .running n pc rest =>
      n ∉ rest.map Prod.fst ∧ RestOk setup sh tr rest ∧
        ∃ i, sh.instances.lookup n = some i ∧ PcOk setup sh tr n i pc
  | .panicked => True

/-- A call that is about to deploy a cached image does so for a built commit. -/
def CallOk (tr : List Event) : StartCall → Prop
  | .decided n _ c true => Built n c tr
  | _ => True

/-- The invariant of a run. -/
structure ProvenanceInv (setup : Setup) (w : World) (tr : List Event) : Prop where
  justified : Justified (Provenance setup) tr
  builds : BuildsOk w.shared.builds tr
  calls : ∀ id, CallOk tr (w.calls id)
  tracked : ∀ n i, w.shared.instances.lookup n = some i →
    StateOk setup w.shared tr n i.commitHashShort i.state
  loop : LoopOk setup w.shared tr w.loop

section Runs

variable {setup : Setup} {sh sh' : Shared} {w w' : World} {tr t : List Event}

theorem CallOk.mono {call : StartCall} (h : CallOk tr call) : CallOk (tr ++ t) call := by
  cases call with
  | decided n commitHash c existingBuild =>
      cases existingBuild with
      | true => exact Built.mono h
      | false => trivial
  | _ => trivial

theorem RestOk.mono {rest : List (UInt32 × PrInstance)} (h : RestOk setup sh tr rest)
    (hdep : ∀ k ∈ rest.map Prod.fst,
      sh'.deployments.lookup (deploymentName k) = sh.deployments.lookup (deploymentName k))
    (hinst : ∀ k ∈ rest.map Prod.fst, ∀ i, sh.instances.lookup k = some i →
      ∃ i', sh'.instances.lookup k = some i' ∧ Replaces i i') :
    RestOk setup sh' (tr ++ t) rest := by
  refine ⟨h.1, ?_⟩
  intro k entry hmem
  have hk : k ∈ rest.map Prod.fst := List.mem_map.2 ⟨(k, entry), hmem, rfl⟩
  obtain ⟨hstate, i, hi, hrep⟩ := h.2 k entry hmem
  obtain ⟨i', hi', hrep'⟩ := hinst k hk i hi
  exact ⟨hstate.mono (Or.inr (hdep k hk)), i', hi', hrep.trans hrep'⟩

theorem LoopOk.mono {loop : LoopState} (h : LoopOk setup sh tr loop)
    (hdep : sh'.deployments = sh.deployments) (hfound : ∀ e ∈ t, ∀ n, readyImage n e = none)
    (hinst : ∀ n, LoopHolds n loop → ∀ i, sh.instances.lookup n = some i →
      ∃ i', sh'.instances.lookup n = some i' ∧ Replaces i i') :
    LoopOk setup sh' (tr ++ t) loop := by
  cases loop with
  | waiting => trivial
  | next rest => exact RestOk.mono h (fun k _ => by rw [hdep]) hinst
  | running n pc rest =>
      obtain ⟨hn, hrest, i, hi, hpc⟩ := h
      obtain ⟨i', hi', hshort, hstate⟩ := hinst n (Or.inl rfl) i hi
      refine ⟨hn, hrest.mono (fun k _ => by rw [hdep]) fun k hk => hinst k (Or.inr hk), i', hi', ?_⟩
      apply hpc.mono (by rw [hdep]) (fun e he => hfound e he n) hshort
      intro hnot
      rcases hstate with heq | hnot'
      · rw [heq]
        exact hnot
      · exact hnot'
  | panicked => trivial

/-- A piece of a call: it finds no deployment ready and writes no row, and what it tracks or
decides carries what it has to. -/
theorem ProvenanceInv.of_call (h : ProvenanceInv setup w tr) {id : Nat} {call : StartCall}
    (hev : ∀ e ∈ t, ∀ pre, Provenance setup pre e) (hfound : ∀ e ∈ t, ∀ n, readyImage n e = none)
    (hcall : CallOk (tr ++ t) call) (hdep : sh'.deployments = w.shared.deployments)
    (hrows : sh'.builds = w.shared.builds)
    (htracked : ∀ n i, sh'.instances.lookup n = some i →
      w.shared.instances.lookup n = some i ∨
        StateOk setup sh' (tr ++ t) n i.commitHashShort i.state)
    (hinst : ∀ n, LoopHolds n w.loop → ∀ i, w.shared.instances.lookup n = some i →
      ∃ i', sh'.instances.lookup n = some i' ∧ Replaces i i') :
    ProvenanceInv setup ⟨sh', Function.update w.calls id call, w.loop⟩ (tr ++ t) where
  justified := justified_append_iff.2 ⟨h.justified, justified_of_forall hev⟩
  builds := by
    show BuildsOk sh'.builds (tr ++ t)
    rw [hrows]
    exact h.builds.mono
  calls := by
    intro id'
    simp only [Function.update_apply]
    split
    · exact hcall
    · exact (h.calls id').mono
  tracked := by
    intro n i hi
    rcases htracked n i hi with hold | hnew
    · exact (h.tracked n i hold).mono (Or.inr (by rw [hdep]))
    · exact hnew
  loop := h.loop.mono hdep hfound hinst

/-- A piece of a call that leaves the stores alone. -/
theorem ProvenanceInv.of_quiet (h : ProvenanceInv setup w tr) (id : Nat) {call : StartCall}
    (hev : ∀ e ∈ t, ∀ pre, Provenance setup pre e) (hfound : ∀ e ∈ t, ∀ n, readyImage n e = none)
    (hcall : CallOk (tr ++ t) call) :
    ProvenanceInv setup ⟨w.shared, Function.update w.calls id call, w.loop⟩ (tr ++ t) :=
  h.of_call hev hfound hcall rfl rfl (fun _ _ hi => Or.inl hi)
    fun _ _ i hi => ⟨i, hi, replaces_refl i⟩

/-- A piece of a call that inserts an instance without changing a commit that the loop holds. -/
theorem ProvenanceInv.of_insert (h : ProvenanceInv setup w tr) (id : Nat) {n : UInt32}
    {i : PrInstance} (hev : ∀ e ∈ t, ∀ pre, Provenance setup pre e)
    (hfound : ∀ e ∈ t, ∀ n, readyImage n e = none) (hnot : NotStarting i.state)
    (hstate : StateOk setup { w.shared with instances := w.shared.instances.insert n i } (tr ++ t) n
      i.commitHashShort i.state)
    (hholds : HoldsCommit w n i.commitHashShort) :
    ProvenanceInv setup ⟨{ w.shared with instances := w.shared.instances.insert n i },
      Function.update w.calls id .idle, w.loop⟩ (tr ++ t) := by
  refine h.of_call hev hfound trivial rfl rfl ?_ ?_
  · intro k j hj
    by_cases hk : k = n
    · subst hk
      simp only [AList.lookup_insert, Option.some.injEq] at hj
      subst hj
      exact Or.inr hstate
    · simp only [AList.lookup_insert_ne hk] at hj
      exact Or.inl hj
  · intro k hk j hj
    by_cases hkn : k = n
    · -- this is where an insertion with another commit would break the invariant
      subst hkn
      exact ⟨i, AList.lookup_insert _, (hholds hk j hj).symm, Or.inr hnot⟩
    · exact ⟨j, by rw [AList.lookup_insert_ne hkn, hj], replaces_refl j⟩

theorem provenanceInv_start {id : Nat} {label : StartLabel} (h : ProvenanceInv setup w tr)
    (hkeeps : KeepsCommit setup w (.start id label))
    (hstep : step setup w (.start id label) = some (w', t)) : ProvenanceInv setup w' (tr ++ t) := by
  obtain ⟨o, ho, rfl, rfl⟩ := step_start_iff.1 hstep
  have hs := StartPr.stepped_of_step ho
  have hcall := h.calls id
  -- the position of the call is a variable of its own for the case analysis on `hs`
  generalize hcalls : w.calls id = call at hs hcall
  cases hs with
  | bailed error =>
      exact h.of_quiet id (by simp [StartPr.bail, Provenance])
        (by simp [StartPr.bail, readyImage]) trivial
  | begun n huntracked => exact h.of_quiet id (by simp) (by simp) trivial
  | registryChecked n habsent =>
      exact h.of_quiet id (by simp [Provenance]) (by simp [readyImage]) trivial
  | commitReceived n answer commitHash c hcommit => exact h.of_quiet id (by simp) (by simp) trivial
  | buildsQueried n commitHash c =>
      apply h.of_quiet id (by simp) (by simp)
      cases hexists : w.shared.builds.existsWithCommit n c with
      | false => trivial
      | true => exact (h.builds.built hexists).mono
  | cached n commitHash c =>
      exact h.of_insert id (by simp [StartPr.deployCached, Provenance])
        (by simp [StartPr.deployCached, readyImage]) trivial ⟨rfl, Built.mono hcall⟩
        (hkeeps n commitHash c hcalls)
  | missed n commitHash c =>
      exact h.of_quiet id (by simp [Provenance]) (by simp [readyImage]) trivial
  | queued n commitHash c queueUrl answer now hqueued =>
      refine h.of_insert id (by simp [StartPr.trackBuild, Provenance])
        (by simp [StartPr.trackBuild, readyImage]) trivial ?_
        (hkeeps n commitHash c queueUrl hcalls hqueued)
      exact List.mem_append_right _ List.mem_cons_self

/-- A piece of the handler of PR `n`. -/
theorem ProvenanceInv.of_piece {n : UInt32} {i : PrInstance} {rest : List (UInt32 × PrInstance)}
    {o : Outcome} (h : ProvenanceInv setup w tr) (hn : n ∉ rest.map Prod.fst)
    (hrest : RestOk setup w.shared tr rest) (heff : InstanceEffect w.shared n o)
    (hdep : ∀ k, k ≠ n → o.shared.deployments.lookup (deploymentName k) =
      w.shared.deployments.lookup (deploymentName k))
    (hpiece : PieceOk setup tr n i o) :
    ProvenanceInv setup ⟨o.shared, w.calls, afterFlow n rest o.flow⟩ (tr ++ o.events) where
  justified := justified_append_iff.2 ⟨h.justified, hpiece.justified⟩
  builds := hpiece.builds
  calls := fun id => (h.calls id).mono
  tracked := by
    intro k j hj
    by_cases hk : k = n
    · subst hk
      exact (hpiece.state j hj).2
    · have hold : w.shared.instances.lookup k = some j := by
        rw [← heff.lookup_of_ne hk]
        exact hj
      exact (h.tracked k j hold).mono (Or.inr (hdep k hk))
  loop := by
    have hrest' : RestOk setup o.shared (tr ++ o.events) rest := by
      have hne : ∀ k ∈ rest.map Prod.fst, k ≠ n := by
        rintro k hk rfl
        exact hn hk
      apply hrest.mono
      · intro k hk
        exact hdep k (hne k hk)
      · intro k hk j hj
        exact ⟨j, (heff.lookup_of_ne (hne k hk)).trans hj, replaces_refl j⟩
    cases hflow : o.flow with
    | await pc => exact ⟨hn, hrest', hpiece.flow pc hflow⟩
    | done => exact hrest'
    | panicked => trivial

theorem provenanceInv_step {label : Label} (h : ProvenanceInv setup w tr)
    (hkeeps : KeepsCommit setup w label) (hstep : step setup w label = some (w', t)) :
    ProvenanceInv setup w' (tr ++ t) := by
  cases label with
  | start id label => exact provenanceInv_start h hkeeps hstep
  | tick snapshot =>
      obtain ⟨-, hperm, rfl, rfl⟩ := step_tick_iff.1 hstep
      rw [List.append_nil]
      refine ⟨h.justified, h.builds, h.calls, h.tracked, ?_, ?_⟩
      · exact (hperm.map Prod.fst).nodup_iff.2 (KeyedMap.nodup_map_fst_pairs _)
      · -- an entry of the snapshot is the tracked instance itself when it is taken
        intro k entry hmem
        have hentry := (KeyedMap.mem_pairs_iff _ k entry).1 (hperm.mem_iff.1 hmem)
        exact ⟨h.tracked k entry hentry, entry, hentry, replaces_refl entry⟩
  | advance now =>
      rcases step_advance_iff.1 hstep with ⟨-, rfl, rfl⟩ | ⟨n, entry, rest, hloop, rfl, rfl⟩
      · rw [List.append_nil]
        exact ⟨h.justified, h.builds, h.calls, h.tracked, trivial⟩
      · have hnext := h.loop
        rw [hloop] at hnext
        obtain ⟨hnodup, hentries⟩ := hnext
        rw [List.map_cons, List.nodup_cons] at hnodup
        obtain ⟨hentry, i, hi, hshort, hsame⟩ := hentries n entry List.mem_cons_self
        have hrest : RestOk setup w.shared tr rest :=
          ⟨hnodup.2, fun k e hmem => hentries k e (List.mem_cons_of_mem _ hmem)⟩
        have hdispatched := dispatched_dispatch setup w.shared n entry now
        have hdep := (dispatched_shared hdispatched).1
        exact h.of_piece hnodup.1 hrest (instanceEffect_of_dispatched hdispatched)
          (fun k _ => by rw [hdep])
          (pieceOk_of_dispatched hi (h.tracked n i hi) h.builds hdispatched hshort.symm hentry
            hsame)
  | resume answer =>
      obtain ⟨n, pc, rest, o, hloop, ho, rfl, rfl⟩ := step_resume_iff.1 hstep
      have hrunning := h.loop
      rw [hloop] at hrunning
      obtain ⟨hn, hrest, i, hi, hpc⟩ := hrunning
      have hres := resumed_of_resume ho
      exact h.of_piece hn hrest (instanceEffect_of_resumed hres)
        (clusterFrame_of_resumed hres).deployments
        (pieceOk_of_resumed hi (h.tracked n i hi) h.builds hres hpc)

end Runs

theorem provenanceInv_started (setup : Setup) (staticBackends : KeyedMap String BackendServer)
    (deployments : KeyedMap String String) (services : KeyedMap String (Option Int32)) :
    ProvenanceInv setup
      (started (Shared.startUp staticBackends PrBuilds.empty deployments services)) [] where
  justified := justified_nil
  builds := by
    intro row hrow
    cases hrow
  calls := fun _ => trivial
  tracked := by
    intro n i hi
    cases hi
  loop := trivial

/-- From an empty table, in every run in which no call changes the commit of a PR that the loop
holds, every row written has its provenance. -/
theorem provenance_of_keepsCommit (setup : Setup)
    (staticBackends : KeyedMap String BackendServer) (deployments : KeyedMap String String)
    (services : KeyedMap String (Option Int32)) (labels : List Label) (w : World)
    (tr : List Event)
    (hkeeps : (system setup).Meets (KeepsCommit setup)
      (started (Shared.startUp staticBackends PrBuilds.empty deployments services)) labels)
    (hrun : (system setup).exec
      (started (Shared.startUp staticBackends PrBuilds.empty deployments services)) labels =
        some (w, tr)) :
    Justified (Provenance setup) tr := by
  have h0 := provenanceInv_started setup staticBackends deployments services
  have hinv := System.exec_invariant (system setup)
    (fun s tr i s' t h hi hs => provenanceInv_step h hi hs) h0 hkeeps hrun
  exact hinv.justified

/-- Jenkins has built the commit of the entry, and the loop deploys and registers it. -/
def sampleBuilt (hash c : String) : List Label :=
  [.resume (.build (.ok ⟨some false, some "SUCCESS"⟩)), .advance ⟨0⟩,
    .tick [(7, ⟨7, hash, c, .deploying "pr-7-0123456"⟩)]] ++ sampleDeploy ++
    [.tick [(7, ⟨7, hash, c, .starting "steel-pr-7" "127.0.0.1" 30007 ⟨0⟩⟩)]] ++ sampleRegister ++
    [.resume (.persisted (.ok "2026-01-01 00:00:00"))]

/-- One call of PR 7 up to its row. -/
def buildAndPersist : List Label :=
  sampleChecks 0 7 "0123456789abcdef" ++ [sampleTrigger 0 "q/1/"] ++
    [.tick [(7, .newBuilding 7 "0123456789abcdef" "0123456" "q/1/" ⟨0⟩)], .advance ⟨0⟩,
      .resume (.queueItem (.ok (some "job/1/")))] ++ sampleBuilt "0123456789abcdef" "0123456"

/-- The row of PR 7 is written for the commit that was built and deployed. -/
theorem provenance_buildAndPersist :
    ∃ w tr, (system sampleSetup).exec sampleWorld buildAndPersist = some (w, tr) ∧
      .upserted 7 "0123456789abcdef" "0123456" "pr-7-0123456" "Ready" ∈ tr ∧
        Justified (Provenance sampleSetup) tr := by
  have hrow : ((system sampleSetup).exec sampleWorld buildAndPersist).map (fun p =>
      decide (.upserted 7 "0123456789abcdef" "0123456" "pr-7-0123456" "Ready" ∈ p.2)) =
        some true := by decide +kernel
  -- the only call inserts while the loop waits for its first tick
  have hkeeps : (system sampleSetup).Meets (KeepsCommit sampleSetup) sampleWorld
      buildAndPersist := by
    refine ⟨trivial, trivial, trivial, trivial, ?_, ?_, ?_⟩
    · exact fun _ _ _ _ hholds => hholds.elim
    · exact fun _ _ _ _ _ _ hholds => hholds.elim
    · refine System.meets_of_forall _ ?_ _
      simp [sampleBuilt, sampleDeploy, sampleRegister, KeepsCommit]
  cases hrun : (system sampleSetup).exec sampleWorld buildAndPersist with
  | none => simp [hrun] at hrow
  | some p =>
      rcases p with ⟨w, tr⟩
      simp only [hrun, Option.map_some, Option.some.injEq, decide_eq_true_eq] at hrow
      exact ⟨w, tr, rfl, hrow,
        provenance_of_keepsCommit sampleSetup ∅ ∅ ∅ buildAndPersist w tr hkeeps hrun⟩

/-- A second call of PR 7 with another commit inserts its instance while the loop asks for the
build of the first. -/
def mixedCommits : List Label :=
  [.start 0 (.call 7), .start 1 (.call 7)] ++ (sampleChecks 0 7 "0123456789abcdef").tail ++
    (sampleChecks 1 7 "fedcba9876543210").tail ++ [sampleTrigger 0 "q/1/"] ++
    [.tick [(7, .newBuilding 7 "0123456789abcdef" "0123456" "q/1/" ⟨0⟩)], .advance ⟨0⟩,
      .resume (.queueItem (.ok (some "job/1/"))), sampleTrigger 1 "q/2/"] ++
    sampleBuilt "fedcba9876543210" "fedcba9"

/-- The row of the second commit is written for the deployment of the first. -/
theorem mixed_commits_cached :
    ¬ ∀ (setup : Setup) (staticBackends : KeyedMap String BackendServer)
      (deployments : KeyedMap String String) (services : KeyedMap String (Option Int32))
      (labels : List Label) (w : World) (tr : List Event),
      (system setup).exec
          (started (Shared.startUp staticBackends PrBuilds.empty deployments services)) labels =
            some (w, tr) →
        Justified (Provenance setup) tr := by
  intro hall
  -- sixteen events precede the row, and the last deployment found ready is that of `0123456`
  have hevents : ((system sampleSetup).exec sampleWorld mixedCommits).map
      (fun p => (p.2.drop 16, lastOf (readyImage 7) (p.2.take 16))) = some
        ([.upserted 7 "fedcba9876543210" "fedcba9" "pr-7-fedcba9" "Ready",
          .broadcast "§a[Proxy] PR #7 is ready! Use §e/server pr-7§a to connect."],
          some (some "localhost:5000/steel/steel-server:pr-7-0123456")) := by decide +kernel
  cases hrun : (system sampleSetup).exec sampleWorld mixedCommits with
  | none => simp [hrun] at hevents
  | some p =>
      rcases p with ⟨w, tr⟩
      simp only [hrun, Option.map_some, Option.some.injEq, Prod.mk.injEq] at hevents
      obtain ⟨hdrop, hfound⟩ := hevents
      have hsplit := (List.take_append_drop 16 tr).symm
      rw [hdrop] at hsplit
      have hprov := hall sampleSetup ∅ ∅ ∅ mixedCommits w tr hrun _ _ _ hsplit
      have himage : FoundReady sampleSetup 7 "fedcba9" (tr.take 16) := hprov.2.2.1
      rw [FoundReady, hfound] at himage
      exact absurd himage (by decide +kernel)

end SteelProxy.Lifecycle
