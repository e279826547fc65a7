import SteelProxy.K8s.Coherence
import SteelProxy.K8s.Process

/-!
# Restarts

The process can end at every `await`, by a crash or a panic of `main`, and is then started again
on what it has left behind: the `pr_builds` table and the cluster. The tracked instances, the
registry, the `start_pr` calls and the loop are lost. A request that is under way when the process
ends may still take effect. Runs across restarts are runs of `Restarts.system`; a property of all
of them is proved phase by phase (`exec_phases`).
-/

set_option autoImplicit false

namespace SteelProxy

open SteelProxy.Library SteelProxy.Library.Transition

/-- What outlives the process: the `pr_builds` table and the cluster. -/
structure Durable where
  builds : PrBuilds
  deployments : KeyedMap String String
  services : KeyedMap String (Option Int32)

/-- What the stores leave behind. -/
def Shared.durable (sh : Shared) : Durable := ⟨sh.builds, sh.deployments, sh.services⟩

/-- The stores of a process that starts on what is left. -/
def Durable.startUp (d : Durable) (staticBackends : KeyedMap String BackendServer) : Shared :=
  Shared.startUp staticBackends d.builds d.deployments d.services

/-- The stores of a process that has not panicked. -/
def Process.shared : Process → Option Shared
  | .loading sh => some sh
  | .recovering r _ => some r.shared
  | .running w => some w.shared
  | .panicked => none

/-- The process, and what it would leave behind. -/
structure Restarts where
  process : Process
  durable : Durable

/-- One step: the process goes on, or it ends and is started again. `landed` is the answer of a
request that takes effect although the process does not see it. -/
inductive RestartLabel where
  | process (label : ProcessLabel)
  | restart (landed : Option Answer)

namespace Restarts

/-- The process is started on what is left. -/
def start (staticBackends : KeyedMap String BackendServer) (d : Durable) : Restarts :=
  ⟨.loading (d.startUp staticBackends), d⟩

/-- What is left once the request under way has taken effect. -/
def landedOn (setup : Setup) (answer : Answer) : Process → Option Durable
  | .running w =>
      (Lifecycle.step setup w (.resume answer)).map fun result => result.1.shared.durable
  | _ => none

/-- One step. -/
def step (setup : Setup) (staticBackends : KeyedMap String BackendServer) (s : Restarts) :
    RestartLabel → Option (Restarts × List Event)
  | .process label =>
      (Process.step setup s.process label).map fun result =>
        (⟨result.1, (result.1.shared.map Shared.durable).getD s.durable⟩, result.2)
  | .restart none => some (start staticBackends s.durable, [])
  | .restart (some answer) =>
      (landedOn setup answer s.process).map fun d => (start staticBackends d, [])

/-- The process with its restarts. -/
def system (setup : Setup) (staticBackends : KeyedMap String BackendServer) :
    System Restarts RestartLabel Event :=
  ⟨step setup staticBackends⟩

/-- A condition on the steps of the loop and the calls, and one on the rows of a recovery, as a
condition on a step of the process with its restarts. A request that lands is a step of the loop
that the process does not see. -/
def Condition (steps : World → Label → Prop) (rows : Recovery → PrBuild → RowAnswers → Prop)
    (s : Restarts) : RestartLabel → Prop
  | .process (.step label) => ∀ w, s.process = .running w → steps w label
  | .process (.recover answers) =>
      ∀ r build rest, s.process = .recovering r (build :: rest) → rows r build answers
  | .restart (some answer) => ∀ w, s.process = .running w → steps w (.resume answer)
  | _ => True

/-- A property of the rows and the cluster that are left, with one of the stores while the process
recovers, and one of the loop with its calls. -/
structure Phases (left : Durable → Prop) (recovers : Shared → Prop) (runs : World → Prop)
    (s : Restarts) : Prop where
  durable : left s.durable
  loading : ∀ sh, s.process = .loading sh → recovers sh
  recovering : ∀ r rest, s.process = .recovering r rest → recovers r.shared
  running : ∀ w, s.process = .running w → runs w

section Phases

variable {setup : Setup} {staticBackends : KeyedMap String BackendServer}
  {left : Durable → Prop} {recovers : Shared → Prop} {runs : World → Prop}
  {steps : World → Label → Prop} {rows : Recovery → PrBuild → RowAnswers → Prop}

theorem phases_start {d : Durable} (hleft : left d)
    (hstart : recovers (d.startUp staticBackends)) :
    Phases left recovers runs (start staticBackends d) where
  durable := hleft
  loading := by
    intro sh h
    cases h
    exact hstart
  recovering := by
    intro r rest h
    cases h
  running := by
    intro w h
    cases h

/-- A process in any of its phases. -/
theorem phases_process {p : Process} {d : Durable} (hd : p = .panicked → left d)
    (hrecovers : ∀ sh, recovers sh → left sh.durable)
    (hruns : ∀ w, runs w → left w.shared.durable)
    (hloading : ∀ sh, p = .loading sh → recovers sh)
    (hrecovering : ∀ r rest, p = .recovering r rest → recovers r.shared)
    (hrunning : ∀ w, p = .running w → runs w) :
    Phases left recovers runs ⟨p, (p.shared.map Shared.durable).getD d⟩ where
  durable := by
    cases p with
    | loading sh => exact hrecovers sh (hloading sh rfl)
    | recovering r rest => exact hrecovers r.shared (hrecovering r rest rfl)
    | running w => exact hruns w (hrunning w rfl)
    | panicked => exact hd rfl
  loading := hloading
  recovering := hrecovering
  running := hrunning

/-- The rule of runs across restarts: what is left is enough to start on, every row of a recovery
keeps what recovers, the loop is spawned on it, every step keeps what runs, and both leave behind
what has to be left. -/
theorem exec_phases
    (hstart : ∀ d, left d → recovers (d.startUp staticBackends))
    (hrecovers : ∀ sh, recovers sh → left sh.durable)
    (hruns : ∀ w, runs w → left w.shared.durable)
    (hrow : ∀ r build answers r', recovers r.shared → rows r build answers →
      Recovery.recoverBuild setup.kubernetes answers r build = some r' → recovers r'.shared)
    (hspawn : ∀ sh, recovers sh → runs (Lifecycle.started sh))
    (hstep : ∀ w label w' t, runs w → steps w label →
      Lifecycle.step setup w label = some (w', t) → runs w')
    {d : Durable} {labels : List RestartLabel} {s : Restarts} {tr : List Event} (hleft : left d)
    (hmeets : (system setup staticBackends).Meets (Condition steps rows)
      (start staticBackends d) labels)
    (hrun : (system setup staticBackends).exec (start staticBackends d) labels = some (s, tr)) :
    Phases left recovers runs s := by
  refine (system setup staticBackends).exec_state_invariant (Phases left recovers runs) ?_
    (phases_start hleft (hstart d hleft)) hmeets hrun
  intro s label s' t h hcondition hs
  cases label with
  | process label =>
      obtain ⟨⟨p', t'⟩, hp, heq⟩ := Option.map_eq_some_iff.1 hs
      cases heq
      have hstepped := Process.stepped_of_step hp
      obtain ⟨p, durable⟩ := s
      cases hstepped with
      | loaded sh error =>
          have hsh := h.loading sh rfl
          cases error with
          -- without the rows the loop is spawned on what the start-up left
          | some e =>
              exact phases_process (by rintro ⟨⟩) hrecovers hruns (by rintro _ ⟨⟩)
                (by rintro _ _ ⟨⟩) (by rintro _ ⟨⟩; exact hspawn sh hsh)
          | none =>
              exact phases_process (by rintro ⟨⟩) hrecovers hruns (by rintro _ ⟨⟩)
                (by rintro _ _ ⟨⟩; exact hsh) (by rintro _ ⟨⟩)
      | recovered r build rest answers =>
          have hr := h.recovering r _ rfl
          have hrows := hcondition r build rest rfl
          cases hrecover : Recovery.recoverBuild setup.kubernetes answers r build with
          -- the shutdown time of the row cannot be represented: the process ends
          | none =>
              exact phases_process (fun _ => h.durable) hrecovers hruns (by rintro _ ⟨⟩)
                (by rintro _ _ ⟨⟩) (by rintro _ ⟨⟩)
          | some r' =>
              have hr' := hrow r build answers r' hr hrows hrecover
              exact phases_process (by rintro ⟨⟩) hrecovers hruns (by rintro _ ⟨⟩)
                (by rintro _ _ ⟨⟩; exact hr') (by rintro _ ⟨⟩)
      | spawned r =>
          have hr := h.recovering r [] rfl
          exact phases_process (by rintro ⟨⟩) hrecovers hruns (by rintro _ ⟨⟩)
            (by rintro _ _ ⟨⟩) (by rintro _ ⟨⟩; exact hspawn r.shared hr)
      | stepped w w' label t hw =>
          have hw' := hstep w label w' t (h.running w rfl) (hcondition w rfl) hw
          exact phases_process (by rintro ⟨⟩) hrecovers hruns (by rintro _ ⟨⟩)
            (by rintro _ _ ⟨⟩) (by rintro _ ⟨⟩; exact hw')
  | restart landed =>
      cases landed with
      -- no request was under way, or its effect did not happen
      | none =>
          cases hs
          exact phases_start h.durable (hstart _ h.durable)
      | some answer =>
          obtain ⟨d', hd', heq⟩ := Option.map_eq_some_iff.1 hs
          cases heq
          obtain ⟨p, durable⟩ := s
          cases p with
          | running w =>
              -- the effect of the request is that of the step that the process does not see
              obtain ⟨⟨w', t'⟩, hw, rfl⟩ := Option.map_eq_some_iff.1 hd'
              have hw' := hstep w _ w' t' (h.running w rfl) (hcondition w rfl) hw
              exact phases_start (hruns w' hw') (hstart _ (hruns w' hw'))
          | _ => cases hd'

end Phases

end Restarts

end SteelProxy
