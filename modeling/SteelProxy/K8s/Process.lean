import SteelProxy.K8s.Lifecycle
import SteelProxy.K8s.Recovery

/-!
# The process from its start

`main` awaits `recover_from_db` before it spawns the lifecycle loop and before it accepts the
connections from which `start_pr` is called. A run of the process is therefore a recovery, a step
for each row with answers of its own, followed by a run of the loop and the calls.
-/

set_option autoImplicit false

namespace SteelProxy

open SteelProxy.Library SteelProxy.Library.Transition

/-- Where `main` stands: the rows are to be loaded, `recover_from_db` is in its loop over them,
the lifecycle loop is spawned, or a panic of the recovery has ended the process. -/
inductive Process where
  | loading (sh : Shared)
  | recovering (r : Recovery) (rest : List PrBuild)
  | running (w : World)
  | panicked

/-- One step: the rows are loaded or that fails, the next row is recovered, the loop is spawned, or
the loop or a call goes on. -/
inductive ProcessLabel where
  | load (error : Option String)
  | recover (answers : RowAnswers)
  | spawn
  | step (label : Label)

namespace Process

/-- `main` once the rows are loaded; an error is logged and nothing is recovered. -/
def loaded (sh : Shared) : Option String → Process
  | some _ => .running (Lifecycle.started sh)
  | none => .recovering ⟨sh, 0⟩ sh.builds.getActiveBuilds

/-- `recover_from_db` after a row. -/
def recovered (rest : List PrBuild) : Option Recovery → Process
  | some r => .recovering r rest
  | none => .panicked

/-- One step of the process. -/
def step (setup : Setup) (p : Process) (label : ProcessLabel) : Option (Process × List Event) :=
  match label with
  | .load error =>
      match p with
      | .loading sh => some (loaded sh error, [])
      | _ => none
  | .recover answers =>
      match p with
      | .recovering r (build :: rest) =>
          some (recovered rest (Recovery.recoverBuild setup.kubernetes answers r build), [])
      | _ => none
  | .spawn =>
      match p with
      | .recovering r [] => some (.running (Lifecycle.started r.shared), [])
      | _ => none
  | .step label =>
      match p with
      | .running w => (Lifecycle.step setup w label).map fun q => (.running q.1, q.2)
      | _ => none

/-- The process as a transition system. -/
def system (setup : Setup) : System Process ProcessLabel Event := ⟨step setup⟩

/-- `Stepped setup p label p'`: the process goes with `label` from `p` to `p'`. -/
inductive Stepped (setup : Setup) : Process → ProcessLabel → Process → Prop where
  | loaded (sh : Shared) (error : Option String) :
      Stepped setup (.loading sh) (.load error) (loaded sh error)
  | recovered (r : Recovery) (build : PrBuild) (rest : List PrBuild) (answers : RowAnswers) :
      Stepped setup (.recovering r (build :: rest)) (.recover answers)
        (recovered rest (Recovery.recoverBuild setup.kubernetes answers r build))
  | spawned (r : Recovery) :
      Stepped setup (.recovering r []) .spawn (.running (Lifecycle.started r.shared))
  | stepped (w w' : World) (label : Label) (t : List Event)
      (hstep : Lifecycle.step setup w label = some (w', t)) :
      Stepped setup (.running w) (.step label) (.running w')

/-- `Process.step` does nothing that `Stepped` does not list. -/
theorem stepped_of_step {setup : Setup} {p p' : Process} {label : ProcessLabel} {t : List Event}
    (h : step setup p label = some (p', t)) : Stepped setup p label p' := by
  cases label with
  | load error =>
      cases p with
      | loading sh => cases h; exact .loaded sh error
      | _ => cases h
  | recover answers =>
      cases p with
      | recovering r rows =>
          cases rows with
          | nil => cases h
          | cons build rest => cases h; exact .recovered r build rest answers
      | _ => cases h
  | spawn =>
      cases p with
      | recovering r rows =>
          cases rows with
          | nil => cases h; exact .spawned r
          | cons build rest => cases h
      | _ => cases h
  | step label =>
      cases p with
      | running w =>
          simp only [step, Option.map_eq_some_iff, Prod.exists, Prod.mk.injEq] at h
          obtain ⟨w', t', hstep, rfl, rfl⟩ := h
          exact .stepped w w' label t' hstep
      | _ => cases h

/-! ## The recovery of a run -/

theorem exec_recovering {setup : Setup} {answers : PrBuild → RowAnswers} {builds : List PrBuild}
    {r r' : Recovery} {t : List Empty} {labels : List ProcessLabel}
    (h : (Recovery.system setup.kubernetes answers).exec r builds = some (r', t)) :
    (system setup).exec (.recovering r builds)
        (builds.map (fun build => .recover (answers build)) ++ labels) =
      (system setup).exec (.recovering r' []) labels := by
  induction builds generalizing r t with
  | nil =>
      simp only [System.exec_nil, Option.some.injEq, Prod.mk.injEq] at h
      obtain ⟨rfl, -⟩ := h
      rfl
  | cons build builds ih =>
      obtain ⟨m, t₁, t₂, hstep, hrest, -⟩ := System.exec_cons_iff _ |>.1 h
      have hrow := (Recovery.step_eq_some_iff.1 hstep).1
      have hfirst : (system setup).step (.recovering r (build :: builds))
          (.recover (answers build)) = some (.recovering m builds, []) := by
        show some (recovered builds
          (Recovery.recoverBuild setup.kubernetes (answers build) r build), []) = _
        rw [hrow]
        rfl
      rw [List.map_cons, List.cons_append, System.exec_cons_of_silent _ hfirst, ih hrest]

/-- The labels of a call of `recover_from_db` on the rows `builds`. -/
def recoveryLabels (loadError : Option String) (answers : PrBuild → RowAnswers)
    (builds : List PrBuild) : List ProcessLabel :=
  match loadError with
  | some error => [.load (some error)]
  | none => .load none :: (builds.map (fun build => .recover (answers build)) ++ [.spawn])

/-- A returning call of `recover_from_db` is a run of the process up to the spawn of the loop, on
the stores that the call leaves. -/
theorem exec_recoveryLabels {setup : Setup} {loadError : Option String}
    {answers : PrBuild → RowAnswers} {sh sh' : Shared} {result : Except String Nat}
    (h : Recovery.recoverFromDb setup.kubernetes loadError answers sh = some (sh', result)) :
    (system setup).exec (.loading sh)
        (recoveryLabels loadError answers sh.builds.getActiveBuilds) =
      some (.running (Lifecycle.started sh'), []) := by
  cases loadError with
  | some error =>
      simp only [Recovery.recoverFromDb, Option.some.injEq, Prod.mk.injEq] at h
      obtain ⟨rfl, -⟩ := h
      rfl
  | none =>
      simp only [Recovery.recoverFromDb, Option.map_eq_some_iff, Prod.mk.injEq] at h
      obtain ⟨⟨r, t⟩, hrun, rfl, -⟩ := h
      have hload : (system setup).step (.loading sh) (.load none) =
          some (.recovering ⟨sh, 0⟩ sh.builds.getActiveBuilds, []) := rfl
      rw [recoveryLabels, System.exec_cons_of_silent _ hload, exec_recovering hrun]
      rfl

end Process

end SteelProxy
