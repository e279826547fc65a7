import Mathlib.Data.List.Nodup
import SteelProxy.Library.Transition

/-!
# A fair read-write lock

The guards that tasks hold of a read-write lock, and the requests that wait, in order: a request
is granted at the head of the queue only, so that readers do not pass a waiting writer. A task has
one place, as a holder or in the queue. In a system whose holders can always release and whose
grants are always possible, every task with a place comes to hold the lock (`RwLock.served`).
-/

set_option autoImplicit false

namespace SteelProxy.Library

universe u v w x

/-- What a task asks of the lock. -/
inductive Access where
  | read
  | write
  deriving DecidableEq, Repr

/-- The guards that are held: those of any number of readers, or that of one writer. -/
inductive Guards (τ : Type u) where
  | readers (tasks : List τ)
  | writer (task : τ)
  deriving DecidableEq, Repr

namespace Guards

variable {τ : Type u}

/-- The tasks that hold a guard. -/
def holders : Guards τ → List τ
  | .readers tasks => tasks
  | .writer task => [task]

/-- A request joins the guards that are held, if it may. -/
def enter : Guards τ → τ × Access → Option (Guards τ)
  | .readers tasks, (task, .read) => some (.readers (task :: tasks))
  | .readers [], (task, .write) => some (.writer task)
  | _, _ => none

/-- The guard of a task is dropped. -/
def drop [DecidableEq τ] (task : τ) : Guards τ → Guards τ
  | .readers tasks => .readers (tasks.erase task)
  | .writer other => if other = task then .readers [] else .writer other

theorem holders_enter {g g' : Guards τ} {request : τ × Access} (h : g.enter request = some g') :
    g'.holders = request.1 :: g.holders := by
  obtain ⟨task, access⟩ := request
  cases g with
  | readers tasks =>
      cases access with
      | read =>
          cases h
          rfl
      | write =>
          cases tasks with
          | nil =>
              cases h
              rfl
          | cons other tasks => cases h
  | writer other => cases access <;> cases h

theorem exists_enter {g : Guards τ} (h : g.holders = []) (request : τ × Access) :
    ∃ g', g.enter request = some g' := by
  obtain ⟨task, access⟩ := request
  cases g with
  | readers tasks =>
      cases h
      cases access with
      | read => exact ⟨_, rfl⟩
      | write => exact ⟨_, rfl⟩
  | writer other => cases h

theorem holders_drop [DecidableEq τ] (task : τ) (g : Guards τ) :
    (g.drop task).holders = g.holders.erase task := by
  cases g with
  | readers tasks => rfl
  | writer other =>
      by_cases h : other = task
      · simp [drop, holders, h]
      · simp [drop, holders, h]

end Guards

/-- A fair read-write lock: the guards, and the requests in order. No task has two places. -/
structure RwLock (τ : Type u) where
  guards : Guards τ
  queue : List (τ × Access)
  distinct : (guards.holders ++ queue.map Prod.fst).Nodup

namespace RwLock

variable {τ : Type u}

/-- The lock that no task holds or waits for. -/
def free : RwLock τ := ⟨.readers [], [], List.nodup_nil⟩

/-- The tasks with a place. -/
def tasks (l : RwLock τ) : List τ := l.guards.holders ++ l.queue.map Prod.fst

/-- The task holds a guard. -/
def Holds (l : RwLock τ) (t : τ) : Prop := t ∈ l.guards.holders

instance [DecidableEq τ] (l : RwLock τ) (t : τ) : Decidable (l.Holds t) :=
  inferInstanceAs (Decidable (t ∈ l.guards.holders))

theorem Holds.mem_tasks {l : RwLock τ} {t : τ} (h : l.Holds t) : t ∈ l.tasks :=
  List.mem_append_left _ h

/-- A task without a place asks for the lock. -/
def request [DecidableEq τ] (l : RwLock τ) (t : τ) (access : Access) : RwLock τ :=
  if h : t ∈ l.tasks then l
  else
    { guards := l.guards
      queue := l.queue ++ [(t, access)]
      distinct := by
        rw [List.map_append, ← List.append_assoc]
        exact List.nodup_append_comm.1 (List.nodup_cons.2 ⟨h, l.distinct⟩) }

/-- The head of the queue is granted, if it may be. -/
def grant (l : RwLock τ) : Option (RwLock τ) :=
  match hqueue : l.queue with
  | [] => none
  | next :: rest =>
      match henter : l.guards.enter next with
      | none => none
      | some guards =>
          some
            { guards := guards
              queue := rest
              distinct := by
                have hdistinct := l.distinct
                rw [hqueue, List.map_cons, List.nodup_middle] at hdistinct
                rw [Guards.holders_enter henter]
                exact hdistinct }

/-- A holder drops its guard. -/
def release [DecidableEq τ] (l : RwLock τ) (t : τ) : RwLock τ where
  guards := l.guards.drop t
  queue := l.queue
  distinct := by
    rw [Guards.holders_drop]
    exact l.distinct.sublist (List.Sublist.append_right List.erase_sublist _)

section Places

variable {l l' : RwLock τ} {t u : τ}

theorem grant_eq_some (h : l.grant = some l') :
    ∃ next rest, l.queue = next :: rest ∧ l'.queue = rest ∧
      l'.guards.holders = next.1 :: l.guards.holders := by
  rw [grant] at h
  split at h
  · cases h
  · rename_i next rest hqueue
    split at h
    · cases h
    · rename_i guards henter
      cases h
      exact ⟨next, rest, hqueue, rfl, Guards.holders_enter henter⟩

theorem mem_tasks_grant (h : l.grant = some l') : u ∈ l'.tasks ↔ u ∈ l.tasks := by
  obtain ⟨next, rest, hqueue, hrest, hholders⟩ := grant_eq_some h
  simp only [tasks, hqueue, hrest, hholders, List.map_cons, List.mem_append, List.mem_cons]
  tauto

theorem exists_grant (hholders : l.guards.holders = []) (hqueue : l.queue ≠ []) :
    ∃ l', l.grant = some l' := by
  rw [grant]
  split
  · rename_i hnil
    exact absurd hnil hqueue
  · rename_i next rest hcons
    obtain ⟨guards, henter⟩ := Guards.exists_enter hholders next
    split
    · rename_i hnone
      rw [henter] at hnone
      cases hnone
    · exact ⟨_, rfl⟩

variable [DecidableEq τ]

theorem mem_tasks_request {access : Access} :
    u ∈ (l.request t access).tasks ↔ u = t ∨ u ∈ l.tasks := by
  rw [request]
  by_cases h : t ∈ l.tasks
  · rw [dif_pos h]
    refine ⟨Or.inr, ?_⟩
    rintro (rfl | hu)
    · exact h
    · exact hu
  · rw [dif_neg h]
    simp only [tasks, List.map_append, List.map_cons, List.map_nil, List.mem_append,
      List.mem_singleton]
    rw [← or_assoc, or_comm]

theorem mem_tasks_release (h : l.Holds t) : u ∈ (l.release t).tasks ↔ u ≠ t ∧ u ∈ l.tasks := by
  have herase : (l.release t).tasks = l.tasks.erase t := by
    rw [tasks, tasks, release, Guards.holders_drop, List.erase_append_left _ h]
  rw [herase]
  exact List.Nodup.mem_erase_iff l.distinct

theorem Holds.request (h : l.Holds u) (access : Access) : (l.request t access).Holds u := by
  rw [RwLock.request]
  split
  · exact h
  · exact h

omit [DecidableEq τ] in
theorem Holds.grant (h : l.Holds u) (hgrant : l.grant = some l') : l'.Holds u := by
  obtain ⟨next, rest, -, -, hholders⟩ := grant_eq_some hgrant
  rw [Holds, hholders]
  exact List.mem_cons_of_mem _ h

theorem Holds.release (h : l.Holds u) (hne : u ≠ t) : (l.release t).Holds u := by
  have hdropped : (l.release t).guards.holders = l.guards.holders.erase t :=
    Guards.holders_drop t l.guards
  rw [Holds, hdropped]
  exact (List.mem_erase_of_ne hne).2 h

end Places

/-! ## Accesses -/

/-- Every guard is for the access that its task asks for. -/
structure GuardsFit (access : τ → Access) (g : Guards τ) : Prop where
  readers : ∀ tasks, g = .readers tasks → ∀ t ∈ tasks, access t = .read
  writer : ∀ t, g = .writer t → access t = .write

/-- Every place at the lock is for the access that its task asks for. -/
structure Fits (access : τ → Access) (l : RwLock τ) : Prop where
  requests : ∀ r ∈ l.queue, r.2 = access r.1
  guards : GuardsFit access l.guards

section Fits

variable {access : τ → Access} {g g' : Guards τ} {l l' : RwLock τ} {t : τ}

theorem GuardsFit.enter {r : τ × Access} (h : GuardsFit access g) (henter : g.enter r = some g')
    (hr : r.2 = access r.1) : GuardsFit access g' := by
  obtain ⟨task, kind⟩ := r
  cases g with
  | writer other => cases kind <;> cases henter
  | readers tasks =>
      cases kind with
      | read =>
          -- a further reader
          cases henter
          refine ⟨?_, fun t ht => by cases ht⟩
          rintro _ ⟨⟩ t ht
          rcases List.mem_cons.1 ht with rfl | ht
          · exact hr.symm
          · exact h.readers tasks rfl t ht
      | write =>
          cases tasks with
          | cons other tasks => cases henter
          | nil =>
              cases henter
              refine ⟨fun tasks ht => (by cases ht), ?_⟩
              rintro _ ⟨⟩
              exact hr.symm

theorem GuardsFit.drop [DecidableEq τ] (h : GuardsFit access g) (t : τ) :
    GuardsFit access (g.drop t) := by
  cases g with
  | readers others =>
      refine ⟨?_, fun u hu => by cases hu⟩
      rintro _ ⟨⟩ u hu
      exact h.readers others rfl u (List.mem_of_mem_erase hu)
  | writer other =>
      by_cases hother : other = t
      · rw [Guards.drop, if_pos hother]
        refine ⟨?_, fun u hu => by cases hu⟩
        rintro _ ⟨⟩ u hu
        cases hu
      · rw [Guards.drop, if_neg hother]
        exact h

theorem fits_free (access : τ → Access) : Fits access (free : RwLock τ) := by
  refine ⟨?_, ?_, fun u hu => by cases hu⟩
  · intro r hr
    cases hr
  · rintro _ ⟨⟩ u hu
    cases hu

theorem Fits.request [DecidableEq τ] (h : l.Fits access) (t : τ) :
    (l.request t (access t)).Fits access := by
  rw [RwLock.request]
  by_cases ht : t ∈ l.tasks
  · rw [dif_pos ht]
    exact h
  · rw [dif_neg ht]
    refine ⟨?_, h.guards⟩
    intro r hr
    rcases List.mem_append.1 hr with hr | hr
    · exact h.requests r hr
    · rw [List.mem_singleton.1 hr]

theorem Fits.grant (h : l.Fits access) (hgrant : l.grant = some l') : l'.Fits access := by
  rw [RwLock.grant] at hgrant
  split at hgrant
  · cases hgrant
  · rename_i next rest hqueue
    split at hgrant
    · cases hgrant
    · rename_i guards henter
      cases hgrant
      have hnext := h.requests next (by rw [hqueue]; exact List.mem_cons_self)
      exact ⟨fun r hr => h.requests r (by rw [hqueue]; exact List.mem_cons_of_mem _ hr),
        h.guards.enter henter hnext⟩

theorem Fits.release [DecidableEq τ] (h : l.Fits access) (t : τ) :
    (l.release t).Fits access :=
  ⟨h.requests, h.guards.drop t⟩

/-- A holder that writes holds the only guard. -/
theorem Fits.guards_eq_writer (h : l.Fits access) (hholds : l.Holds t)
    (hwrites : access t = .write) : l.guards = .writer t := by
  cases hguards : l.guards with
  | readers tasks =>
      have ht : t ∈ tasks := by simpa [Holds, hguards, Guards.holders] using hholds
      rw [h.guards.readers tasks hguards t ht] at hwrites
      cases hwrites
  | writer other =>
      have ht : t = other := by simpa [Holds, hguards, Guards.holders] using hholds
      rw [ht]

end Fits

/-! ## Service -/

open Transition

variable {σ : Type v} {ι : Type w} {ε : Type x}

/-- The steps to serve: each grant takes a request out of the queue and adds a holder. -/
def toServe (l : RwLock τ) : Nat := 2 * l.queue.length + l.guards.holders.length

/-- If every holder can release its guard and every grant can be made by steps of some kind, then
by steps of that kind every task with a place comes to hold the lock. -/
theorem served [DecidableEq τ] (S : System σ ι ε) (lock : σ → RwLock τ) (Inv : σ → Prop)
    (Kind : ι → Prop)
    (hrelease : ∀ s t, Inv s → (lock s).Holds t → ∃ i s' tr, Kind i ∧
      S.step s i = some (s', tr) ∧ Inv s' ∧ lock s' = (lock s).release t)
    (hgrant : ∀ s l', Inv s → (lock s).grant = some l' → ∃ i s' tr, Kind i ∧
      S.step s i = some (s', tr) ∧ Inv s' ∧ lock s' = l')
    {s : σ} {t : τ} (h : Inv s) (ht : t ∈ (lock s).tasks) :
    ∃ is s' tr, (∀ i ∈ is, Kind i) ∧ S.exec s is = some (s', tr) ∧ (lock s').Holds t := by
  induction hn : (lock s).toServe using Nat.strongRecOn generalizing s with
  | ind n ih =>
      -- a step that leaves fewer steps to serve
      have hnext : ∀ i s' tr, Kind i → S.step s i = some (s', tr) → Inv s' →
          t ∈ (lock s').tasks → (lock s').toServe < n →
            ∃ is s' tr, (∀ i ∈ is, Kind i) ∧ S.exec s is = some (s', tr) ∧ (lock s').Holds t := by
        intro i s' tr hkind hstep hinv htasks hless
        obtain ⟨is, s'', tr', his, hrun, hholds⟩ := ih _ hless hinv htasks rfl
        refine ⟨i :: is, s'', tr ++ tr', ?_, ?_, hholds⟩
        · intro j hj
          rcases List.mem_cons.1 hj with rfl | hj
          · exact hkind
          · exact his j hj
        · exact (S.exec_cons_iff).2 ⟨s', tr, tr', hstep, hrun, rfl⟩
      by_cases hholds : (lock s).Holds t
      · exact ⟨[], s, [], by simp, rfl, hholds⟩
      cases hholders : (lock s).guards.holders with
      | nil =>
          have hqueue : (lock s).queue ≠ [] := by
            intro hnil
            rw [tasks, hholders, hnil] at ht
            cases ht
          obtain ⟨l', hl'⟩ := exists_grant hholders hqueue
          obtain ⟨i, s', tr, hkind, hstep, hinv, rfl⟩ := hgrant s l' h hl'
          refine hnext i s' tr hkind hstep hinv ((mem_tasks_grant hl').2 ht) ?_
          obtain ⟨next, rest, hcons, hrest, hadded⟩ := grant_eq_some hl'
          rw [← hn, toServe, toServe, hcons, hrest, hadded, List.length_cons, List.length_cons]
          omega
      | cons holder holders =>
          have hfirst : (lock s).Holds holder := by simp [Holds, hholders]
          have hne : t ≠ holder := by
            rintro rfl
            exact hholds hfirst
          obtain ⟨i, s', tr, hkind, hstep, hinv, hlock⟩ := hrelease s holder h hfirst
          refine hnext i s' tr hkind hstep hinv ?_ ?_
          · rw [hlock]
            exact (mem_tasks_release hfirst).2 ⟨hne, ht⟩
          · have hserve : ((lock s).release holder).toServe =
                2 * (lock s).queue.length + ((lock s).guards.drop holder).holders.length := rfl
            rw [← hn, hlock, hserve, toServe, Guards.holders_drop, hholders, List.erase_cons_head,
              List.length_cons]
            omega

end RwLock

end SteelProxy.Library
