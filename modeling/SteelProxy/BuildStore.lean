import SteelProxy.Library.PerKey
import SteelProxy.Database

/-!
# The build store as a map keyed by PR

What the queries of `db/models.rs` compute after any sequence of statements, against a map from PR
numbers to stored builds. The map folds the statements of one PR (`storedAfter`); that the queries
answer for it (`StoreAgrees`) rests on the UNIQUE constraint, which makes a PR select at most one
row.
-/

set_option autoImplicit false

namespace SteelProxy

open SteelProxy.Library

/-- What a row says about a build, apart from the row's id and times. -/
structure StoredBuild where
  commitHash : String
  commitHashShort : String
  imageTag : String
  state : String
  stateData : Option String
  deriving DecidableEq, Repr

/-- The build of a row. -/
def PrBuild.stored (row : PrBuild) : StoredBuild :=
  ⟨row.commitHash, row.commitHashShort, row.imageTag, row.state, row.stateData⟩

/-- A statement that changes the table; `now` is `datetime('now')` when it is executed. -/
inductive BuildStatement where
  | upsert (n : UInt32) (build : StoredBuild) (now : String)
  | updateState (n : UInt32) (state : String) (stateData : Option String) (now : String)
  | delete (n : UInt32)
  deriving DecidableEq, Repr

namespace BuildStatement

/-- The PR of a statement. -/
def pr : BuildStatement → UInt32
  | .upsert n _ _ => n
  | .updateState n _ _ _ => n
  | .delete n => n

/-- The table after a statement. -/
def execute (t : PrBuilds) : BuildStatement → PrBuilds
  | .upsert n build now =>
      t.upsert n build.commitHash build.commitHashShort build.imageTag build.state build.stateData
        now
  | .updateState n state stateData now => t.updateState n state stateData now
  | .delete n => t.delete n

/-- What a statement makes of the build stored for its PR. -/
def overlay (stored : Option StoredBuild) : BuildStatement → Option StoredBuild
  | .upsert _ build _ => some build
  | .updateState _ state stateData _ =>
      stored.map fun build => { build with state := state, stateData := stateData }
  | .delete _ => none

/-- The table after a sequence of statements. -/
def executeAll (statements : List BuildStatement) : PrBuilds :=
  statements.foldl execute PrBuilds.empty

/-- The build stored for a PR after a sequence of statements: the last upsert since the last
delete, overlaid by the state updates after it. -/
def storedAfter (statements : List BuildStatement) (n : UInt32) : Option StoredBuild :=
  PerKey.onKey pr overlay n none statements

end BuildStatement

/-- A state that `get_active_builds` leaves out. -/
def StoredBuild.inactive (build : StoredBuild) : Bool :=
  build.state = "Failed" || build.state = "ShuttingDown"

/-- The queries on the table `t` answer for the map `stored`. -/
structure StoreAgrees (t : PrBuilds) (stored : UInt32 → Option StoredBuild) : Prop where
  atMostOne : ∀ n, (t.rows.filter fun row => row.prNumber = prNumberAsI64 n).length ≤ 1
  getByPr : ∀ n, (t.getByPr n).map PrBuild.stored = stored n
  numbered : ∀ row ∈ t.rows, t.getByPr (prNumberAsU32 row.prNumber) = some row
  lastReady : ∀ n c, t.getLastReadyCommit n = some c ↔ t.existsWithCommit n c = true
  active : ∀ row, row ∈ t.getActiveBuilds ↔ row ∈ t.rows ∧ row.stored.inactive = false
  activeOnce : (t.getActiveBuilds.map fun row => prNumberAsU32 row.prNumber).Nodup

namespace PrBuilds

variable {t : PrBuilds} {n k : UInt32} {row : PrBuild}

/-! ## Queries that select one row -/

theorem getByPr_eq_some_iff :
    t.getByPr n = some row ↔ row ∈ t.rows ∧ row.prNumber = prNumberAsI64 n :=
  KeyedRows.row_eq_some_iff t.unique

/-- A PR selects the row stored for it. -/
theorem filter_prNumber (t : PrBuilds) (n : UInt32) :
    (t.rows.filter fun row => row.prNumber = prNumberAsI64 n) = (t.getByPr n).toList :=
  KeyedRows.filter_key_eq t.unique (prNumberAsI64 n)

theorem existsWithCommit_iff_getByPr (c : String) :
    t.existsWithCommit n c = true ↔
      ∃ row, t.getByPr n = some row ∧ row.commitHashShort = c ∧ row.state = "Ready" := by
  rw [existsWithCommit_iff]
  constructor
  · rintro ⟨row, hrow, hn, hc, hready⟩
    exact ⟨row, getByPr_eq_some_iff.2 ⟨hrow, hn⟩, hc, hready⟩
  · rintro ⟨row, hrow, hc, hready⟩
    obtain ⟨hmem, hn⟩ := getByPr_eq_some_iff.1 hrow
    exact ⟨row, hmem, hn, hc, hready⟩

/-- The order of `get_last_ready_commit` chooses among at most one row. -/
theorem getLastReadyCommit_eq (t : PrBuilds) (n : UInt32) :
    t.getLastReadyCommit n =
      ((t.getByPr n).filter fun row => row.state = "Ready").map PrBuild.commitHashShort := by
  have hselect : (t.rows.filter fun row => row.prNumber = prNumberAsI64 n ∧ row.state = "Ready") =
      (t.getByPr n).toList.filter fun row => row.state = "Ready" := by
    rw [← filter_prNumber, List.filter_filter]
    congr 1
    funext row
    rw [Bool.decide_and, Bool.and_comm]
  rw [getLastReadyCommit, hselect]
  cases t.getByPr n with
  | none => simp
  | some row =>
      by_cases hready : row.state = "Ready"
      · simp [hready, Option.filter]
      · simp [hready, Option.filter]

theorem getLastReadyCommit_iff (c : String) :
    t.getLastReadyCommit n = some c ↔ t.existsWithCommit n c = true := by
  rw [getLastReadyCommit_eq, existsWithCommit_iff_getByPr]
  simp only [Option.map_eq_some_iff, Option.filter_eq_some_iff, decide_eq_true_eq]
  constructor
  · rintro ⟨row, ⟨hrow, hready⟩, hc⟩
    exact ⟨row, hrow, hc, hready⟩
  · rintro ⟨row, hrow, hc, hready⟩
    exact ⟨row, ⟨hrow, hready⟩, hc⟩

/-! ## `get_by_pr` after a statement -/

theorem getByPr_updateState (state : String) (stateData : Option String) (now : String) :
    (t.updateState n state stateData now).getByPr k =
      (t.getByPr k).map (updateStateRow n state stateData now) :=
  KeyedRows.row_map (updateStateRow_prNumber n state stateData now)

theorem getByPr_delete : (t.delete n).getByPr k = if k = n then none else t.getByPr k := by
  have hrow := @KeyedRows.row_filter_ne _ _ _ PrBuild.prNumber t.rows (prNumberAsI64 k)
    (prNumberAsI64 n)
  simp only [prNumberAsI64_injective.eq_iff] at hrow
  exact hrow

/-- An upsert of a stored PR updates its row in place. -/
theorem getByPr_upsert_of_some (h : t.getByPr n = some row) (build : StoredBuild) (now : String) :
    (t.upsert n build.commitHash build.commitHashShort build.imageTag build.state build.stateData
      now).getByPr k =
        (t.getByPr k).map (updateRow n build.commitHash build.commitHashShort build.imageTag
          build.state build.stateData now) := by
  have hmem : prNumberAsI64 n ∈ t.rows.map PrBuild.prNumber := by
    obtain ⟨hrow, hn⟩ := getByPr_eq_some_iff.1 h
    rw [← hn]
    exact List.mem_map_of_mem hrow
  rw [upsert, dif_pos hmem]
  exact KeyedRows.row_map (updateRow_prNumber n _ _ _ _ _ now)

/-- An upsert of a new PR inserts a row. -/
theorem getByPr_upsert_of_none (h : t.getByPr n = none) (build : StoredBuild) (now : String) :
    (t.upsert n build.commitHash build.commitHashShort build.imageTag build.state build.stateData
      now).getByPr k =
        if k = n then
          some ⟨t.lastId + 1, prNumberAsI64 n, build.commitHash, build.commitHashShort,
            build.imageTag, build.state, build.stateData, now, now⟩
        else
          t.getByPr k := by
  have hfresh : prNumberAsI64 n ∉ t.rows.map PrBuild.prNumber := KeyedRows.row_eq_none_iff.1 h
  rw [upsert, dif_neg hfresh]
  have hrow := @KeyedRows.row_append _ _ _ PrBuild.prNumber t.rows (prNumberAsI64 k)
    ⟨t.lastId + 1, prNumberAsI64 n, build.commitHash, build.commitHashShort, build.imageTag,
      build.state, build.stateData, now, now⟩ hfresh
  simp only [prNumberAsI64_injective.eq_iff] at hrow
  exact hrow

theorem updateRow_of_ne {commitHash commitHashShort imageTag state : String}
    {stateData : Option String} {now : String} (h : row.prNumber ≠ prNumberAsI64 n) :
    updateRow n commitHash commitHashShort imageTag state stateData now row = row :=
  if_neg h

theorem updateStateRow_of_ne {state : String} {stateData : Option String} {now : String}
    (h : row.prNumber ≠ prNumberAsI64 n) : updateStateRow n state stateData now row = row :=
  if_neg h

/-- The row of another PR has another number. -/
theorem prNumber_ne (h : t.getByPr k = some row) (hk : k ≠ n) : row.prNumber ≠ prNumberAsI64 n := by
  rw [(getByPr_eq_some_iff.1 h).2]
  exact fun heq => hk (prNumberAsI64_injective heq)

end PrBuilds

namespace BuildStatement

variable {t : PrBuilds} {n k : UInt32} {row : PrBuild} {s : BuildStatement}

/-- A statement leaves the rows of other PRs unchanged. -/
theorem getByPr_execute_of_ne (hk : k ≠ s.pr) : (execute t s).getByPr k = t.getByPr k := by
  -- an update in place is the identity on the row of another PR
  have hkeep : ∀ f : PrBuild → PrBuild, (∀ row, t.getByPr k = some row → f row = row) →
      (t.getByPr k).map f = t.getByPr k := by
    intro f hf
    cases hrow : t.getByPr k with
    | none => rfl
    | some row => rw [Option.map_some, hf row hrow]
  cases s with
  | upsert n build now =>
      cases hn : t.getByPr n with
      | none =>
          rw [execute, PrBuilds.getByPr_upsert_of_none hn]
          exact if_neg hk
      | some old =>
          rw [execute, PrBuilds.getByPr_upsert_of_some hn]
          apply hkeep
          intro row hrow
          exact PrBuilds.updateRow_of_ne (PrBuilds.prNumber_ne hrow hk)
  | updateState n state stateData now =>
      rw [execute, PrBuilds.getByPr_updateState]
      apply hkeep
      intro row hrow
      exact PrBuilds.updateStateRow_of_ne (PrBuilds.prNumber_ne hrow hk)
  | delete n =>
      rw [execute, PrBuilds.getByPr_delete]
      exact if_neg hk

/-- An upsert of a stored PR keeps the id and the creation time of its row. -/
theorem getByPr_upsert_keeps {build : StoredBuild} {now : String} (h : t.getByPr n = some row) :
    ∃ row', (execute t (.upsert n build now)).getByPr n = some row' ∧ row'.id = row.id ∧
      row'.createdAt = row.createdAt ∧ row'.stored = build := by
  have hn := (PrBuilds.getByPr_eq_some_iff.1 h).2
  refine ⟨_, by rw [execute, PrBuilds.getByPr_upsert_of_some h, h, Option.map_some], ?_⟩
  simp [PrBuilds.updateRow, hn, PrBuild.stored]

/-- A statement overlays the build stored for its PR. -/
theorem stored_execute :
    ((execute t s).getByPr s.pr).map PrBuild.stored =
      s.overlay ((t.getByPr s.pr).map PrBuild.stored) := by
  cases s with
  | upsert n build now =>
      cases hn : t.getByPr n with
      | none => simp [execute, pr, overlay, PrBuilds.getByPr_upsert_of_none hn, PrBuild.stored]
      | some row =>
          obtain ⟨row', hrow', -, -, hstored⟩ := @getByPr_upsert_keeps t n row build now hn
          simp only [pr, overlay, hrow', Option.map_some, hstored]
  | updateState n state stateData now =>
      rw [execute, pr, PrBuilds.getByPr_updateState]
      cases hn : t.getByPr n with
      | none => rfl
      | some row =>
          have hkey := (PrBuilds.getByPr_eq_some_iff.1 hn).2
          simp [overlay, PrBuilds.updateStateRow, hkey, PrBuild.stored]
  | delete n => simp [execute, pr, overlay, PrBuilds.getByPr_delete]

/-! ## Runs of statements -/

/-- Every row carries the number of a PR. -/
def Numbered (t : PrBuilds) : Prop := ∀ row ∈ t.rows, ∃ n, row.prNumber = prNumberAsI64 n

theorem numbered_execute (h : Numbered t) : Numbered (execute t s) := by
  intro row hrow
  cases s with
  | upsert n build now =>
      rcases PrBuilds.mem_rows_upsert hrow with ⟨hold, -⟩ | ⟨hn, -⟩
      · exact h row hold
      · exact ⟨n, hn⟩
  | updateState n state stateData now =>
      obtain ⟨old, hold, rfl⟩ := List.mem_map.1 hrow
      rw [PrBuilds.updateStateRow_prNumber]
      exact h old hold
  | delete n => exact h row ((PrBuilds.mem_rows_delete_iff t n row).1 hrow).1

theorem numbered_executeAll (statements : List BuildStatement) :
    Numbered (executeAll statements) := by
  have hrun : ∀ t, Numbered t → Numbered (statements.foldl execute t) := by
    induction statements with
    | nil => exact fun _ h => h
    | cons s statements ih => exact fun t h => ih (execute t s) (numbered_execute h)
  apply hrun
  intro row hrow
  cases hrow

theorem getByPr_executeAll (statements : List BuildStatement) (n : UInt32) :
    ((executeAll statements).getByPr n).map PrBuild.stored = storedAfter statements n := by
  have hother : ∀ t s k, k ≠ pr s →
      ((execute t s).getByPr k).map PrBuild.stored = (t.getByPr k).map PrBuild.stored := by
    intro t s k hk
    rw [getByPr_execute_of_ne hk]
  exact @PerKey.view_foldl _ _ _ _ _ pr overlay execute
    (fun t n => (t.getByPr n).map PrBuild.stored) (fun _ _ => stored_execute) hother
    PrBuilds.empty statements n

/-! ## The queries -/

/-- The queries of a table answer for the map of its stored builds. -/
theorem storeAgrees_of_numbered (h : Numbered t) :
    StoreAgrees t fun n => (t.getByPr n).map PrBuild.stored where
  atMostOne := by
    intro n
    rw [PrBuilds.filter_prNumber]
    cases t.getByPr n with
    | none => exact Nat.zero_le 1
    | some row => exact Nat.le_refl 1
  getByPr _ := rfl
  numbered := by
    intro row hrow
    obtain ⟨n, hn⟩ := h row hrow
    rw [PrBuilds.getByPr_eq_some_iff, hn, prNumberAsU32_prNumberAsI64]
    exact ⟨hrow, rfl⟩
  lastReady _ c := PrBuilds.getLastReadyCommit_iff c
  active := by
    intro row
    show row ∈ t.getActiveBuilds ↔
      row ∈ t.rows ∧ (decide (row.state = "Failed") || decide (row.state = "ShuttingDown")) = false
    simp [PrBuilds.getActiveBuilds, List.mem_filter]
  activeOnce := by
    have hunique : (t.getActiveBuilds.map PrBuild.prNumber).Nodup :=
      t.unique.sublist (List.filter_sublist.map _)
    -- the cast to `u32` separates the numbers that the rows carry
    apply List.Nodup.map_on
    · intro row hrow row' hrow' heq
      obtain ⟨n, hn⟩ := h row (List.mem_filter.1 hrow).1
      obtain ⟨n', hn'⟩ := h row' (List.mem_filter.1 hrow').1
      rw [hn, hn', prNumberAsU32_prNumberAsI64, prNumberAsU32_prNumberAsI64] at heq
      exact List.inj_on_of_nodup_map hunique hrow hrow' (by rw [hn, hn', heq])
    · exact hunique.of_map

theorem storeAgrees_executeAll (statements : List BuildStatement) :
    StoreAgrees (executeAll statements) (storedAfter statements) := by
  have hagrees := storeAgrees_of_numbered (numbered_executeAll statements)
  simp only [getByPr_executeAll] at hagrees
  exact hagrees

/-- After any sequence of upserts, state updates and deletes the queries answer for the map that
holds, for each PR, its last upsert overlaid by the later state updates. A further upsert of a
stored PR keeps the id and the creation time of its row, a statement on one PR leaves the rows of
all others unchanged, and a PR number survives the casts to `i64` and back. -/
theorem store_refines_map (statements : List BuildStatement) :
    StoreAgrees (executeAll statements) (storedAfter statements) ∧
      (∀ s k, k ≠ s.pr →
        (execute (executeAll statements) s).getByPr k = (executeAll statements).getByPr k) ∧
      (∀ n build now row, (executeAll statements).getByPr n = some row →
        ∃ row', (execute (executeAll statements) (.upsert n build now)).getByPr n = some row' ∧
          row'.id = row.id ∧ row'.createdAt = row.createdAt ∧ row'.stored = build) ∧
      ∀ n : UInt32, prNumberAsU32 (prNumberAsI64 n) = n :=
  ⟨storeAgrees_executeAll statements,
    fun _ _ hk => getByPr_execute_of_ne hk, fun _ _ _ _ h => getByPr_upsert_keeps h,
    prNumberAsU32_prNumberAsI64⟩

end BuildStatement

end SteelProxy
