import SteelProxy.Library.KeyedRows

/-!
# The `pr_builds` table

`db/models.rs` over the table created by `db::run_migrations`. The UNIQUE constraint on
`pr_number` is a field of the table, so a table with two rows of one PR cannot be built. A query
that fails is modelled where it is awaited; here every statement succeeds.
-/

set_option autoImplicit false

namespace SteelProxy

open SteelProxy.Library

/-- `n as i64` for a PR number. -/
def prNumberAsI64 (n : UInt32) : Int64 := n.toUInt64.toInt64

/-- `build.pr_number as u32`. -/
def prNumberAsU32 (i : Int64) : UInt32 := i.toUInt64.toUInt32

@[simp]
theorem prNumberAsU32_prNumberAsI64 (n : UInt32) : prNumberAsU32 (prNumberAsI64 n) = n := by
  simp [prNumberAsU32, prNumberAsI64]

theorem prNumberAsI64_injective : Function.Injective prNumberAsI64 := by
  intro m n h
  rw [← prNumberAsU32_prNumberAsI64 m, h, prNumberAsU32_prNumberAsI64]

/-- `db::PrBuild`. -/
structure PrBuild where
  id : Nat
  prNumber : Int64
  commitHash : String
  commitHashShort : String
  imageTag : String
  state : String
  stateData : Option String
  createdAt : String
  updatedAt : String
  deriving DecidableEq, Repr

/-- The table `pr_builds`; `lastId` is the AUTOINCREMENT counter. -/
structure PrBuilds where
  rows : List PrBuild
  lastId : Nat
  unique : (rows.map PrBuild.prNumber).Nodup
  deriving DecidableEq

namespace PrBuilds

/-- The empty table. -/
def empty : PrBuilds := ⟨[], 0, List.nodup_nil⟩

/-- The conflict branch of `PrBuild::upsert` on one row. -/
def updateRow (n : UInt32) (commitHash commitHashShort imageTag state : String)
    (stateData : Option String) (now : String) (row : PrBuild) : PrBuild :=
  if row.prNumber = prNumberAsI64 n then
    { row with
      commitHash := commitHash
      commitHashShort := commitHashShort
      imageTag := imageTag
      state := state
      stateData := stateData
      updatedAt := now }
  else
    row

@[simp]
theorem updateRow_prNumber (n : UInt32) (commitHash commitHashShort imageTag state : String)
    (stateData : Option String) (now : String) (row : PrBuild) :
    (updateRow n commitHash commitHashShort imageTag state stateData now row).prNumber =
      row.prNumber := by
  unfold updateRow
  split <;> rfl

/-- `PrBuild::upsert`; `now` is `datetime('now')`. -/
def upsert (t : PrBuilds) (n : UInt32) (commitHash commitHashShort imageTag state : String)
    (stateData : Option String) (now : String) : PrBuilds :=
  if h : prNumberAsI64 n ∈ t.rows.map PrBuild.prNumber then
    -- ON CONFLICT(pr_number) DO UPDATE: the id and `created_at` stay, but the id that SQLite had
    -- drawn for the insert is used up
    { rows := t.rows.map (updateRow n commitHash commitHashShort imageTag state stateData now)
      lastId := t.lastId + 1
      unique := by simpa [List.map_map, Function.comp_def] using t.unique }
  else
    { rows := t.rows ++ [⟨t.lastId + 1, prNumberAsI64 n, commitHash, commitHashShort, imageTag,
        state, stateData, now, now⟩]
      lastId := t.lastId + 1
      unique := by
        rw [List.map_append, List.nodup_append]
        refine ⟨t.unique, by simp, ?_⟩
        intro a ha b hb hab
        simp only [List.map_cons, List.map_nil, List.mem_singleton] at hb
        exact h (by rw [← hb, ← hab]; exact ha) }

/-- `PrBuild::update_state` on one row. -/
def updateStateRow (n : UInt32) (state : String) (stateData : Option String) (now : String)
    (row : PrBuild) : PrBuild :=
  if row.prNumber = prNumberAsI64 n then
    { row with state := state, stateData := stateData, updatedAt := now }
  else
    row

@[simp]
theorem updateStateRow_prNumber (n : UInt32) (state : String) (stateData : Option String)
    (now : String) (row : PrBuild) :
    (updateStateRow n state stateData now row).prNumber = row.prNumber := by
  unfold updateStateRow
  split <;> rfl

/-- `PrBuild::update_state`. -/
def updateState (t : PrBuilds) (n : UInt32) (state : String) (stateData : Option String)
    (now : String) : PrBuilds :=
  { rows := t.rows.map (updateStateRow n state stateData now)
    lastId := t.lastId
    unique := by simpa [List.map_map, Function.comp_def] using t.unique }

/-- `PrBuild::delete`. -/
def delete (t : PrBuilds) (n : UInt32) : PrBuilds :=
  { rows := t.rows.filter fun row => row.prNumber ≠ prNumberAsI64 n
    lastId := t.lastId
    unique := t.unique.sublist (List.filter_sublist.map _) }

/-- `PrBuild::get_by_pr`. -/
def getByPr (t : PrBuilds) (n : UInt32) : Option PrBuild :=
  t.rows.find? fun row => row.prNumber = prNumberAsI64 n

/-- `PrBuild::exists_with_commit`. -/
def existsWithCommit (t : PrBuilds) (n : UInt32) (commitHashShort : String) : Bool :=
  0 < (t.rows.filter fun row =>
    row.prNumber = prNumberAsI64 n ∧ row.commitHashShort = commitHashShort ∧
      row.state = "Ready").length

/-- `PrBuild::get_active_builds`. -/
def getActiveBuilds (t : PrBuilds) : List PrBuild :=
  t.rows.filter fun row => row.state ≠ "Failed" ∧ row.state ≠ "ShuttingDown"

/-- `PrBuild::get_last_ready_commit`: the newest row of the selected ones. -/
def getLastReadyCommit (t : PrBuilds) (n : UInt32) : Option String :=
  let ready := t.rows.filter fun row => row.prNumber = prNumberAsI64 n ∧ row.state = "Ready"
  (ready.mergeSort fun a b => b.updatedAt ≤ a.updatedAt).head?.map PrBuild.commitHashShort

theorem existsWithCommit_iff (t : PrBuilds) (n : UInt32) (commitHashShort : String) :
    t.existsWithCommit n commitHashShort = true ↔
      ∃ row ∈ t.rows, row.prNumber = prNumberAsI64 n ∧
        row.commitHashShort = commitHashShort ∧ row.state = "Ready" := by
  simp [existsWithCommit, List.length_pos_iff_exists_mem, List.mem_filter]

theorem mem_rows_delete_iff (t : PrBuilds) (n : UInt32) (row : PrBuild) :
    row ∈ (t.delete n).rows ↔ row ∈ t.rows ∧ row.prNumber ≠ prNumberAsI64 n := by
  simp [delete, List.mem_filter]

/-- A row after an upsert is an old row of another PR or the row that was written. -/
theorem mem_rows_upsert {t : PrBuilds} {n : UInt32}
    {commitHash commitHashShort imageTag state : String} {stateData : Option String}
    {now : String} {row : PrBuild}
    (h : row ∈ (t.upsert n commitHash commitHashShort imageTag state stateData now).rows) :
    (row ∈ t.rows ∧ row.prNumber ≠ prNumberAsI64 n) ∨
      (row.prNumber = prNumberAsI64 n ∧ row.commitHash = commitHash ∧
        row.commitHashShort = commitHashShort ∧ row.imageTag = imageTag ∧ row.state = state) := by
  unfold upsert at h
  split at h
  · obtain ⟨old, hold, rfl⟩ := List.mem_map.1 h
    unfold updateRow
    by_cases hn : old.prNumber = prNumberAsI64 n
    · rw [if_pos hn]
      exact Or.inr ⟨hn, rfl, rfl, rfl, rfl⟩
    · rw [if_neg hn]
      exact Or.inl ⟨hold, hn⟩
  · rename_i hnot
    rcases List.mem_append.1 h with h | h
    · -- a row of this PR would have sent the statement into its conflict branch
      refine Or.inl ⟨h, ?_⟩
      intro heq
      exact hnot (List.mem_map.2 ⟨row, h, heq⟩)
    · simp only [List.mem_singleton] at h
      subst h
      exact Or.inr ⟨rfl, rfl, rfl, rfl, rfl⟩

end PrBuilds

/-- A row of PR 7. -/
def sampleRow : PrBuild :=
  ⟨1, 7, "0123456789abcdef", "0123456", "pr-7-0123456", "Ready", none, "2026-01-01 00:00:00",
    "2026-01-01 00:00:00"⟩

/-- The table with this row. -/
def sampleBuilds : PrBuilds := ⟨[sampleRow], 1, List.nodup_singleton _⟩

end SteelProxy
