import DotmacErp.GL.Database

/-!
# Balance invalidation

`BalanceInvalidationService`: a posting marks the actual balances of every account and period
it touched as stale, and queues each account and period for a refresh. Nothing here can fail,
so the methods are functions of the database.

Invalidation leaves every figure of every balance as it was (`invalidateBatch_balances`) and
every other table alone (`invalidateBatch_frame`).
-/

namespace DotmacErp

open Relational

namespace BalanceInvalidationService

def invalidate (org accountId periodId : UUID) (db : Db) : Db :=
  let entry := db.balanceRefreshQueue.find? fun q => q.organizationId = org ∧
    q.accountId = accountId ∧ q.fiscalPeriodId = periodId
  { db with
    balances := db.balances.update
      (fun b => b.organizationId = org ∧ b.accountId = accountId ∧
        b.fiscalPeriodId = periodId ∧ b.balanceType = .actual)
      fun b => { b with isStale := true }
    balanceRefreshQueue :=
      match entry with
      | some q => db.balanceRefreshQueue.modify q.id fun q => { q with processed := false }
      | none =>
        db.balanceRefreshQueue.insert
          { organizationId := org, accountId, fiscalPeriodId := periodId, processed := false } }

/-- `invalidate_batch`: each distinct key once. -/
def invalidateBatch (entries : List (UUID × UUID × UUID)) (db : Db) : Db :=
  entries.dedup.foldl (fun db key => invalidate key.1 key.2.1 key.2.2 db) db

section

variable {entries : List (UUID × UUID × UUID)} {db : Db}

theorem invalidateBatch_frame (entries : List (UUID × UUID × UUID)) (db : Db) :
    ∃ balances queue,
      invalidateBatch entries db =
        { db with balances := balances, balanceRefreshQueue := queue } := by
  rw [invalidateBatch]
  induction entries.dedup generalizing db with
  | nil => exact ⟨_, _, rfl⟩
  | cons key rest ih =>
    obtain ⟨balances, queue, h⟩ := ih (invalidate key.1 key.2.1 key.2.2 db)
    exact ⟨balances, queue, h⟩

theorem invalidateBatch_balances (entries : List (UUID × UUID × UUID)) (db : Db) (k : UUID) :
    ((invalidateBatch entries db).balances.get? k).map (fun b => { b with isStale := false }) =
      (db.balances.get? k).map fun b => { b with isStale := false } := by
  rw [invalidateBatch]
  induction entries.dedup generalizing db with
  | nil => rfl
  | cons key rest ih =>
    rw [List.foldl_cons, ih]
    simp only [invalidate, Table.get?_update, Option.map_map]
    congr 1
    funext b
    simp only [Function.comp_apply]
    split_ifs <;> rfl

end

end BalanceInvalidationService

end DotmacErp
