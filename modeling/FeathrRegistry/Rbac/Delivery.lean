import FeathrRegistry.Rbac.Invariants
import FeathrRegistry.Db.Connection

/-!
# FeathrRegistry.Rbac.Delivery

The statements of `DbRBAC` sent through a retried `db_conn.update` (`FeathrRegistry.Db.Connection`).

An insert that takes effect again appends its record again. The update of `delete_userrole` is
idempotent: the records it revokes get a `delete_time`, and the update matches none of them again
(`Stmt.run_revoke_iterate`). So through `MssqlConnection.update`, whose attempts can raise after
`execute` committed, `delete_userrole` revokes as if once, while an insert is added once per
attempt that committed it (`mssqlUpdate_stmt`): a raise at `commit()` followed by an attempt that
returns leaves two active records of one key.
-/

namespace FeathrRegistry

theorem UserRole.revoke_revoke {b c t u p r : String} (x : UserRole) :
    (x.revoke b c t u p r).revoke b c t u p r = x.revoke b c t u p r := by
  by_cases h : x.user_name = u ∧ x.project_name = p ∧ x.role_name = r ∧ x.delete_time = none <;>
    simp [UserRole.revoke, h]

/-- An insert run `k` times appends its record `k` times. -/
theorem Stmt.run_insert_iterate (p u r b c t : String) :
    ∀ (k : Nat) (ts : List UserRole), (Stmt.insert p u r b c t).run^[k] ts =
      ts ++ List.replicate k ⟨p, u, r, some b, some c, some t, none, none, none⟩
  | 0, ts => by simp
  | k + 1, ts => by
    rw [Function.iterate_succ_apply', Stmt.run_insert_iterate p u r b c t k, Stmt.run,
      List.replicate_succ', List.append_assoc]

/-- The update of `delete_userrole` run `k + 1` times is the update run once. -/
theorem Stmt.run_revoke_iterate (b c t u p r : String) :
    ∀ (k : Nat) (ts : List UserRole),
      (Stmt.revoke b c t u p r).run^[k + 1] ts = (Stmt.revoke b c t u p r).run ts
  | 0, _ => rfl
  | k + 1, ts => by
    rw [Function.iterate_succ_apply', Stmt.run_revoke_iterate b c t u p r k, Stmt.run, Stmt.run,
      List.map_map]
    exact List.map_congr_left fun x _ => UserRole.revoke_revoke x

/-- Every statement of `DbRBAC` through `MssqlConnection.update`, with `k` the number of times the
retried update takes effect: an insert appends its record `k` times, and the update of
`delete_userrole` revokes as if once when `k ≥ 1`, and leaves the table as it was when `k = 0`. -/
theorem mssqlUpdate_stmt (faults : Nat → Option MssqlFault) (ts : List UserRole) :
    (∀ p u r b c t, (MssqlConnection.update (Stmt.insert p u r b c t).run faults ts).2 =
      ts ++ List.replicate (effects MssqlFault.committed ((List.range 3).map faults))
        ⟨p, u, r, some b, some c, some t, none, none, none⟩) ∧
    (∀ b c t u p r, (MssqlConnection.update (Stmt.revoke b c t u p r).run faults ts).2 =
      if effects MssqlFault.committed ((List.range 3).map faults) = 0 then ts
      else (Stmt.revoke b c t u p r).run ts) := by
  refine ⟨fun p u r b c t => ?_, fun b c t u p r => ?_⟩
  · rw [MssqlConnection.update, retry_eq_retryLoop, retryLoop_updateAttempt,
      Stmt.run_insert_iterate]
  · rw [MssqlConnection.update, retry_eq_retryLoop, retryLoop_updateAttempt]
    rcases Nat.eq_zero_or_eq_succ_pred (effects MssqlFault.committed ((List.range 3).map faults))
      with hk | hk <;> rw [hk]
    · rfl
    · rw [Stmt.run_revoke_iterate]
      rfl

/-- A raise at `commit()`, then an attempt that returns: the insert lands twice. -/
example : (MssqlConnection.update (Stmt.insert "p1" "u2" "consumer" "a" "new" sampleTime).run
    (fun i => if i = 0 then some .commit else none) sampleGranted).2.length = 4 := rfl

end FeathrRegistry
