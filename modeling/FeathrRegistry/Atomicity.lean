import FeathrRegistry.Conflict

/-!
# FeathrRegistry.Atomicity

What a failure inside a call leaves behind.

A call that raises before its first statement (a `ConflictError`, a validation error, the
`KeyError` of a lookup) leaves the store as it was (`commit_error`). A statement that fails after
others have run does not: each statement is committed when it runs, so the rollback of
`transaction()` restores nothing and the statements before the failing one stay
(`runWrites_fail_at`). A datasource whose `Contains` insert fails stays in `entities` with no
edge (`createProjectDatasource_fails_midway`).
-/

namespace FeathrRegistry

/-- A create call during which the database fails the statement at position `k`. -/
def Call.runFailing (k : Nat) (b : Branch) (s : Store) (u : String) (c : Call) :
    Store × Except Err String :=
  commit (some k) (c.plan b s u) s

/-- A plan that raises before its statements leaves the store as it was. -/
@[simp] theorem commit_error {α : Type} (f : Option Nat) (e : Err) (s : Store) :
    commit f (.error e : Except Err (List Write × α)) s = (s, .error e) := rfl

theorem runWrites_some_succ (k : Nat) (w : Write) (ws : List Write) (s : Store) :
    runWrites (some (k + 1)) (w :: ws) s =
      match w.apply s with
      | .ok s' => runWrites (some k) ws s'
      | .error e => (s, some e) := rfl

/-- The statement at position `k` failing leaves the `k` before it committed. -/
theorem runWrites_fail_at {k : Nat} {ws : List Write} {s s' : Store} (hk : k < ws.length)
    (h : runWrites none (ws.take k) s = (s', none)) :
    runWrites (some k) ws s = (s', some .storeFailure) := by
  induction ws generalizing k s with
  | nil => cases hk
  | cons w ws ih =>
    cases k with
    | zero =>
      rw [List.take_zero, runWrites_nil] at h
      cases h; rfl
    | succ k =>
      rw [List.take_succ_cons, runWrites_cons_none] at h
      rw [runWrites_some_succ]
      cases hw : w.apply s with
      | error e => rw [hw] at h; cases h
      | ok s1 => rw [hw] at h; exact ih (Nat.lt_of_succ_lt_succ hk) h

/-- In the scenario store, creating datasource `s3` under `p1` with its `Contains` insert
failing raises, and leaves the datasource row in `entities` with no edge. -/
theorem createProjectDatasource_fails_midway :
    Reachable .sqlalchemy (scenarioStore .sqlalchemy) ∧
      (Call.createProjectDatasource "00000000-0000-4000-8000-000000000001"
          ⟨"s3", "hdfs", "path3", "", "ts", "epoch"⟩).runFailing 1 .sqlalchemy
          (scenarioStore .sqlalchemy) "00000000-0000-4000-8000-000000000006" =
        (⟨(scenarioStore .sqlalchemy).entities ++
            [⟨"00000000-0000-4000-8000-000000000006", "p1__s3",
              .source ⟨"s3", "hdfs", "path3", "", "ts", "epoch"⟩⟩],
          (scenarioStore .sqlalchemy).edges⟩, .error .storeFailure) :=
  ⟨reachable_scenarioStore _, rfl⟩

end FeathrRegistry
