import Mathlib.Logic.Function.Iterate

/-!
# FeathrRegistry.Db.Connection

The connections of `feathr_handlers/db/databases.py` as both services use them: `get_db_provider`,
and the `update` of each connection class, wrapped in the `retry` decorator of `db/utils.py`.

`retry(max_attempts, delay_secs)` calls the function up to `max_attempts` times and returns the
first result; when every call raises it raises `Max retry attempts reached: {max_attempts}`. Which
attempts raise, and at which step, is the environment's choice (`faults`, by the attempt's index);
every theorem holds for each choice.

`SQLAlchemyConnection.update` runs the statement in `transaction()`, which commits when the body
ends and rolls back when the body or the commit raises: a raise leaves the statement committed
only when the commit reached the database before it (its reply lost) or when `session.close()`
raises in the `finally`. `MssqlConnection.update` runs it on the connection `make_connection`
opens with `autocommit=True`, where `execute` commits by itself, before the explicit `commit()`.
An attempt that raises after its statement was committed is retried all the same, so the statement
takes effect once for every such attempt before the first that returns, and once more for that
one (`retry_update`).
-/

namespace FeathrRegistry

/-! ## The decorator -/

section Retry

variable {D ε α : Type}

/-- The loop of `retry`'s wrapper over the calls still to make: the first call that returns gives
the result, and the wrapper raises `msg` when every call raises. A call may change the database
whether it returns or raises. Logging and `time.sleep(delay_secs)` change nothing modelled. -/
def retryLoop (msg : String) : List (D → Except ε α × D) → D → Except String α × D
  | [], d => (.error msg, d)
  | call :: calls, d =>
    match call d with
    | (.ok r, d') => (.ok r, d')
    | (.error _, d') => retryLoop msg calls d'

/-- `retry(max_attempts, delay_secs)(func)`: `func i` is the wrapped function as the environment
lets it run the `i`-th time. -/
def retry (max_attempts : Nat) (func : Nat → D → Except ε α × D) (d : D) :
    Except String α × D :=
  retryLoop ("Max retry attempts reached: " ++ toString max_attempts)
    ((List.range max_attempts).map func) d

end Retry

/-! ## One attempt of `update` -/

/-- The steps of `SQLAlchemyConnection.update` that can raise: `self.session()`, `sess.execute`,
`session.commit()` (which the database may have run when its reply is lost), and
`session.close()` in the `finally` of `transaction()`. -/
inductive SessionFault
  | session
  | execute
  | commit (applied : Bool)
  | close
  deriving DecidableEq, Repr

/-- Whether the statement is committed when the step raises: the body and a commit that did not
reach the database are rolled back; `close` comes after the commit. -/
def SessionFault.committed : SessionFault → Bool
  | .commit applied => applied
  | .close => true
  | _ => false

/-- The steps of `MssqlConnection.update` that can raise: `make_connection()`, `cursor`,
`execute` (which the database may have run when its reply is lost), and `self.conn.commit()`. -/
inductive MssqlFault
  | connect
  | cursor
  | execute (applied : Bool)
  | commit
  deriving DecidableEq, Repr

/-- Whether the statement is committed when the step raises: on the autocommit connection a
statement the database ran is committed, so every raise at `commit()` comes after it. -/
def MssqlFault.committed : MssqlFault → Bool
  | .execute applied => applied
  | .commit => true
  | _ => false

section Update

variable {D F : Type}

/-- One attempt of an `update` whose statement has the effect `run`, raising at the step the
environment gives; `committed f` says whether the statement is committed when step `f` raises. -/
def updateAttempt (committed : F → Bool) (run : D → D) : Option F → D → Except F Bool × D
  | none, d => (.ok true, run d)
  | some f, d => (.error f, if committed f then run d else d)

/-- The steps at which the attempts before the first that returns raise. -/
def raisedBefore : List (Option F) → List F
  | [] => []
  | none :: _ => []
  | some f :: fs => f :: raisedBefore fs

/-- The number of times the statement takes effect over attempts that raise as `fs` says: once
for each attempt before the first that returns whose raise comes after the commit, and once for
the attempt that returns, if one does. -/
def effects (committed : F → Bool) (fs : List (Option F)) : Nat :=
  ((raisedBefore fs).filter committed).length + if fs.any Option.isNone then 1 else 0

end Update

/-- `SQLAlchemyConnection.update`, decorated `@retry(max_attempts=3, delay_secs=1)`. -/
def SQLAlchemyConnection.update {D : Type} (run : D → D) (faults : Nat → Option SessionFault)
    (d : D) : Except String Bool × D :=
  retry 3 (fun i => updateAttempt SessionFault.committed run (faults i)) d

/-- `MssqlConnection.update`, decorated `@retry(max_attempts=3, delay_secs=1)`. -/
def MssqlConnection.update {D : Type} (run : D → D) (faults : Nat → Option MssqlFault) (d : D) :
    Except String Bool × D :=
  retry 3 (fun i => updateAttempt MssqlFault.committed run (faults i)) d

/-! ## What a retried update does -/

section Retried

variable {D F : Type} (committed : F → Bool) (run : D → D)

@[simp] theorem effects_nil : effects committed [] = 0 := rfl

@[simp] theorem effects_none (fs : List (Option F)) : effects committed (none :: fs) = 1 := rfl

@[simp] theorem effects_some (f : F) (fs : List (Option F)) :
    effects committed (some f :: fs) =
      (if committed f then 1 else 0) + effects committed fs := by
  rw [effects, effects, raisedBefore, List.filter_cons, List.any_cons, Option.isNone_some,
    Bool.false_or]
  cases committed f
  · simp
  · simp only [ite_true, List.length_cons]
    omega

/-- The loop over attempts that raise as `fs` says: it returns when one attempt returns, else it
raises `msg`, and the statement takes effect `effects committed fs` times. -/
theorem retryLoop_updateAttempt (msg : String) :
    ∀ (fs : List (Option F)) (d : D),
      retryLoop msg (fs.map (updateAttempt committed run)) d =
        (if fs.any Option.isNone then .ok true else .error msg, run^[effects committed fs] d)
  | [], _ => rfl
  | none :: _, _ => rfl
  | some f :: fs, d => by
    simp only [List.map_cons, retryLoop, updateAttempt, List.any_cons, Option.isNone_some,
      Bool.false_or, effects_some]
    rw [retryLoop_updateAttempt msg fs]
    cases committed f
    · simp
    · simp [Nat.add_comm 1, Function.iterate_add_apply]

theorem retry_eq_retryLoop (n : Nat) (faults : Nat → Option F) (d : D) :
    retry n (fun i => updateAttempt committed run (faults i)) d =
      retryLoop ("Max retry attempts reached: " ++ toString n)
        (((List.range n).map faults).map (updateAttempt committed run)) d := by
  rw [retry, List.map_map]
  rfl

/-- A retried update: it returns `True` when one of the `n` attempts returns, else it raises
`Max retry attempts reached: n`; the statement takes effect once for each attempt before the first
that returns whose raise comes after the commit, and once for that attempt. -/
theorem retry_update (n : Nat) (faults : Nat → Option F) (d : D) :
    retry n (fun i => updateAttempt committed run (faults i)) d =
      (if ((List.range n).map faults).any Option.isNone then .ok true
        else .error ("Max retry attempts reached: " ++ toString n),
        run^[effects committed ((List.range n).map faults)] d) := by
  rw [retry_eq_retryLoop, retryLoop_updateAttempt]

end Retried

/-! ## `get_db_provider` -/

/-- The connection classes of `PROVIDERS`. -/
inductive Provider
  | sqlite
  | pgsql
  | mysql
  | mariadb
  | mssql
  | mssqlv2
  deriving DecidableEq, Repr

/-- `PROVIDERS.get(db_name)`. -/
def providerOf : String → Option Provider
  | "sqlite" => some .sqlite
  | "pgsql" => some .pgsql
  | "mysql" => some .mysql
  | "mariadb" => some .mariadb
  | "mssql" => some .mssql
  | "mssqlv2" => some .mssqlv2
  | _ => none

/-- `PROVIDERS.keys()`. -/
def providerKeys : List String := ["sqlite", "pgsql", "mysql", "mariadb", "mssql", "mssqlv2"]

/-- `is_sqlalchemy_supported`: every class of `PROVIDERS` but `MssqlConnection` is a
`SQLAlchemyConnection`, whose `update` is `SQLAlchemyConnection.update`. -/
def Provider.isSqlalchemySupported : Provider → Bool
  | .mssql => false
  | _ => true

/-- Python's `str` of an optional string. -/
def pyStrOpt : Option String → String
  | none => "None"
  | some s => s

/-- `get_db_provider(db_name, conn_str)`: the class it builds and the connection string it passes;
`name` is `randomname.get_name()`. The message prints `list(PROVIDERS.keys())`. -/
def getDbProvider (db_name conn_str : Option String) (name : String) :
    Except String (Provider × String) :=
  match db_name.bind providerOf with
  | none => .error ("Cannot connect to " ++ pyStrOpt db_name ++ " database. Supported: " ++
      "['sqlite', 'pgsql', 'mysql', 'mariadb', 'mssql', 'mssqlv2']")
  | some p =>
    match conn_str with
    | none | some "" =>
      .ok (.sqlite, "sqlite:////tmp/" ++ name ++ ".sqlite?check_same_thread=False")
    | some s => .ok (p, s)

theorem providerOf_eq_none_iff (k : String) : providerOf k = none ↔ k ∉ providerKeys := by
  unfold providerOf
  split <;> simp_all [providerKeys]

theorem providerOf_isSqlalchemySupported {k : String} {p : Provider} (h : providerOf k = some p) :
    p.isSqlalchemySupported = false ↔ k = "mssql" := by
  unfold providerOf at h
  split at h <;> cases h <;> simp_all [Provider.isSqlalchemySupported]

/-- `get_db_provider` raises exactly when the name is not a key of `PROVIDERS`, also when the
connection string is empty and the connection made would be SQLite's; it builds an
`MssqlConnection` exactly for `mssql` with a connection string. -/
theorem getDbProvider_ok_iff (db_name conn_str : Option String) (name : String) :
    ((∃ r, getDbProvider db_name conn_str name = .ok r) ↔ ∃ k ∈ providerKeys, db_name = some k) ∧
    (∀ p s, getDbProvider db_name conn_str name = .ok (p, s) →
      (p.isSqlalchemySupported = false ↔
        db_name = some "mssql" ∧ conn_str ≠ none ∧ conn_str ≠ some "")) := by
  rcases db_name with _ | k
  · simp [getDbProvider]
  cases hk : providerOf k with
  | none => simp [getDbProvider, hk, (providerOf_eq_none_iff k).1 hk]
  | some q =>
    have hkeys : k ∈ providerKeys := by
      by_contra hn
      rw [← providerOf_eq_none_iff] at hn
      simp [hn] at hk
    refine ⟨by simp [getDbProvider, hk, hkeys]; split <;> simp, fun p s h => ?_⟩
    rw [Option.some_inj, ← providerOf_isSqlalchemySupported hk]
    simp only [getDbProvider, hk, Option.some_bind] at h
    split at h <;> cases h <;> simp_all [Provider.isSqlalchemySupported]

end FeathrRegistry
