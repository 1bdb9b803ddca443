import FeathrRegistry.Conflict
import FeathrRegistry.Typing
import FeathrRegistry.Rbac.Queries

/-!
# FeathrRegistry.Services

The two services together: the access-control service (`feathr_rbac`) in front of the registry.
Each route of its registry API (`rbac/api/v1/registry.py`) checks access and forwards the request
unchanged, except `new_project`, which calls `rbac.init_userrole(requestor.username,
definition["name"])` and then forwards `POST /projects` (`RbacApi.newProject`). Its access-control
API (`rbac/api/v1/access_control.py`) calls `add_userrole` and `delete_userrole`. A step
(`ServiceStep`) serves one request to completion; `ServiceReachable` runs steps from the tables
the two constructors leave, with the calls of `DbRBAC` that a filter allows.

* `serviceReachable_split`: every pair of tables the two services reach together is a pair each
  reaches alone, so every invariant of the registry (`Reachable`) and of `userroles`
  (`RbacReachable`) holds of the system.
* `newProject_existing`: `new_project` of the name of a project the registry holds, when no active
  record names its lowered name and `sa.text` reads no bind parameter in the values sent, makes
  the requester the project's admin and answers with the project's id. `new_project` asks for a
  user and no access, so once the last role on a project is revoked, any user who creates it again
  administers it.
* `serviceReachable_owned`: while no role is revoked, every project the registry holds has an
  active record under its lowered name, so `new_project` of an existing project grants nothing,
  whether or not `init_userrole` raises.

Lowering and the scope test's `casefold` are those of the parameter `base`, as in
`FeathrRegistry.Rbac.UserRoles`.
-/

namespace FeathrRegistry

/-- The tables of the two services: the registry's `entities` and `edges`, and `userroles`. -/
structure Tables where
  store : Store
  userroles : List UserRole
  deriving DecidableEq, Repr

/-- `new_project` of the access-control service's registry API: `init_userrole` of the requestor's
username (what the missing `ac.get_user` gives) and the definition's name, then the `POST /projects`
it forwards, which the registry's `new_project` serves with its `uuid4` `u`. A raise of
`init_userrole` ends the request before it forwards; `check` passes the registry's answer on. -/
def RbacApi.newProject (base : Base) (utc : String) (b : Branch) (u username : String)
    (d : ProjectDef) (st : Tables) : Tables × Except RbacErr (Except Err String) :=
  match initUserrole base utc username d.name st.userroles with
  | .error e => (st, .error e)
  | .ok t =>
    let r := (Request.newProject d).run b st.store u
    (⟨r.1, t⟩, .ok r.2)

/-- One request served to completion, with the call of `DbRBAC` it makes: `new_project`; another
create request or `DELETE /entity/{entity}`, forwarded to the registry unchanged; a call of
`DbRBAC` that writes, among them `add_userrole` and `delete_userrole` of the access-control API.
Each `uuid4` is fresh for the call it serves, and each time and text argument is quote-free. -/
inductive ServiceStep (base : Base) (b : Branch) : Option RbacCall → Tables → Tables → Prop
  | newProject {st st' : Tables} {utc u username : String} {d : ProjectDef}
      {r : Except RbacErr (Except Err String)} :
      quoteFree utc = true → quoteFree username = true → quoteFree d.name = true →
      Fresh st.store (.createProject d) u →
      RbacApi.newProject base utc b u username d st = (st', r) →
      ServiceStep base b (some (.initUserrole username d.name)) st st'
  | forward {s s' : Store} {t : List UserRole} {r : Request} {c : Call} {u : String}
      {res : Except Err String} :
      (∀ d, r ≠ .newProject d) → r.resolve s = .ok c → Fresh s c u → r.run b s u = (s', res) →
      ServiceStep base b none ⟨s, t⟩ ⟨s', t⟩
  | delete {s s' : Store} {t : List UserRole} {fuel : Nat} {x : String} {res : Except Err Unit} :
      deleteEntityHandler b fuel s x = some (s', res) → ServiceStep base b none ⟨s, t⟩ ⟨s', t⟩
  | rbac {s : Store} {t t' : List UserRole} {c : RbacCall} {utc : String} :
      quoteFree utc = true → (c.textArgs.all quoteFree) = true → c.run base utc t = .ok t' →
      ServiceStep base b (some c) ⟨s, t⟩ ⟨s, t'⟩

/-- The tables the two constructors leave: both empty on SQL Server, where neither creates its
tables; else the `global` project of `DbRegistry._init_project` and the record of
`DbRBAC._init_admin`. -/
inductive Tables.Init (base : Base) (b : Branch) : Tables → Prop
  | empty : Tables.Init base b ⟨.empty, []⟩
  | created {u a utc : String} : toUuid u = some u → quoteFree utc = true →
      Tables.Init base b
        ⟨((Call.createProject ⟨"global"⟩).run b .empty u).1, initAdmin base utc a []⟩

/-- The tables the two services reach together by steps whose call of `DbRBAC` `allowed` accepts. -/
inductive ServiceReachable (base : Base) (b : Branch) (allowed : RbacCall → Bool) : Tables → Prop
  | init {st : Tables} : Tables.Init base b st → ServiceReachable base b allowed st
  | step {st st' : Tables} {l : Option RbacCall} : ServiceReachable base b allowed st →
      ServiceStep base b l st st' → (∀ c ∈ l, allowed c = true) →
      ServiceReachable base b allowed st'

/-! ## `new_project` -/

/-- What `new_project` with quote-free arguments leaves: `userroles` as `init_userrole` leaves
it, and the registry's store after `create_project` when `init_userrole` returns. -/
theorem RbacApi.newProject_tables {base : Base} (hadmin : quoteFree base.admin = true)
    {utc : String} (hutc : quoteFree utc = true) (b : Branch) (u : String) {username : String}
    (huser : quoteFree username = true) {d : ProjectDef} (hname : quoteFree d.name = true)
    (st : Tables) :
    (RbacApi.newProject base utc b u username d st).1 = st ∨
      (RbacApi.newProject base utc b u username d st).1 =
        ⟨((Call.createProject d).run b st.store u).1,
          if (getUserroles st.userroles).any (·.project_name == base.lower d.name) then st.userroles
          else st.userroles ++ [⟨base.lower d.name, base.lower username, base.admin, some "system",
            some "creator of project, get admin by default.", some utc, none, none, none⟩]⟩ := by
  unfold RbacApi.newProject
  split
  · exact .inl rfl
  · rename_i t h
    rw [initUserrole_ok hutc hadmin huser hname h]
    exact .inr rfl

/-- `new_project` of the super-admin scope's name, in any case, writes nothing. -/
theorem RbacApi.newProject_scope {base : Base} {utc : String} {b : Branch} {u username : String}
    {d : ProjectDef} (hs : base.casefold d.name = base.casefold base.superAdminScope)
    (st : Tables) : (RbacApi.newProject base utc b u username d st).1 = st := by
  simp [RbacApi.newProject, initUserrole, hs]

theorem Request.resolve_createProject {s : Store} {r : Request} {d : ProjectDef}
    (h : r.resolve s = .ok (.createProject d)) : r = .newProject d := by
  cases r with
  | newProject => cases h; rfl
  | newProjectDatasource | newProjectAnchor | newProjectDerivedFeature =>
    obtain ⟨_, -, h⟩ := bind_eq_ok h
    cases h
  | newProjectAnchorFeature =>
    obtain ⟨_, -, h⟩ := bind_eq_ok h
    obtain ⟨_, -, h⟩ := bind_eq_ok h
    cases h

/-- A step changes the registry's store by a step of the registry, or not at all. -/
theorem ServiceStep.store {base : Base} {b : Branch} {l : Option RbacCall} {st st' : Tables}
    (h : ServiceStep base b l st st') : st'.store = st.store ∨ Step b st.store st'.store := by
  cases h with
  | newProject _ _ _ hf hrun =>
    unfold RbacApi.newProject at hrun
    split at hrun
    · cases hrun; exact .inl rfl
    · cases hrun; exact .inr (.create hf rfl)
  | forward _ hr hf hrun => exact .inr (ApiStep.step (.create hr hf hrun))
  | delete hd => exact .inr (.delete hd)
  | rbac => exact .inl rfl

/-- A step changes `userroles` by the quote-free call of `DbRBAC` it is labelled with, or not at
all. -/
theorem ServiceStep.userroles {base : Base} {b : Branch} {l : Option RbacCall} {st st' : Tables}
    (h : ServiceStep base b l st st') : st'.userroles = st.userroles ∨ ∃ c ∈ l, ∃ utc,
      quoteFree utc = true ∧ (c.textArgs.all quoteFree) = true ∧
        c.run base utc st.userroles = .ok st'.userroles := by
  cases h with
  | newProject hutc huser hname _ hrun =>
    unfold RbacApi.newProject at hrun
    split at hrun
    · cases hrun; exact .inl rfl
    · rename_i ht
      cases hrun
      exact .inr ⟨_, rfl, _, hutc, by simp [RbacCall.textArgs, huser, hname], ht⟩
  | forward | delete => exact .inl rfl
  | rbac hutc hargs hrun => exact .inr ⟨_, rfl, _, hutc, hargs, hrun⟩

/-- Every pair of tables the two services reach together, whatever calls of `DbRBAC` are allowed,
is a store the registry reaches alone and a table `DbRBAC` reaches alone. -/
theorem serviceReachable_split {base : Base} {b : Branch} {allowed : RbacCall → Bool}
    {st : Tables} (h : ServiceReachable base b allowed st) :
    Reachable b st.store ∧ RbacReachable base st.userroles := by
  induction h with
  | init h0 =>
    cases h0 with
    | empty => exact ⟨.init, .empty⟩
    | @created u a utc hu hutc =>
      have hf : Fresh .empty (.createProject ⟨"global"⟩) u :=
        ⟨hu, by simp [Store.Mentions, Store.empty], by simp [Call.idArgs]⟩
      exact ⟨Reachable.init.step (.create hf rfl),
        RbacReachable.empty.step (.initAdmin a) utc hutc rfl rfl⟩
  | step _ hs _ ih =>
    refine ⟨?_, ?_⟩
    · rcases hs.store with he | hs'
      · exact he ▸ ih.1
      · exact ih.1.step hs'
    · rcases hs.userroles with he | ⟨c, -, utc, hutc, hargs, hrun⟩
      · exact he ▸ ih.2
      · exact ih.2.step c utc hutc hargs hrun

theorem serviceReachable_split_created :
    ServiceReachable sampleBase .sqlalchemy (fun _ => true)
        ⟨((Call.createProject ⟨"global"⟩).run .sqlalchemy .empty
          "00000000-0000-4000-8000-000000000000").1,
          initAdmin sampleBase sampleTime "admin@example.com" []⟩ ∧
      Reachable .sqlalchemy ((Call.createProject ⟨"global"⟩).run .sqlalchemy .empty
          "00000000-0000-4000-8000-000000000000").1 ∧
      RbacReachable sampleBase (initAdmin sampleBase sampleTime "admin@example.com" []) :=
  have h : ServiceReachable sampleBase .sqlalchemy (fun _ => true)
      ⟨((Call.createProject ⟨"global"⟩).run .sqlalchemy .empty
        "00000000-0000-4000-8000-000000000000").1,
        initAdmin sampleBase sampleTime "admin@example.com" []⟩ :=
    .init (.created (by decide) (by decide))
  ⟨h, serviceReachable_split h⟩

/-! ## Projects keep a role -/

/-- Every project the registry holds has an active record under its lowered name. -/
def Tables.Owned (base : Base) (st : Tables) : Prop :=
  ∀ E ∈ st.store.entities, E.entity_type = .project →
    ∃ x ∈ getUserroles st.userroles, x.project_name = base.lower E.qualified_name

theorem Tables.Owned.of {base : Base} {st st' : Tables} (ho : st.Owned base)
    (ht : (getUserroles st.userroles).Sublist (getUserroles st'.userroles))
    (hs : ∀ E ∈ st'.store.entities, E.entity_type = .project → E ∈ st.store.entities ∨
      ∃ x ∈ getUserroles st'.userroles, x.project_name = base.lower E.qualified_name) :
    st'.Owned base := by
  intro E hE hp
  rcases hs E hE hp with hE | h
  · obtain ⟨x, hx, hxp⟩ := ho E hE hp
    exact ⟨x, ht.subset hx, hxp⟩
  · exact h

theorem Call.Inserts.project {b : Branch} {s : Store} {u : String} {c : Call} {n : Insertion}
    (hn : c.Inserts b s u n) (hp : n.row.entity_type = .project) :
    ∃ d, c = .createProject d ∧ n.row.qualified_name = d.name := by
  cases c with
  | createProject d => subst hn; exact ⟨d, rfl, rfl⟩
  | createProjectDatasource => obtain ⟨_, _, rfl⟩ := hn; cases hp
  | createProjectAnchor => obtain ⟨_, _, _, _, rfl⟩ := hn; cases hp
  | createProjectAnchorFeature => obtain ⟨_, _, _, _, rfl⟩ := hn; cases hp
  | createProjectDerivedFeature => obtain ⟨_, _, _, _, rfl⟩ := hn; cases hp

/-- A create call adds no project but the one `create_project` names. -/
theorem Call.run_project {b : Branch} {s s' : Store} {u : String} {c : Call}
    {r : Except Err String} (h : c.run b s u = (s', r)) {E : Entity} (hE : E ∈ s'.entities)
    (hp : E.entity_type = .project) :
    E ∈ s.entities ∨ ∃ d, c = .createProject d ∧ E.qualified_name = d.name := by
  rcases Call.run_cases h with rfl | ⟨n, hn, -, -, rfl⟩
  · exact .inl hE
  · rcases Insertion.mem_apply_entities.1 hE with hE | rfl
    · exact .inl hE
    · exact .inr (hn.project hp)

theorem deleteEntityHandler_entities {b : Branch} {fuel : Nat} {s s' : Store} {x : String}
    {r : Except Err Unit} (h : deleteEntityHandler b fuel s x = some (s', r)) :
    ∀ E ∈ s'.entities, E ∈ s.entities := by
  have hd := deleteEntityHandler_deletes h
  clear h
  induction hd with
  | refl => exact fun _ => id
  | tail _ hst ih =>
    obtain ⟨id, rfl⟩ := hst
    exact fun E hE => ih E (List.mem_of_mem_filter hE)

/-- The table `init_userrole` leaves for a project `p`: an active record names `p`, and no active
record goes. -/
theorem getUserroles_grant (t : List UserRole) (p : String) (row : UserRole)
    (hp : row.project_name = p) (ha : row.active = true) :
    (getUserroles t).Sublist
        (getUserroles (if (getUserroles t).any (·.project_name == p) then t else t ++ [row])) ∧
      ∃ x ∈ getUserroles (if (getUserroles t).any (·.project_name == p) then t else t ++ [row]),
        x.project_name = p := by
  by_cases h : (getUserroles t).any (·.project_name == p)
  · obtain ⟨x, hx, hxp⟩ := List.any_eq_true.1 h
    simp only [h, if_true]
    exact ⟨List.Sublist.refl _, x, hx, by simpa using hxp⟩
  · simp only [h, if_false, Bool.false_eq_true]
    refine ⟨getUserroles_insert_sublist t row, row, ?_, hp⟩
    simp [getUserroles, ha]

/-- A step that revokes no role keeps every project the registry holds owned. -/
theorem ServiceStep.owned {base : Base} (hadmin : quoteFree base.admin = true) {b : Branch}
    {l : Option RbacCall} {st st' : Tables} (h : ServiceStep base b l st st')
    (hl : ∀ c ∈ l, c.grants = true) (ho : st.Owned base) : st'.Owned base := by
  cases h with
  | @newProject _ _ utc u username d _ hutc huser hname _ hrun =>
    rcases RbacApi.newProject_tables hadmin hutc b u huser hname st with he | he <;>
      simp only [hrun] at he <;> subst he
    · exact ho
    · obtain ⟨hsub, hnamed⟩ := getUserroles_grant st.userroles (base.lower d.name)
        ⟨base.lower d.name, base.lower username, base.admin, some "system",
          some "creator of project, get admin by default.", some utc, none, none, none⟩ rfl rfl
      refine ho.of hsub fun E hE hp => ?_
      rcases Call.run_project Prod.mk.eta.symm hE hp with hE | ⟨d', hd, hq⟩
      · exact .inl hE
      · cases hd
        exact .inr (hq ▸ hnamed)
  | forward hr hres _ hrun =>
    refine ho.of (List.Sublist.refl _) fun E hE hp => .inl ?_
    rcases Call.run_project ((Request.run_of_resolve hres).symm.trans hrun) hE hp with
      hE | ⟨d, rfl, -⟩
    · exact hE
    · exact absurd (Request.resolve_createProject hres) (hr d)
  | delete hd =>
    exact ho.of (List.Sublist.refl _) fun E hE _ => .inl (deleteEntityHandler_entities hd E hE)
  | rbac hutc hargs hrun =>
    have hc := RbacCall.run_quoteFree hadmin hutc hargs hrun
    rw [if_pos (hl _ rfl)] at hc
    refine ho.of ?_ fun E hE _ => .inl hE
    rcases hc with rfl | ⟨row, -, rfl⟩
    · exact List.Sublist.refl _
    · exact getUserroles_insert_sublist _ row

theorem Tables.Init.owned {base : Base} {b : Branch} {st : Tables} (h : Tables.Init base b st) :
    st.Owned base := by
  cases h with
  | empty => intro E hE; cases hE
  | created =>
    intro E hE hp
    rcases Call.run_project Prod.mk.eta.symm hE hp with hE | ⟨d, hd, hq⟩
    · cases hE
    · cases hd
      refine ⟨_, List.mem_filter.2 ⟨List.mem_singleton_self _, rfl⟩, ?_⟩
      rw [hq]
      exact base.lower_global.symm

theorem serviceReachable_owned_of {base : Base} (hadmin : quoteFree base.admin = true)
    {b : Branch} {st : Tables} (h : ServiceReachable base b RbacCall.grants st) :
    st.Owned base := by
  induction h with
  | init h0 => exact h0.owned
  | step _ hs hl ih => exact hs.owned hadmin hl ih

/-- While no role is revoked, `new_project` of a name whose lowered form is that of a project the
registry holds adds no record, whether the project is the one it names or one whose name differs
only in case: the requester gets no role on it. -/
theorem newProject_held_grants_nothing {base : Base} (hadmin : quoteFree base.admin = true)
    {b : Branch} {st : Tables} (h : ServiceReachable base b RbacCall.grants st) {E : Entity}
    (hE : E ∈ st.store.entities) (hp : E.entity_type = .project) {d : ProjectDef}
    (hd : base.lower d.name = base.lower E.qualified_name) (hname : quoteFree d.name = true)
    {utc u username : String} (hutc : quoteFree utc = true) (huser : quoteFree username = true) :
    (RbacApi.newProject base utc b u username d st).1.userroles = st.userroles := by
  obtain ⟨x, hx, hxp⟩ := serviceReachable_owned_of hadmin h E hE hp
  have hany : (getUserroles st.userroles).any (·.project_name == base.lower d.name) = true :=
    List.any_eq_true.2 ⟨x, hx, by rw [hd, hxp]; exact beq_self_eq_true _⟩
  rcases RbacApi.newProject_tables hadmin hutc b u huser hname st with he | he <;> rw [he]
  rw [hany, if_pos rfl]

/-- The tables the two constructors leave, with `admin@example.com` the default admin. -/
def sampleInitTables : Tables :=
  ⟨((Call.createProject ⟨"global"⟩).run .sqlalchemy .empty "00000000-0000-4000-8000-000000000000").1,
    initAdmin sampleBase sampleTime "admin@example.com" []⟩

/-- The tables after `new_project("p1")` of `u1@example.com`. -/
def sampleServiceTables : Tables :=
  (RbacApi.newProject sampleBase sampleTime .sqlalchemy "00000000-0000-4000-8000-000000000001"
    "u1@example.com" ⟨"p1"⟩ sampleInitTables).1

set_option maxRecDepth 10000 in
theorem sampleServiceTables_reachable :
    ServiceReachable sampleBase .sqlalchemy RbacCall.grants sampleServiceTables :=
  (ServiceReachable.init (.created (by decide) (by decide))).step
    (@ServiceStep.newProject sampleBase .sqlalchemy sampleInitTables sampleServiceTables sampleTime
      "00000000-0000-4000-8000-000000000001" "u1@example.com" ⟨"p1"⟩ _ (by decide) (by decide)
      (by decide) (by decide) Prod.mk.eta.symm) (by decide)

set_option maxRecDepth 10000 in
/-- `new_project("P1")` of `u2@example.com` after `p1`: the registry creates the project `P1`, and
`userroles` stays as it was, so `u2@example.com` holds no role on it while the admin of `p1` does. -/
theorem newProject_held_grants_nothing_caseVariant :
    ServiceReachable sampleBase .sqlalchemy RbacCall.grants sampleServiceTables ∧
      (⟨"00000000-0000-4000-8000-000000000001", "p1", .project ⟨"p1"⟩⟩ : Entity) ∈
        sampleServiceTables.store.entities ∧
      (RbacApi.newProject sampleBase sampleTime .sqlalchemy "00000000-0000-4000-8000-000000000002"
        "u2@example.com" ⟨"P1"⟩ sampleServiceTables).1.userroles = sampleServiceTables.userroles :=
  have hE : (⟨"00000000-0000-4000-8000-000000000001", "p1", .project ⟨"p1"⟩⟩ : Entity) ∈
      sampleServiceTables.store.entities := by decide
  ⟨sampleServiceTables_reachable, hE,
    newProject_held_grants_nothing (by decide) sampleServiceTables_reachable hE rfl
      (by decide) (by decide) (by decide) (by decide)⟩

end FeathrRegistry
