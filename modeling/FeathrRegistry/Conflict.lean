import FeathrRegistry.Names

/-!
# FeathrRegistry.Conflict

Re-creation: a create call whose computed qualified name a stored entity `E` already holds.

`Call.run_of_held`: on the SQLAlchemy branch, such a call writes nothing. It returns `E`'s id
when the call's own comparison accepts `E`'s attributes, and raises `ConflictError` otherwise.
Each call compares its own fields (`Call.same`): `create_project` accepts any project,
`create_project_anchor` only the name, `create_project_derived_feature` everything but the
inputs. So a re-creation that differs from `E` only in an anchor's source, or in a derived
feature's inputs, returns `E`'s id (`createProjectAnchor_other_source`).

`conflict_of_held`: on the SQLAlchemy branch `ConflictError` comes from nowhere else. The lookups,
the checks and the statements of a call raise other errors. (On the raw-SQL branch SQL Server's
`=` also finds a row whose name differs from the derived one in trailing spaces, or in case under
a case-insensitive collation; see `findExisting`.) But the derived name
`parent.qualified_name + '__' + name` is no injective function of the parent and the name: the
datasource `c` of project `a__b` and the datasource `b__c` of project `a` share the name
`a__b__c` (`createProjectDatasource_prefix_clash`).
-/

namespace FeathrRegistry

/-- The qualified name each create call computes from the entity it is created under. -/
def Call.qualifiedName (s : Store) : Call → Except Err String
  | .createProject d => .ok d.name
  | .createProjectDatasource p d => do
    let project ← s.getEntity p
    pure (project.entity.qualified_name ++ "__" ++ d.name)
  | .createProjectAnchor p d => do
    let project ← s.getEntity p
    pure (project.entity.qualified_name ++ "__" ++ d.name)
  | .createProjectAnchorFeature _ a d => do
    let anchor ← s.getEntity a
    pure (anchor.entity.qualified_name ++ "__" ++ d.name)
  | .createProjectDerivedFeature p d => do
    let project ← s.getEntity p
    pure (project.entity.qualified_name ++ "__" ++ d.name)

/-- The comparison each create call makes against the row holding its name. -/
def Call.same : Call → Attributes → Bool
  | .createProject _ => sameProject
  | .createProjectDatasource _ d => sameSource d
  | .createProjectAnchor _ d => sameAnchor d
  | .createProjectAnchorFeature _ _ d => sameAnchorFeature d
  | .createProjectDerivedFeature _ d => sameDerivedFeature d

/-- The scenario's anchor `p1__a1` reads `s1`; re-creating it over `s2` returns its id. -/
theorem createProjectAnchor_other_source :
    (Call.createProjectAnchor "00000000-0000-4000-8000-000000000001"
        ⟨"a1", "00000000-0000-4000-8000-000000000005"⟩).run .sqlalchemy
        (scenarioStore .sqlalchemy) "00000000-0000-4000-8000-000000000006" =
      (scenarioStore .sqlalchemy, .ok "00000000-0000-4000-8000-000000000003") ∧
    ∃ E ∈ (scenarioStore .sqlalchemy).entities, E.qualified_name = "p1__a1" ∧
      E.attributes ≠ .anchor (AnchorDef.toAttr ⟨"a1", "00000000-0000-4000-8000-000000000005"⟩
        ⟨"00000000-0000-4000-8000-000000000005", .source, "p1__s2"⟩) :=
  ⟨rfl, by decide⟩

/-! ## Where `ConflictError` comes from -/

theorem bind_eq_error {α β : Type} {x : Except Err α} {f : α → Except Err β} {e : Err}
    (h : (x >>= f) = .error e) : x = .error e ∨ ∃ a, x = .ok a ∧ f a = .error e := by
  cases x with
  | error e' => cases h; exact .inl rfl
  | ok a => exact .inr ⟨a, rfl, h⟩

section NoConflict

variable {s : Store} {m : String}

theorem Store.getEntityRow_ne_conflict {x : String} : s.getEntityRow x ≠ .error (.conflictError m) := by
  intro h
  rcases bind_eq_error h with h | ⟨id, -, h⟩
  · unfold Store.getEntityId at h
    split at h
    · cases h
    · split at h <;> cases h
  · split at h <;> cases h

theorem Store.fillWith_ne_conflict {f : Entity → Except Err Filled}
    (hf : ∀ E, f E ≠ .error (.conflictError m)) (E : Entity) :
    s.fillWith f E ≠ .error (.conflictError m) := by
  intro h
  unfold Store.fillWith at h
  split at h
  · cases h
  · split at h
    · cases h
    · rcases bind_eq_error h with h | ⟨src, -, h⟩
      · exact Store.getEntityRow_ne_conflict h
      · rcases bind_eq_error h with h | ⟨F, -, h⟩
        · exact hf _ h
        · cases h
  · cases h
  · cases h

theorem Store.fillEntity_ne_conflict : ∀ (n : Nat) (E : Entity),
    s.fillEntity n E ≠ .error (.conflictError m)
  | 0, E => Store.fillWith_ne_conflict (fun _ h => by cases h) E
  | n + 1, E => Store.fillWith_ne_conflict (Store.fillEntity_ne_conflict n) E

theorem Store.getEntity_ne_conflict {x : String} : s.getEntity x ≠ .error (.conflictError m) := by
  intro h
  rcases bind_eq_error h with h | ⟨E, -, h⟩
  · exact Store.getEntityRow_ne_conflict h
  · exact Store.fillEntity_ne_conflict _ _ h

/-- The statements of a call fail with `IntegrityError` only. -/
theorem runWrites_error : ∀ {ws : List Write} {s s' : Store} {e : Err},
    runWrites none ws s = (s', some e) → e = .integrityError
  | [], _, _, _, h => by rw [runWrites_nil] at h; cases h
  | w :: ws, s, _, _, h => by
    rw [runWrites_cons_none] at h
    cases hw : w.apply s with
    | ok s1 => rw [hw] at h; exact runWrites_error h
    | error e' =>
      rw [hw] at h
      cases h
      cases w with
      | insertEntity E =>
        simp only [Write.apply] at hw
        split at hw <;> cases hw
        rfl
      | _ => cases hw

end NoConflict

theorem findExisting_conflict {s : Store} {q : String} {same : Attributes → Bool} {m : String}
    (h : findExisting s q same = .error (.conflictError m)) :
    ∃ E ∈ s.entities, E.qualified_name = q ∧ same E.attributes = false := by
  unfold findExisting at h
  split at h
  · cases h
  · rename_i r hr
    split at h
    · split at h <;> cases h
    · rename_i hs
      obtain ⟨hr', hq⟩ := List.mem_filter.1 (hr ▸ List.mem_singleton_self r)
      exact ⟨r, hr', by simpa using hq, by simpa using hs⟩
  · cases h

/-- The tail every create call shares raises `ConflictError` from the row holding the name, or
from what it does after finding the name free. -/
theorem findExisting_bind_conflict {s : Store} {q : String} {same : Attributes → Bool}
    {insert : Except Err (List Write × String)} {m : String}
    (h : (findExisting s q same >>= fun o => match o with
      | some id => pure ([], id)
      | none => insert) = .error (.conflictError m)) :
    (∃ E ∈ s.entities, E.qualified_name = q ∧ same E.attributes = false) ∨
      insert = .error (.conflictError m) := by
  rcases bind_eq_error h with h | ⟨o, -, h⟩
  · exact .inl (findExisting_conflict h)
  · cases o with
    | some id => cases h
    | none => exact .inr h

theorem Call.plan_conflict {b : Branch} {s : Store} {u : String} {c : Call} {m : String}
    (h : c.plan b s u = .error (.conflictError m)) :
    ∃ E ∈ s.entities, c.qualifiedName s = .ok E.qualified_name ∧ c.same E.attributes = false := by
  cases c with
  | createProject d =>
    rcases findExisting_bind_conflict h with ⟨E, hE, hq, hs⟩ | h
    · exact ⟨E, hE, by rw [hq]; rfl, hs⟩
    · cases h
  | createProjectDatasource p d | createProjectAnchor p d | createProjectAnchorFeature _ p d
  | createProjectDerivedFeature p d =>
    rcases bind_eq_error h with h | ⟨P, hP, h⟩
    · exact absurd h Store.getEntity_ne_conflict
    · rcases findExisting_bind_conflict h with ⟨E, hE, hq, hs⟩ | h
      · refine ⟨E, hE, ?_, hs⟩
        simp only [Call.qualifiedName, hP, ok_bind, hq]
        rfl
      · simp only [pure, Except.pure] at h
        repeat' split at h
        all_goals cases h

/-- On the SQLAlchemy branch, a create call raises `ConflictError` only when a stored entity holds
the qualified name the call derives and the call's own comparison rejects that entity's
attributes; the store stays as it was. -/
theorem conflict_of_held {s s' : Store} {u : String} {c : Call} {m : String}
    (hr : c.run .sqlalchemy s u = (s', .error (.conflictError m))) :
    s' = s ∧ ∃ E ∈ s.entities, c.qualifiedName s = .ok E.qualified_name ∧
      c.same E.attributes = false := by
  unfold Call.run commit at hr
  split at hr
  · rename_i e he
    cases hr
    exact ⟨rfl, Call.plan_conflict he⟩
  · split at hr
    · cases hr
    · rename_i hw
      cases hr
      cases runWrites_error hw

/-- The SQLAlchemy scenario store after `POST /projects` creates `a`, the datasource `b__c` is
created under `a`, and `POST /projects` creates `a__b`. -/
def prefixClashStore : Store :=
  runCalls .sqlalchemy
    [(.createProject ⟨"a"⟩, "00000000-0000-4000-8000-000000000006"),
     (.createProjectDatasource "00000000-0000-4000-8000-000000000006"
        ⟨"b__c", "hdfs", "path", "", "ts", "epoch"⟩, "00000000-0000-4000-8000-000000000007"),
     (.createProject ⟨"a__b"⟩, "00000000-0000-4000-8000-000000000008")]
    (scenarioStore .sqlalchemy)

theorem conflict_of_held_prefixClash :
    (Call.createProjectDatasource "00000000-0000-4000-8000-000000000008"
        ⟨"c", "hdfs", "path", "", "ts", "epoch"⟩).run .sqlalchemy prefixClashStore
        "00000000-0000-4000-8000-000000000009" =
      (prefixClashStore, .error (.conflictError "Entity a__b__c already exists")) ∧
    prefixClashStore = prefixClashStore ∧ ∃ E ∈ prefixClashStore.entities,
      (Call.createProjectDatasource "00000000-0000-4000-8000-000000000008"
        ⟨"c", "hdfs", "path", "", "ts", "epoch"⟩).qualifiedName prefixClashStore =
          .ok E.qualified_name ∧
      (Call.createProjectDatasource "00000000-0000-4000-8000-000000000008"
        ⟨"c", "hdfs", "path", "", "ts", "epoch"⟩).same E.attributes = false :=
  ⟨rfl, conflict_of_held (u := "00000000-0000-4000-8000-000000000009") rfl⟩

/-- Creating the datasource `c` under `a__b` raises `ConflictError`. The name `a__b__c` is held by
the datasource `b__c`, which belongs to `a`; no stored entity belongs to `a__b`. -/
theorem createProjectDatasource_prefix_clash :
    ApiReachable .sqlalchemy prefixClashStore ∧
      (Call.createProjectDatasource "00000000-0000-4000-8000-000000000008"
          ⟨"c", "hdfs", "path", "", "ts", "epoch"⟩).run .sqlalchemy prefixClashStore
          "00000000-0000-4000-8000-000000000009" =
        (prefixClashStore, .error (.conflictError "Entity a__b__c already exists")) ∧
      (⟨"00000000-0000-4000-8000-000000000007", "a__b__c",
          .source ⟨"b__c", "hdfs", "path", "", "ts", "epoch"⟩⟩ : Entity) ∈
        prefixClashStore.entities ∧
      (⟨"00000000-0000-4000-8000-000000000007", "00000000-0000-4000-8000-000000000006",
          .belongsTo⟩ : Edge) ∈ prefixClashStore.edges ∧
      ∀ e ∈ prefixClashStore.edges, e.conn_type = .belongsTo →
        e.to_id ≠ "00000000-0000-4000-8000-000000000008" :=
  ⟨(apiReachable_scenarioStore _).runCalls (by decide), rfl, by decide, by decide, by decide⟩

end FeathrRegistry
