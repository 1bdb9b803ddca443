import FeathrRegistry.Api
import Mathlib.Data.List.Nodup

/-!
# FeathrRegistry.Names

Qualified names and row ids in reachable stores.

`orm.Entities` declares no unique constraint on `qualified_name`: what keeps it unique is the
check each create call makes before it inserts (`findExisting`), and deleting rows cannot break
it. `entity_id` is the primary key, so an insert under a taken id fails before it writes.
-/

namespace FeathrRegistry

/-- A row appended under a value no row has keeps the values of a column distinct. -/
theorem nodup_map_append {f : Entity → String} {l : List Entity} {e : Entity}
    (hl : (l.map f).Nodup) (he : ∀ x ∈ l, f x ≠ f e) : ((l ++ [e]).map f).Nodup := by
  rw [List.map_append, List.nodup_append]
  exact ⟨hl, List.nodup_singleton _, by simpa [List.disjoint_singleton] using he⟩

/-- Under distinct values of `f`, the first row with `f`'s value at `E` is `E`. -/
theorem find?_of_nodup_map {f : Entity → String} {l : List Entity} {E : Entity}
    (hl : (l.map f).Nodup) (hE : E ∈ l) : l.find? (fun e => f e == f E) = some E := by
  cases hf : l.find? (fun e => f e == f E) with
  | none => exact absurd (List.find?_eq_none.1 hf E hE) (by simp)
  | some a =>
    have ha := List.find?_some hf
    rw [List.inj_on_of_nodup_map hl (List.mem_of_find?_eq_some hf) hE (eq_of_beq ha)]

theorem nodup_map_filter {f : Entity → String} {l : List Entity} {p : Entity → Bool}
    (hl : (l.map f).Nodup) : ((l.filter p).map f).Nodup :=
  hl.sublist ((List.filter_sublist _).map _)

theorem names_nodup {b : Branch} {s : Store} (h : Reachable b s) :
    (s.entities.map (·.qualified_name)).Nodup :=
  h.induction_on (by simp [Store.empty])
    (fun _ _ _ _ _ hs _ _ hq _ => nodup_map_append hs hq)
    (fun _ _ hs => nodup_map_filter hs)

/-- No two rows of `entities` have the same qualified name, whatever their entity types. -/
theorem qualified_name_unique {b : Branch} {s : Store} (h : Reachable b s) :
    (s.entities.map (·.qualified_name)).Nodup :=
  names_nodup h

theorem qualified_name_unique_scenario :
    Reachable .sqlalchemy (scenarioStore .sqlalchemy) ∧
      ((scenarioStore .sqlalchemy).entities.map (·.qualified_name)).Nodup :=
  ⟨reachable_scenarioStore _, qualified_name_unique (reachable_scenarioStore _)⟩

/-- No two rows of `entities` have the same id. -/
theorem entity_id_unique {b : Branch} {s : Store} (h : Reachable b s) :
    (s.entities.map (·.entity_id)).Nodup :=
  h.induction_on (by simp [Store.empty])
    (fun _ _ _ _ _ hs _ _ _ hid => nodup_map_append hs hid)
    (fun _ _ hs => nodup_map_filter hs)

/-! ## Names as path parameters -/

/-- In every reachable store, a stored entity's qualified name that is not in UUID form resolves
to the entity: `get_entity_id` gives its id, and `_get_entity` its row. -/
theorem getEntityId_qualifiedName {b : Branch} {s : Store} (h : Reachable b s) {E : Entity}
    (hE : E ∈ s.entities) (hq : toUuid E.qualified_name = none) :
    s.getEntityId E.qualified_name = .ok E.entity_id ∧ s.getEntityRow E.qualified_name = .ok E := by
  have hid : s.getEntityId E.qualified_name = .ok E.entity_id := by
    simp only [Store.getEntityId, hq, find?_of_nodup_map (names_nodup h) hE]
  refine ⟨hid, ?_⟩
  simp only [Store.getEntityRow, hid, ok_bind, find?_of_nodup_map (entity_id_unique h) hE]

theorem getEntityId_qualifiedName_scenario :
    Reachable .sqlalchemy (scenarioStore .sqlalchemy) ∧
      (⟨"00000000-0000-4000-8000-000000000002", "p1__s1",
          .source ⟨"s1", "hdfs", "path", "", "ts", "epoch"⟩⟩ : Entity) ∈
        (scenarioStore .sqlalchemy).entities ∧ toUuid "p1__s1" = none ∧
      (scenarioStore .sqlalchemy).getEntityId "p1__s1" = .ok "00000000-0000-4000-8000-000000000002" ∧
      (scenarioStore .sqlalchemy).getEntityRow "p1__s1" =
        .ok ⟨"00000000-0000-4000-8000-000000000002", "p1__s1",
          .source ⟨"s1", "hdfs", "path", "", "ts", "epoch"⟩⟩ :=
  ⟨reachable_scenarioStore _, by decide, by decide,
    getEntityId_qualifiedName (reachable_scenarioStore _) (E := ⟨"00000000-0000-4000-8000-000000000002",
      "p1__s1", .source ⟨"s1", "hdfs", "path", "", "ts", "epoch"⟩⟩) (by decide) (by decide)⟩

/-- The SQLAlchemy scenario store after `POST /projects` creates a project whose name is in UUID
form. -/
def uuidNamedStore : Store :=
  runCalls .sqlalchemy
    [(.createProject ⟨"00000000-0000-4000-8000-0000000000ff"⟩, "00000000-0000-4000-8000-000000000006")]
    (scenarioStore .sqlalchemy)

/-- The project's name resolves to itself, not to the project's id, and `_get_entity` of the name
raises `KeyError`. -/
theorem getEntityId_uuid_name :
    ApiReachable .sqlalchemy uuidNamedStore ∧
      (⟨"00000000-0000-4000-8000-000000000006", "00000000-0000-4000-8000-0000000000ff",
          .project ⟨"00000000-0000-4000-8000-0000000000ff"⟩⟩ : Entity) ∈ uuidNamedStore.entities ∧
      uuidNamedStore.getEntityId "00000000-0000-4000-8000-0000000000ff" =
        .ok "00000000-0000-4000-8000-0000000000ff" ∧
      uuidNamedStore.getEntityRow "00000000-0000-4000-8000-0000000000ff" =
        .error (.keyError "Entity 00000000-0000-4000-8000-0000000000ff not found") :=
  ⟨(apiReachable_scenarioStore _).runCalls (by decide), by decide, rfl, rfl⟩

/-! ## Project listings -/

/-- The project rows, which `get_projects` and `get_projects_ids` select. -/
def Store.projectRows (s : Store) : List Entity :=
  s.entities.filter (·.entity_type == .project)

/-- `get_projects`: the qualified names of the project rows. -/
def Store.getProjects (s : Store) : List String := s.projectRows.map (·.qualified_name)

/-- `projects[k] = v`, on a dict held as its items in insertion order. -/
def dictSet (d : List (String × String)) (k v : String) : List (String × String) :=
  if d.any (·.1 == k) then d.map fun kv => if kv.1 == k then (k, v) else kv else d ++ [(k, v)]

/-- `get_projects_ids`: `projects[r['entity_id']] = r['qualified_name']` for each project row. -/
def Store.getProjectsIds (s : Store) : List (String × String) :=
  s.projectRows.foldl (fun d r => dictSet d r.entity_id r.qualified_name) []

/-- Rows of distinct ids, none an id of the dict already, are each added as a new item. -/
theorem foldl_dictSet : ∀ {rows : List Entity} (acc : List (String × String)),
    (rows.map (·.entity_id)).Nodup → (∀ kv ∈ acc, ∀ r ∈ rows, kv.1 ≠ r.entity_id) →
      rows.foldl (fun d r => dictSet d r.entity_id r.qualified_name) acc =
        acc ++ rows.map fun r => (r.entity_id, r.qualified_name)
  | [], acc, _, _ => by simp
  | r :: rows, acc, hnd, hacc => by
    rw [List.map_cons, List.nodup_cons] at hnd
    have hnew : acc.any (·.1 == r.entity_id) = false := by
      simpa using fun kv hkv => hacc kv hkv r (List.mem_cons_self _ _)
    rw [List.foldl_cons, dictSet, hnew, if_neg Bool.false_ne_true,
      foldl_dictSet _ hnd.2 fun kv hkv r' hr' => ?_]
    · simp
    · rcases List.mem_append.1 hkv with hkv | hkv
      · exact hacc kv hkv r' (List.mem_cons_of_mem _ hr')
      · rw [List.mem_singleton.1 hkv]
        exact fun he : r.entity_id = r'.entity_id => hnd.1 (he ▸ List.mem_map_of_mem _ hr')

/-- In every reachable store the two project listings agree: `get_projects_ids` holds one item
per project row, no id replacing another, its names are those of `get_projects` in order and
without repetition, and each name not in UUID form resolves through `get_entity_id` to the id it
is listed with. -/
theorem projectListings_agree {b : Branch} {s : Store} (h : Reachable b s) :
    s.getProjectsIds.map Prod.snd = s.getProjects ∧ s.getProjects.Nodup ∧
      ∀ kv ∈ s.getProjectsIds, toUuid kv.2 = none → s.getEntityId kv.2 = .ok kv.1 := by
  have hids : s.getProjectsIds = s.projectRows.map fun r => (r.entity_id, r.qualified_name) :=
    foldl_dictSet [] (nodup_map_filter (entity_id_unique h)) (by simp)
  refine ⟨by simp [hids, Store.getProjects], nodup_map_filter (names_nodup h), ?_⟩
  rw [hids]
  intro kv hkv hq
  obtain ⟨E, hE, rfl⟩ := List.mem_map.1 hkv
  simp only [Store.getEntityId, hq,
    find?_of_nodup_map (names_nodup h) (List.mem_filter.1 hE).1]

theorem projectListings_agree_scenario :
    Reachable .sqlalchemy (scenarioStore .sqlalchemy) ∧
      ((scenarioStore .sqlalchemy).getProjectsIds.map Prod.snd =
          (scenarioStore .sqlalchemy).getProjects ∧
        (scenarioStore .sqlalchemy).getProjects.Nodup ∧
        ∀ kv ∈ (scenarioStore .sqlalchemy).getProjectsIds, toUuid kv.2 = none →
          (scenarioStore .sqlalchemy).getEntityId kv.2 = .ok kv.1) :=
  ⟨reachable_scenarioStore _, projectListings_agree (reachable_scenarioStore _)⟩

end FeathrRegistry
