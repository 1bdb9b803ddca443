import FeathrRegistry.Atomicity

/-!
# FeathrRegistry.RawSql

The anchor row of the raw-SQL branch. Its `create_project_anchor` inserts the row under
`str(id)`, the text of Python's builtin `id` (`builtinIdStr`), not under the `entity_id` it drew,
while the edges it inserts next and the id it returns use `entity_id`. So:

* the two branches leave different tables after the same call (`createProjectAnchor_row_id`);
* `get_entity` of the row's own id raises `KeyError`: `get_entity_id` does not parse it as a
  UUID and finds no entity of that name (`getEntity_raw_anchor`);
* once an entity is named `<built-in function id>`, every lookup of the row's id resolves to
  that entity, and `get_lineage` of the anchor reports it upstream while its own lineage does
  not report the anchor downstream (`lineageSides_name_clash`).
-/

namespace FeathrRegistry

/-- The same `create_project_anchor` call in the same store: both branches return the drawn
id, but the raw-SQL branch stores the row under `<built-in function id>`. -/
theorem createProjectAnchor_row_id :
    (Call.createProjectAnchor "00000000-0000-4000-8000-000000000001"
        ⟨"a2", "00000000-0000-4000-8000-000000000002"⟩).run .sqlalchemy
        (scenarioStore .sqlalchemy) "00000000-0000-4000-8000-000000000006" =
      (⟨(scenarioStore .sqlalchemy).entities ++
          [⟨"00000000-0000-4000-8000-000000000006", "p1__a2",
            .anchor ⟨"a2", ⟨"00000000-0000-4000-8000-000000000002", .source, "p1__s1"⟩⟩⟩],
        (scenarioStore .sqlalchemy).edges ++
          [⟨"00000000-0000-4000-8000-000000000001", "00000000-0000-4000-8000-000000000006",
              .contains⟩,
            ⟨"00000000-0000-4000-8000-000000000006", "00000000-0000-4000-8000-000000000001",
              .belongsTo⟩,
            ⟨"00000000-0000-4000-8000-000000000006", "00000000-0000-4000-8000-000000000002",
              .consumes⟩,
            ⟨"00000000-0000-4000-8000-000000000002", "00000000-0000-4000-8000-000000000006",
              .produces⟩]⟩,
        .ok "00000000-0000-4000-8000-000000000006") ∧
    (Call.createProjectAnchor "00000000-0000-4000-8000-000000000001"
        ⟨"a2", "00000000-0000-4000-8000-000000000002"⟩).run .rawSql
        (scenarioStore .sqlalchemy) "00000000-0000-4000-8000-000000000006" =
      (⟨(scenarioStore .sqlalchemy).entities ++
          [⟨builtinIdStr, "p1__a2",
            .anchor ⟨"a2", ⟨"00000000-0000-4000-8000-000000000002", .source, "p1__s1"⟩⟩⟩],
        (scenarioStore .sqlalchemy).edges ++
          [⟨"00000000-0000-4000-8000-000000000001", "00000000-0000-4000-8000-000000000006",
              .contains⟩,
            ⟨"00000000-0000-4000-8000-000000000006", "00000000-0000-4000-8000-000000000001",
              .belongsTo⟩,
            ⟨"00000000-0000-4000-8000-000000000006", "00000000-0000-4000-8000-000000000002",
              .consumes⟩,
            ⟨"00000000-0000-4000-8000-000000000002", "00000000-0000-4000-8000-000000000006",
              .produces⟩]⟩,
        .ok "00000000-0000-4000-8000-000000000006") :=
  ⟨rfl, rfl⟩

/-- The anchor `a1` of the raw-SQL scenario store cannot be fetched by its own id. -/
theorem getEntity_raw_anchor :
    Reachable .rawSql (scenarioStore .rawSql) ∧
      (⟨builtinIdStr, "p1__a1",
          .anchor ⟨"a1", ⟨"00000000-0000-4000-8000-000000000002", .source, "p1__s1"⟩⟩⟩ : Entity) ∈
        (scenarioStore .rawSql).entities ∧
      (scenarioStore .rawSql).getEntity builtinIdStr =
        .error (.keyError "Entity <built-in function id> not found") :=
  ⟨reachable_scenarioStore _, by decide, rfl⟩

/-- The raw-SQL scenario store with a project named after the anchor row's id. -/
def nameClashStore : Store :=
  runCalls .rawSql [(.createProject ⟨builtinIdStr⟩, "00000000-0000-4000-8000-000000000006")]
    (scenarioStore .rawSql)

/-- In `nameClashStore`, the upstream traversal of `get_lineage` from the anchor row's id finds
the project `<built-in function id>`; the downstream traversal from the project finds only the
project. -/
theorem lineageSides_name_clash :
    Reachable .rawSql nameClashStore ∧
      (⟨builtinIdStr, "p1__a1",
          .anchor ⟨"a1", ⟨"00000000-0000-4000-8000-000000000002", .source, "p1__s1"⟩⟩⟩ : Entity) ∈
        nameClashStore.entities ∧
      (⟨"00000000-0000-4000-8000-000000000006", builtinIdStr, .project ⟨builtinIdStr⟩⟩ : Entity) ∈
        nameClashStore.entities ∧
      ∀ fuel, nameClashStore.lineageSides (fuel + 1) builtinIdStr =
          some (.ok (([.project ⟨"00000000-0000-4000-8000-000000000006", builtinIdStr,
              .project ⟨builtinIdStr⟩⟩ []], []),
            ([.project ⟨"00000000-0000-4000-8000-000000000006", builtinIdStr,
              .project ⟨builtinIdStr⟩⟩ []], []))) ∧
        nameClashStore.lineageSides (fuel + 1) "00000000-0000-4000-8000-000000000006" =
          some (.ok (([.project ⟨"00000000-0000-4000-8000-000000000006", builtinIdStr,
              .project ⟨builtinIdStr⟩⟩ []], []),
            ([.project ⟨"00000000-0000-4000-8000-000000000006", builtinIdStr,
              .project ⟨builtinIdStr⟩⟩ []], []))) :=
  ⟨(reachable_scenarioStore _).runCalls (by decide), by decide, by decide, fun _ => ⟨rfl, rfl⟩⟩

end FeathrRegistry
