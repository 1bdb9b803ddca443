import FeathrRegistry.SafeDelete

/-!
# FeathrRegistry.Lineage

The queries built on `_bfs`, and what they return.

On a graph with no cycle of the relationship, `_bfs` ends and finds what a path reaches; it
returns unless filling a row raises, as `_fill_entity` does on an anchor with no `Consumes` edge
(`bfs_reachable`, `getDependentEntities_unsourced_anchor`). In every store the SQLAlchemy branch
reaches, every entity `_bfs` finds fills, so `get_dependent_entities` and `get_lineage` of every
stored entity return (`lineageSides_total`). The upstream traversal of `get_lineage` finds the
stored entities that a chain of `Consumes` edges reaches; its downstream traversal finds those
that a chain of `Produces` edges reaches (`Store.bfs_ok`). Every `Consumes` edge is stored with its
`Produces` reverse, so `Y` is upstream of `X` exactly when `X` is downstream of `Y`
(`lineage_symmetric`).
-/

namespace FeathrRegistry

/-- On the SQLAlchemy branch, `_bfs` from any id over any relationship returns within one round
more than there are edges. -/
theorem bfs_total {s : Store} (h : Reachable .sqlalchemy s) (t : RelationshipType) (x : String) :
    ∃ fs conns, s.bfs (s.edges.length + 1) x t = some (.ok (fs, conns)) := by
  obtain ⟨conns, hl⟩ := bfs_terminates h t x
  obtain ⟨fs, hfs⟩ : ∃ fs, (s.rowsOf (Store.bfsIds x conns)).mapM
      (s.fillEntity s.entities.length) = .ok fs :=
    mapM_ok_iff.2 fun R hR => fillEntity_total h (Store.mem_rowsOf.1 hR).1
  refine ⟨fs, conns, ?_⟩
  simp only [Store.bfs, hl, Option.map_some', Store.getEntities, hfs, ok_bind]
  rfl

/-- `_bfs` from `x` over a relationship whose edges form no cycle. Its loop ends within one round
more than there are edges. Its connections are the stored edges of the relationship that leave an
id reachable from `x`; the ids it resolves are `x` and every id reachable from `x`; when it returns,
its entities are the stored rows under those ids. In every store the SQLAlchemy branch reaches,
`get_dependent_entities` of a name or id that resolves to a stored entity `E` returns the stored
entities, other than `E`, that a path of the relationship `E`'s type selects reaches. -/
theorem bfs_reachable {s : Store} {t : RelationshipType} (ha : s.Acyclic t) (x : String) :
    (∃ conns, s.bfsLoop t (s.edges.length + 1) [x] [] = some conns ∧
      (∀ e, e ∈ conns ↔ e ∈ s.edges ∧ e.conn_type = t ∧
        Relation.ReflTransGen (s.Linked t) x e.from_id) ∧
      ∀ y, y ∈ Store.bfsIds x conns ↔ Relation.ReflTransGen (s.Linked t) x y) ∧
    (∀ fuel fs conns, s.bfs fuel x t = some (.ok (fs, conns)) → ∀ E, E ∈ fs.map (·.entity) ↔
      E ∈ s.entities ∧ Relation.ReflTransGen (s.Linked t) x E.entity_id) ∧
    (Reachable .sqlalchemy s → ∀ E ∈ s.entities, s.getEntityId x = .ok E.entity_id →
      ∃ ds, s.getDependentEntities (s.edges.length + 1) x = some (.ok ds) ∧
        ∀ D, D ∈ ds.map (·.entity) ↔ D ∈ s.entities ∧ D.entity_id ≠ E.entity_id ∧
          Relation.TransGen (s.Linked (dependentRelation E.entity_type)) E.entity_id
            D.entity_id) := by
  obtain ⟨conns, hc⟩ := s.bfsLoop_acyclic ha x
  refine ⟨⟨conns, hc, fun e => Store.mem_conns hc, fun y => Store.mem_bfsIds hc⟩,
    fun _ _ _ hb => (Store.bfs_ok hb).2, fun hr E hE hid => ?_⟩
  obtain ⟨F, hF, hFE⟩ := getEntity_total hr hE
  obtain ⟨fs, conns, hb⟩ := bfs_total hr (dependentRelation F.entity.entity_type) E.entity_id
  have hsome : s.getDependentEntities (s.edges.length + 1) x =
      some (.ok (fs.filter (·.entity.entity_id != E.entity_id))) := by
    simp only [Store.getDependentEntities, hid, hF, hb, Option.map_some']
    rfl
  refine ⟨_, hsome, fun D => ?_⟩
  obtain ⟨id, F', hid', hF', hD⟩ := Store.getDependentEntities_ok hsome
  obtain rfl : E.entity_id = id := Except.ok.inj (hid.symm.trans hid')
  obtain rfl : F = F' := Except.ok.inj (hF.symm.trans hF')
  rw [hFE] at hD
  exact hD D

theorem bfs_reachable_scenario :
    (scenarioStore .sqlalchemy).Acyclic .produces ∧
      (∃ conns, (scenarioStore .sqlalchemy).bfsLoop .produces
        ((scenarioStore .sqlalchemy).edges.length + 1) ["00000000-0000-4000-8000-000000000002"] [] =
          some conns) ∧
      ∃ ds, (scenarioStore .sqlalchemy).getDependentEntities
        ((scenarioStore .sqlalchemy).edges.length + 1) "p1__s1" = some (.ok ds) :=
  have ha := reachable_acyclic (reachable_scenarioStore .sqlalchemy) .produces
  have hb := bfs_reachable ha "00000000-0000-4000-8000-000000000002"
  ⟨ha, hb.1.imp fun _ h => h.1,
    ((bfs_reachable ha "p1__s1").2.2 (reachable_scenarioStore _)
      ⟨"00000000-0000-4000-8000-000000000002", "p1__s1",
        .source ⟨"s1", "hdfs", "path", "", "ts", "epoch"⟩⟩ (by decide) rfl).imp fun _ h => h.1⟩

/-- A project with an anchor that has no `Consumes` edge, which no create call leaves: its
`Contains` edges form no cycle. -/
def unsourcedAnchorStore : Store :=
  ⟨[⟨"00000000-0000-4000-8000-000000000001", "p1", .project ⟨"p1"⟩⟩,
    ⟨"00000000-0000-4000-8000-000000000003", "p1__a1",
      .anchor ⟨"a1", ⟨"00000000-0000-4000-8000-000000000002", .source, "p1__s1"⟩⟩⟩],
   [⟨"00000000-0000-4000-8000-000000000001", "00000000-0000-4000-8000-000000000003", .contains⟩,
    ⟨"00000000-0000-4000-8000-000000000003", "00000000-0000-4000-8000-000000000001",
      .belongsTo⟩]⟩

/-- In `unsourcedAnchorStore`, whose `Contains` edges form no cycle, `get_dependent_entities` of the
project raises `IndexError`: `_bfs` reaches the anchor, and `_fill_entity` indexes its missing
`Consumes` edge. -/
theorem getDependentEntities_unsourced_anchor :
    unsourcedAnchorStore.Acyclic .contains ∧
      unsourcedAnchorStore.getDependentEntities (unsourcedAnchorStore.edges.length + 1)
        "00000000-0000-4000-8000-000000000001" = some (.error .indexError) := by
  refine ⟨acyclic_of_into (R := fun _ _ => False) (x := "00000000-0000-4000-8000-000000000003")
    (fun a h => (Relation.TransGen.head'_iff.1 h).elim fun _ h => h.1) (fun a c h => .inr ?_)
    (fun c h => ?_), rfl⟩
  all_goals simp [Store.Linked, unsourcedAnchorStore] at h
  exact h.2

/-- On the SQLAlchemy branch, `get_lineage` of every stored entity returns both traversals. -/
theorem lineageSides_total {s : Store} (h : Reachable .sqlalchemy s) {X : Entity}
    (hX : X ∈ s.entities) :
    ∃ fu cu fd cd, s.lineageSides (s.edges.length + 1) X.entity_id =
        some (.ok ((fu, cu), (fd, cd))) ∧
      s.bfs (s.edges.length + 1) X.entity_id .consumes = some (.ok (fu, cu)) ∧
      s.bfs (s.edges.length + 1) X.entity_id .produces = some (.ok (fd, cd)) := by
  obtain ⟨fu, cu, hu⟩ := bfs_total h .consumes X.entity_id
  obtain ⟨fd, cd, hd⟩ := bfs_total h .produces X.entity_id
  refine ⟨fu, cu, fd, cd, ?_, hu, hd⟩
  simp only [Store.lineageSides, Store.getEntityId_of_toUuid (reachable_rows_uuid h X hX), hu, hd]

/-- A chain of `Consumes` edges from `x` to `y` is a chain of `Produces` edges from `y` to `x`. -/
theorem reflTransGen_consumes_iff {b : Branch} {s : Store} (h : Reachable b s) {x y : String} :
    Relation.ReflTransGen (s.Linked .consumes) x y ↔
      Relation.ReflTransGen (s.Linked .produces) y x := by
  have hp := reachable_paired h
  rw [← Relation.reflTransGen_swap]
  exact ⟨fun h => h.mono fun a c hca => hp ⟨c, a, .consumes⟩ hca,
    fun h => h.mono fun a c hac => hp ⟨a, c, .produces⟩ hac⟩

/-- On the SQLAlchemy branch, for all stored `X` and `Y`, `get_lineage(X)` and `get_lineage(Y)`
return, and `Y` is among the upstream entities of `X` exactly when `X` is among the downstream
entities of `Y`. -/
theorem lineage_symmetric {s : Store} (h : Reachable .sqlalchemy s) {X Y : Entity}
    (hX : X ∈ s.entities) (hY : Y ∈ s.entities) :
    ∃ upX downX upY downY,
      s.lineageSides (s.edges.length + 1) X.entity_id = some (.ok (upX, downX)) ∧
      s.lineageSides (s.edges.length + 1) Y.entity_id = some (.ok (upY, downY)) ∧
      (Y ∈ upX.1.map (·.entity) ↔ X ∈ downY.1.map (·.entity)) := by
  obtain ⟨fu, cu, fd, cd, hX', huX, -⟩ := lineageSides_total h hX
  obtain ⟨fu', cu', fd', cd', hY', -, hdY⟩ := lineageSides_total h hY
  refine ⟨_, _, _, _, hX', hY', ?_⟩
  rw [(Store.bfs_ok huX).2, (Store.bfs_ok hdY).2, reflTransGen_consumes_iff h]
  exact and_congr (iff_of_true hY hX) Iff.rfl

theorem lineage_symmetric_scenario :
    Reachable .sqlalchemy (scenarioStore .sqlalchemy) ∧
      (⟨"00000000-0000-4000-8000-000000000003", "p1__a1",
          .anchor ⟨"a1", ⟨"00000000-0000-4000-8000-000000000002", .source, "p1__s1"⟩⟩⟩ : Entity) ∈
        (scenarioStore .sqlalchemy).entities ∧
      (⟨"00000000-0000-4000-8000-000000000002", "p1__s1",
          .source ⟨"s1", "hdfs", "path", "", "ts", "epoch"⟩⟩ : Entity) ∈
        (scenarioStore .sqlalchemy).entities ∧
      ∃ upX downX upY downY,
        (scenarioStore .sqlalchemy).lineageSides ((scenarioStore .sqlalchemy).edges.length + 1)
          "00000000-0000-4000-8000-000000000003" = some (.ok (upX, downX)) ∧
        (scenarioStore .sqlalchemy).lineageSides ((scenarioStore .sqlalchemy).edges.length + 1)
          "00000000-0000-4000-8000-000000000002" = some (.ok (upY, downY)) ∧
        ((⟨"00000000-0000-4000-8000-000000000002", "p1__s1",
            .source ⟨"s1", "hdfs", "path", "", "ts", "epoch"⟩⟩ : Entity) ∈ upX.1.map (·.entity) ↔
          (⟨"00000000-0000-4000-8000-000000000003", "p1__a1",
            .anchor ⟨"a1", ⟨"00000000-0000-4000-8000-000000000002", .source, "p1__s1"⟩⟩⟩ : Entity) ∈
            downY.1.map (·.entity)) :=
  ⟨reachable_scenarioStore _, by decide, by decide,
    lineage_symmetric (reachable_scenarioStore _)
      (X := ⟨"00000000-0000-4000-8000-000000000003", "p1__a1",
        .anchor ⟨"a1", ⟨"00000000-0000-4000-8000-000000000002", .source, "p1__s1"⟩⟩⟩)
      (Y := ⟨"00000000-0000-4000-8000-000000000002", "p1__s1",
        .source ⟨"s1", "hdfs", "path", "", "ts", "epoch"⟩⟩) (by decide) (by decide)⟩

end FeathrRegistry
