import FeathrRegistry.Api
import FeathrRegistry.Graph
import FeathrRegistry.Names

/-!
# FeathrRegistry.Typing

The types of the entities an edge joins, in reachable stores.

The create calls check the entities they read upstream: an anchor's source is a `Source`, an
anchor feature's anchor is an `Anchor`, a derived feature's inputs are features. They never check
the type of the entity they are created under, and `create_project_anchor_feature` does not even
look its project up. So a `Contains` edge may start at an entity of any type. Its target, the
entity the call created, is never a project. `Consumes` edges join the types the checks allow
(`edges_typed`).

Nor do the ends of an edge always name stored entities. The SQLAlchemy branch deletes no edge,
and the raw-SQL anchor row is stored under another id than its edges use
(`edge_schema_violations`).

The argument runs over the ends of an edge. Every edge has a *child* end, the id the creating call
drew, which is in UUID form. The other end is the owner or the upstream entity. An upstream id is
that of a stored entity of a checked type, and is in UUID form too. A new row takes a fresh id,
which no edge names, or, on the raw-SQL branch, `<built-in function id>`, which is no UUID and so
is neither a child end nor an upstream end.
-/

namespace FeathrRegistry

/-! ## The ends of an edge -/

/-- The end of an edge that the call inserting it created: the target of `Contains` and
`Produces`, the source of `BelongsTo` and `Consumes`. -/
def Edge.child (e : Edge) : String :=
  match e.conn_type with
  | .contains | .produces => e.to_id
  | .belongsTo | .consumes => e.from_id

/-- The other end: the owner, or the upstream entity. -/
def Edge.parent (e : Edge) : String :=
  match e.conn_type with
  | .contains | .produces => e.from_id
  | .belongsTo | .consumes => e.to_id

/-- `Consumes` and `Produces` join an entity to its upstream. -/
def RelationshipType.IsUpstream : RelationshipType → Bool
  | .consumes | .produces => true
  | .contains | .belongsTo => false

/-- The edges of an insertion: the drawn id is the child end; the other end is an owner or, for
`Consumes` and `Produces`, an upstream id. -/
theorem Insertion.ends_of_mem {n : Insertion} {e : Edge} (h : e ∈ n.edges) :
    e.child = n.id ∧ (e.conn_type.IsUpstream = true → e.parent ∈ n.upstream) ∧
      (e.conn_type.IsUpstream = false → e.parent ∈ n.owners) := by
  rw [Insertion.mem_edges] at h
  rcases h with ⟨o, ho, rfl | rfl⟩ | ⟨v, hv, rfl | rfl⟩ <;>
    simp [Edge.child, Edge.parent, RelationshipType.IsUpstream, *]

namespace Store

variable {s : Store}

theorem mentions_row {R : Entity} (h : R ∈ s.entities) : s.Mentions R.entity_id :=
  .inl ⟨R, h, rfl⟩

theorem mentions_child {e : Edge} (h : e ∈ s.edges) : s.Mentions e.child := by
  unfold Edge.child; split <;> exact .inr ⟨e, h, by simp⟩

theorem mentions_parent {e : Edge} (h : e ∈ s.edges) : s.Mentions e.parent := by
  unfold Edge.parent; split <;> exact .inr ⟨e, h, by simp⟩

end Store

theorem toUuid_builtinIdStr : toUuid builtinIdStr = none := by decide

/-! ## Types -/

/-- The types the schema allows for a `Consumes` edge, consumer first. -/
def consumesAllowed : EntityType → EntityType → Bool
  | .anchor, .source | .anchorFeature, .source => true
  | .derivedFeature, .anchorFeature | .derivedFeature, .derivedFeature => true
  | _, _ => false

theorem consumesAllowed_ne_anchor {a v : EntityType} (h : consumesAllowed a v = true) :
    v ≠ .anchor := by
  rintro rfl; cases a <;> cases h

theorem consumesAllowed_anchor {v : EntityType} (h : consumesAllowed .anchor v = true) :
    v = .source := by
  cases v <;> first | rfl | cases h

/-- The entity types an edge of each relationship may join in a reachable store, the source of
the edge first: `Contains` from any entity to one that is not a project, `Consumes` as the
schema allows, `BelongsTo` and `Produces` the reverses. -/
def edgeTyped : RelationshipType → EntityType → EntityType → Bool
  | .contains, _, c => c != .project
  | .belongsTo, c, _ => c != .project
  | .consumes, a, v => consumesAllowed a v
  | .produces, v, a => consumesAllowed a v

/-- Every edge between two stored entities joins types `edgeTyped` allows. -/
def Store.EdgesTyped (s : Store) : Prop :=
  ∀ e ∈ s.edges, ∀ A ∈ s.entities, ∀ C ∈ s.entities, A.entity_id = e.from_id →
    C.entity_id = e.to_id → edgeTyped e.conn_type A.entity_type C.entity_type = true

/-! ## The invariant -/

/-- The invariant behind `edges_typed`. -/
structure Store.Typed (s : Store) : Prop where
  /-- Every row but an anchor is stored under an id in UUID form. -/
  row_uuid : ∀ R ∈ s.entities, R.entity_type ≠ .anchor → toUuid R.entity_id = some R.entity_id
  /-- Child ends are in UUID form. -/
  child_uuid : ∀ e ∈ s.edges, toUuid e.child = some e.child
  /-- Upstream ends are in UUID form. -/
  parent_uuid : ∀ e ∈ s.edges, e.conn_type.IsUpstream = true → toUuid e.parent = some e.parent
  /-- The stored child of a `Contains` or `BelongsTo` edge is no project. -/
  child_type : ∀ e ∈ s.edges, e.conn_type.IsUpstream = false →
    ∀ C ∈ s.entities, C.entity_id = e.child → C.entity_type ≠ .project
  /-- The stored ends of a `Consumes` or `Produces` edge have types the schema allows. -/
  upstream_type : ∀ e ∈ s.edges, e.conn_type.IsUpstream = true →
    ∀ C ∈ s.entities, ∀ V ∈ s.entities, C.entity_id = e.child → V.entity_id = e.parent →
      consumesAllowed C.entity_type V.entity_type = true

theorem Store.Typed.empty : Store.empty.Typed where
  row_uuid := by simp [Store.empty]
  child_uuid := by simp [Store.empty]
  parent_uuid := by simp [Store.empty]
  child_type := by simp [Store.empty]
  upstream_type := by simp [Store.empty]

/-- Fewer rows and fewer edges keep the invariant. -/
theorem Store.Typed.mono {s s' : Store} (hs : s.Typed) (hr : ∀ R ∈ s'.entities, R ∈ s.entities)
    (he : ∀ e ∈ s'.edges, e ∈ s.edges) : s'.Typed where
  row_uuid R h := hs.row_uuid R (hr R h)
  child_uuid e h := hs.child_uuid e (he e h)
  parent_uuid e h := hs.parent_uuid e (he e h)
  child_type e h t C hC := hs.child_type e (he e h) t C (hr C hC)
  upstream_type e h t C hC V hV := hs.upstream_type e (he e h) t C (hr C hC) V (hr V hV)

theorem Store.Typed.deleteId {s : Store} (hs : s.Typed) (b : Branch) (id : String) :
    (s.deleteId b id).Typed :=
  hs.mono (fun _ h => List.mem_of_mem_filter h) (fun _ h => List.mem_of_mem_filter h)

/-! ## Insertions -/

/-- What the checks of a create call establish about the insertion it makes. -/
structure Insertion.Checked (s : Store) (n : Insertion) : Prop where
  /-- The drawn id is in UUID form and no table names it. -/
  id_uuid : toUuid n.id = some n.id
  id_new : ¬ s.Mentions n.id
  /-- The row is stored under the drawn id, or is the raw-SQL anchor row. -/
  row_id : n.row.entity_id = n.id ∨ n.row.entity_id = builtinIdStr ∧ n.row.entity_type = .anchor
  /-- An entity created under an owner is no project. -/
  row_owned : n.owners ≠ [] → n.row.entity_type ≠ .project
  /-- Each upstream id is that of a stored entity the new one may consume. -/
  upstream : ∀ v ∈ n.upstream, ∃ V ∈ s.entities, V.entity_id = v ∧
    consumesAllowed n.row.entity_type V.entity_type = true

/-- The new row's id is no id in UUID form that the tables name. -/
theorem Insertion.Checked.row_ne {s : Store} {n : Insertion} (hn : n.Checked s) {x : String}
    (hx : s.Mentions x) (hu : toUuid x = some x) : n.row.entity_id ≠ x := by
  intro h'
  rcases hn.row_id with h | ⟨h, -⟩
  · exact hn.id_new (by rwa [← h, h'])
  · rw [← h', h, toUuid_builtinIdStr] at hu; cases hu

theorem Store.Typed.apply {b : Branch} {s : Store} {n : Insertion} (hs : s.Typed)
    (hid : (s.entities.map (·.entity_id)).Nodup) (hn : n.Checked s) : (n.apply b s).Typed where
  row_uuid R hR hna := by
    rcases Insertion.mem_apply_entities.1 hR with hR | rfl
    · exact hs.row_uuid R hR hna
    · rcases hn.row_id with h | ⟨-, h⟩
      · rw [h]; exact hn.id_uuid
      · exact absurd h hna
  child_uuid e he := by
    rcases (mem_addEdges.1 he) with he | he
    · exact hs.child_uuid e he
    · rw [(Insertion.ends_of_mem he).1]; exact hn.id_uuid
  parent_uuid e he hu := by
    rcases (mem_addEdges.1 he) with he | he
    · exact hs.parent_uuid e he hu
    · obtain ⟨V, hV, hVe, hc⟩ := hn.upstream _ ((Insertion.ends_of_mem he).2.1 hu)
      rw [← hVe]; exact hs.row_uuid V hV (consumesAllowed_ne_anchor hc)
  child_type e he hu C hC hCe := by
    rcases (mem_addEdges.1 he) with he | he
    · rcases Insertion.mem_apply_entities.1 hC with hC | rfl
      · exact hs.child_type e he hu C hC hCe
      · exact absurd hCe (hn.row_ne (Store.mentions_child he) (hs.child_uuid e he))
    · obtain ⟨hch, -, ho⟩ := Insertion.ends_of_mem he
      rcases Insertion.mem_apply_entities.1 hC with hC | rfl
      · exact absurd (hCe.trans hch ▸ Store.mentions_row hC) hn.id_new
      · exact hn.row_owned (List.ne_nil_of_mem (ho hu))
  upstream_type e he hu C hC V hV hCe hVe := by
    rcases (mem_addEdges.1 he) with he | he
    · rcases Insertion.mem_apply_entities.1 hC with hC | rfl
      · rcases Insertion.mem_apply_entities.1 hV with hV | rfl
        · exact hs.upstream_type e he hu C hC V hV hCe hVe
        · exact absurd hVe (hn.row_ne (Store.mentions_parent he) (hs.parent_uuid e he hu))
      · exact absurd hCe (hn.row_ne (Store.mentions_child he) (hs.child_uuid e he))
    · obtain ⟨hch, hup, -⟩ := Insertion.ends_of_mem he
      obtain ⟨V', hV', hV'id, hc⟩ := hn.upstream _ (hup hu)
      rcases Insertion.mem_apply_entities.1 hC with hC | rfl
      · exact absurd (hCe.trans hch ▸ Store.mentions_row hC) hn.id_new
      · rcases Insertion.mem_apply_entities.1 hV with hV | rfl
        · rwa [List.inj_on_of_nodup_map hid hV hV' (hVe.trans hV'id.symm)]
        · exact absurd (hVe.trans hV'id.symm)
            (hn.row_ne (Store.mentions_row hV') (hs.row_uuid V' hV' (consumesAllowed_ne_anchor hc)))

/-- The source `get_entity` gives a stored anchor is a stored `Source`: the first `Consumes`
edge of an anchor leads to one. -/
theorem Store.Typed.anchor_source {s : Store} (hs : s.Typed) {x : String} {A : Entity}
    {fs : List Entity} {src : Filled} (h : s.getEntity x = .ok (.anchor A fs src)) :
    src.entity ∈ s.entities ∧ src.entity.entity_type = .source := by
  obtain ⟨hAm, hAt, c, rest, hc, hsrc⟩ := Store.getEntity_anchor h
  obtain ⟨hce, hcf, hct⟩ := Store.mem_neighbors.1 (hc ▸ List.mem_cons_self c rest)
  have hup : c.conn_type.IsUpstream = true := by rw [hct]; rfl
  have hpar : c.parent = c.to_id := by simp [Edge.parent, hct]
  obtain ⟨hsm, hsid⟩ := Store.getEntityRow_of_uuid (hpar ▸ hs.parent_uuid c hce hup) hsrc
  have hty := hs.upstream_type c hce hup A hAm src.entity hsm
    (by simp [Edge.child, hct, hcf]) (by rw [hpar, hsid])
  rw [hAt] at hty
  exact ⟨hsm, consumesAllowed_anchor hty⟩

/-- A create call's checks, and its fresh `uuid4`, make its insertion `Checked`. -/
theorem Call.Inserts.checked {b : Branch} {s : Store} {u : String} {c : Call} {n : Insertion}
    (hs : s.Typed) (hf : Fresh s c u) (hn : c.Inserts b s u n) : n.Checked s := by
  have hu := hn.id_eq
  cases c with
  | createProject d =>
    subst hn; exact ⟨hf.uuid, hf.new, .inl rfl, fun h => absurd rfl h, by simp⟩
  | createProjectDatasource p d =>
    obtain ⟨P, -, rfl⟩ := hn
    exact ⟨hf.uuid, hf.new, .inl rfl, fun _ => nofun, by simp⟩
  | createProjectAnchor p d =>
    obtain ⟨P, r, -, hr, rfl⟩ := hn
    have hrt : r.entity_id = d.source_id ∧ r.entity_type = .source := by
      simpa using List.find?_some hr
    refine ⟨hf.uuid, hf.new, ?_, fun _ => nofun, ?_⟩
    · cases b
      · exact .inl rfl
      · exact .inr ⟨rfl, rfl⟩
    · simp only [List.mem_singleton, forall_eq]
      exact ⟨r, List.mem_of_find?_eq_some hr, hrt.1, by rw [hrt.2]; rfl⟩
  | createProjectAnchorFeature p a d =>
    obtain ⟨A, fs, src, hA, rfl⟩ := hn
    obtain ⟨hsm, hst⟩ := hs.anchor_source hA
    refine ⟨hf.uuid, hf.new, .inl rfl, fun _ => nofun, ?_⟩
    simp only [List.mem_singleton, forall_eq]
    exact ⟨src.entity, hsm, rfl, by rw [hst]; rfl⟩
  | createProjectDerivedFeature p d =>
    obtain ⟨P, -, -, -, rfl⟩ := hn
    refine ⟨hf.uuid, hf.new, .inl rfl, fun _ => nofun, ?_⟩
    simp only [List.map_append, List.mem_append, List.mem_map]
    rintro v (⟨r, hr, rfl⟩ | ⟨r, hr, rfl⟩) <;>
      obtain ⟨hrm, -, hrt⟩ := by simpa [inputRows, and_assoc] using hr
    · exact ⟨r, hrm, rfl, by rw [hrt]; rfl⟩
    · exact ⟨r, hrm, rfl, by rw [hrt]; rfl⟩

theorem reachable_typed {b : Branch} {s : Store} (h : Reachable b s) : s.Typed :=
  h.induction_on Store.Typed.empty
    (fun _ _ _ _ hr hs hf hn _ _ => hs.apply (entity_id_unique hr) (hn.checked hs hf))
    (fun _ _ hs => hs.deleteId _ _)

theorem Store.Typed.edgesTyped {s : Store} (hs : s.Typed) : s.EdgesTyped := by
  rintro ⟨a, c, t⟩ he A hA C hC hAe hCe
  cases t with
  | contains => simpa [edgeTyped] using hs.child_type _ he rfl C hC hCe
  | belongsTo => simpa [edgeTyped] using hs.child_type _ he rfl A hA hAe
  | consumes => exact hs.upstream_type _ he rfl A hA C hC hAe hCe
  | produces => exact hs.upstream_type _ he rfl C hC A hA hCe hAe

/-- In every reachable store, on either branch, every edge between two stored entities joins
them as `edgeTyped` allows. HTTP requests reach only such stores (`ApiReachable.reachable`). -/
theorem edges_typed {b : Branch} {s : Store} (h : Reachable b s) : s.EdgesTyped :=
  (reachable_typed h).edgesTyped

/-! ## Edges the schema does not allow -/

/-- The SQLAlchemy scenario store after `POST /project/{project}/datasources` names the anchor
`a1` as the project. -/
def anchorOwnedStore : Store :=
  runCalls .sqlalchemy
    [(.createProjectDatasource "00000000-0000-4000-8000-000000000003"
      ⟨"s3", "hdfs", "path3", "", "ts", "epoch"⟩, "00000000-0000-4000-8000-000000000006")]
    (scenarioStore .sqlalchemy)

theorem apiReachable_anchorOwnedStore : ApiReachable .sqlalchemy anchorOwnedStore :=
  (apiReachable_scenarioStore _).runCalls (by decide)

theorem edges_typed_anchorOwned :
    Reachable .sqlalchemy anchorOwnedStore ∧ anchorOwnedStore.EdgesTyped :=
  ⟨apiReachable_anchorOwnedStore.reachable, edges_typed apiReachable_anchorOwnedStore.reachable⟩

/-- Through the API, a `Contains` edge from the anchor `a1` to a source; and `DELETE
/entity/{entity}` of the anchor feature `f1` on the SQLAlchemy branch removes its row and keeps
every edge, among them `Contains` from `a1` to it. -/
theorem edge_schema_violations :
    ApiReachable .sqlalchemy anchorOwnedStore ∧
      (⟨"00000000-0000-4000-8000-000000000003", "00000000-0000-4000-8000-000000000006",
        .contains⟩ : Edge) ∈ anchorOwnedStore.edges ∧
      (⟨"00000000-0000-4000-8000-000000000003", "p1__a1",
        .anchor ⟨"a1", ⟨"00000000-0000-4000-8000-000000000002", .source, "p1__s1"⟩⟩⟩ : Entity) ∈
        anchorOwnedStore.entities ∧
      (⟨"00000000-0000-4000-8000-000000000006", "p1__a1__s3",
        .source ⟨"s3", "hdfs", "path3", "", "ts", "epoch"⟩⟩ : Entity) ∈ anchorOwnedStore.entities ∧
      deleteEntityHandler .sqlalchemy 1 (scenarioStore .sqlalchemy)
          "00000000-0000-4000-8000-000000000004" =
        some (⟨(scenarioStore .sqlalchemy).entities.filter
            (·.entity_id != "00000000-0000-4000-8000-000000000004"),
          (scenarioStore .sqlalchemy).edges⟩, .ok ()) ∧
      (⟨"00000000-0000-4000-8000-000000000003", "00000000-0000-4000-8000-000000000004",
        .contains⟩ : Edge) ∈ (scenarioStore .sqlalchemy).edges :=
  ⟨apiReachable_anchorOwnedStore, by decide, by decide, by decide, rfl, by decide⟩

end FeathrRegistry
