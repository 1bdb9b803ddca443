import FeathrRegistry.Traversal
import FeathrRegistry.Project

/-!
# FeathrRegistry.SafeDelete

The safe-delete protocol of `DELETE /entity/{entity}`, and what it keeps on the SQLAlchemy
branch: the source of every anchor.

`_fill_entity` fills an anchor with the source its first `Consumes` edge leads to. The handler
deletes a source only after `_bfs` over `Produces` from it has found no other stored entity. In
`delete_empty_entities` the traversal finds the source alone; at the end of the handler,
`get_dependent_entities` finds nothing (`deleteEntityHandler_safe`). An anchor's source feeds it by
a `Produces` edge. On the SQLAlchemy branch no edge is ever deleted, so an anchor keeps its first
`Consumes` edge, and its source stays stored for as long as the anchor does
(`reachable_anchorsFed`). So `get_entity` of every stored entity returns it, filled
(`getEntity_total`).
-/

namespace FeathrRegistry

/-- What the handler has checked before it deletes the row under `x`: a stored source under `x`
feeds no other stored entity. -/
def Store.SafeToDelete (s : Store) (x : String) : Prop :=
  ∀ S ∈ s.entities, S.entity_id = x → S.entity_type = .source →
    ∀ A ∈ s.entities, (⟨x, A.entity_id, .produces⟩ : Edge) ∈ s.edges → A.entity_id = x

/-- One `delete_entity` call of a delete request, checked. -/
def SafeDeleteStep (b : Branch) (s s' : Store) : Prop :=
  ∃ x, s.SafeToDelete x ∧ s' = s.deleteId b x

/-- Deleting keeps no row that was not there. -/
theorem SafeDeleteStep.sub {b : Branch} {s s' : Store}
    (h : Relation.ReflTransGen (SafeDeleteStep b) s s') : ∀ R ∈ s'.entities, R ∈ s.entities := by
  induction h with
  | refl => exact fun _ h => h
  | tail _ hst ih =>
    obtain ⟨x, -, rfl⟩ := hst
    exact fun R hR => ih R (List.mem_of_mem_filter hR)

/-- A `delete_entity` whose resolved id the handler has checked. -/
theorem deleteEntity_safe {b : Branch} {s s' : Store} {x : String} {r : Except Err Unit}
    (h : deleteEntity b s x = (s', r)) (hsafe : ∀ i, s.getEntityId x = .ok i → s.SafeToDelete i) :
    Relation.ReflTransGen (SafeDeleteStep b) s s' := by
  rw [deleteEntity_eq] at h
  split at h <;> cases h
  · exact .refl
  · exact .single ⟨_, hsafe _ ‹_›, rfl⟩

section Handler

/-! The handler starts from a store `s0` whose rows have distinct ids in UUID form; the stores it
passes through keep some of those rows. -/

variable {b : Branch} {s0 : Store}
  (hu : ∀ R ∈ s0.entities, toUuid R.entity_id = some R.entity_id)
  (hid : (s0.entities.map (·.entity_id)).Nodup)

include hu hid in
/-- In a store whose rows are among `s0`'s, `_get_entity` of a row's id finds the row. -/
theorem getEntityRow_sub {s : Store} (hsub : ∀ R ∈ s.entities, R ∈ s0.entities) {S : Entity}
    (hS : S ∈ s.entities) : s.getEntityRow S.entity_id = .ok S :=
  Store.getEntityRow_of_inj hS (hu S (hsub S hS)) fun R hR hRS =>
    List.inj_on_of_nodup_map hid (hsub R hR) (hsub S hS) hRS

/-- What `_bfs` over `Produces` from `x` finds includes a stored row under `x` and every stored
entity `x` produces. -/
theorem bfs_produces {s : Store} {fuel : Nat} {x : String} {fs : List Filled} {conns : List Edge}
    (hb : s.bfs fuel x .produces = some (.ok (fs, conns))) {S A : Entity}
    (hS : S ∈ s.entities) (hSx : S.entity_id = x) (hA : A ∈ s.entities)
    (hxA : (⟨x, A.entity_id, .produces⟩ : Edge) ∈ s.edges) :
    S ∈ fs.map (·.entity) ∧ A ∈ fs.map (·.entity) := by
  have hm := (Store.bfs_ok hb).2
  exact ⟨(hm S).2 ⟨hS, hSx ▸ .refl⟩, (hm A).2 ⟨hA, .single hxA⟩⟩

include hu hid in
/-- `get_dependent_entities` finding nothing makes the `delete_entity` that follows safe. -/
theorem safe_of_no_dependents {s : Store} (hsub : ∀ R ∈ s.entities, R ∈ s0.entities)
    {fuel : Nat} {x i : String} (hx : s.getEntityId x = .ok i)
    (h : s.getDependentEntities fuel x = some (.ok [])) : s.SafeToDelete i := by
  intro S hS hSi hSt A hA hiA
  simp only [Store.getDependentEntities, hx] at h
  split at h
  · cases h
  · rename_i F hF
    have hFS : F.entity = S := by
      have := Store.getEntity_entity hF
      rw [← hSi, getEntityRow_sub hu hid hsub hS] at this
      exact (Except.ok.inj this).symm
    rw [hFS, hSt] at h
    simp only [dependentRelation] at h
    cases hb : s.bfs fuel i .produces with
    | none => rw [hb] at h; cases h
    | some r =>
      rcases r with e | ⟨fs, conns⟩
      · rw [hb] at h; cases h
      · rw [hb] at h
        have hnil : fs.filter (·.entity.entity_id != i) = [] := by
          simpa [Except.map] using h
        obtain ⟨F', hF', rfl⟩ := List.mem_map.1 (bfs_produces hb hS hSi hA hiA).2
        by_contra hne
        have : F' ∈ fs.filter (·.entity.entity_id != i) :=
          List.mem_filter.2 ⟨hF', by simpa using hne⟩
        simp [hnil] at this

/-- The entities `get_dependent_entities` returns are stored rows. -/
theorem getDependentEntities_mem {s : Store} {fuel : Nat} {x : String} {ds : List Filled}
    (h : s.getDependentEntities fuel x = some (.ok ds)) : ∀ e ∈ ds, e.entity ∈ s.entities := by
  simp only [Store.getDependentEntities] at h
  split at h
  · cases h
  · split at h
    · cases h
    · cases hb : s.bfs fuel _ (dependentRelation _) with
      | none => rw [hb] at h; cases h
      | some r =>
        rcases r with e | ⟨fs, conns⟩
        · rw [hb] at h; cases h
        · rw [hb] at h
          simp only [Option.map_some', Except.map, Option.some.injEq, Except.ok.injEq] at h
          subst h
          intro e he
          exact ((Store.bfs_ok hb).2 e.entity |>.1
            (List.mem_map_of_mem _ (List.mem_of_mem_filter he))).1

include hu hid in
/-- Each `delete_entity` of a loop of `delete_empty_entities` is safe. An entity of a type other
than `Source` is no stored source; a source is deleted only when `_bfs` over `Produces` finds it
alone. -/
theorem deleteEmptyPass_safe {fuel : Nat} {t : EntityType} {rel : RelationshipType}
    (htr : t = .source → rel = .produces) :
    ∀ {es : List Filled} {s s' : Store} {r : Except Err Unit},
      (∀ e ∈ es, e.entity ∈ s0.entities) → (∀ R ∈ s.entities, R ∈ s0.entities) →
      deleteEmptyPass b fuel t rel es s = some (s', r) →
      Relation.ReflTransGen (SafeDeleteStep b) s s'
  | [], _, _, _, _, _, h => by cases h; exact .refl
  | e :: es, s, s', r, hes, hsub, h => by
    have he := hes e (List.mem_cons_self _ _)
    have hes' : ∀ e ∈ es, e.entity ∈ s0.entities := fun e h => hes e (List.mem_cons_of_mem _ h)
    unfold deleteEmptyPass at h
    split at h
    · rename_i het
      split at h
      · cases h
      · cases h; exact .refl
      · rename_i downstream conns hb
        split at h
        · rename_i hlen
          have hsafe : ∀ i, s.getEntityId e.entity.entity_id = .ok i → s.SafeToDelete i := by
            intro i hi S hS hSi hSt A hA hiA
            rw [Store.getEntityId_of_toUuid (hu _ he)] at hi
            cases hi
            have hSe : S = e.entity := List.inj_on_of_nodup_map hid (hsub S hS) he hSi
            obtain rfl := htr (by rw [← het, ← hSe, hSt])
            obtain ⟨h1, h2⟩ := bfs_produces hb hS hSi hA hiA
            obtain ⟨F, rfl⟩ := List.length_eq_one.1 hlen
            simp only [List.map_cons, List.map_nil, List.mem_singleton] at h1 h2
            rw [h2, ← h1, hSi]
          split at h
          · rename_i s1 hd
            have h1 := deleteEntity_safe hd hsafe
            exact h1.trans (deleteEmptyPass_safe htr hes'
              (fun R hR => hsub R (SafeDeleteStep.sub h1 R hR)) h)
          · rename_i s1 err hd
            cases h; exact deleteEntity_safe hd hsafe
        · exact deleteEmptyPass_safe htr hes' hsub h
    · exact deleteEmptyPass_safe htr hes' hsub h

include hu hid in
theorem deleteEmptyEntities_safe {fuel : Nat} {es : List Filled} {s s' : Store}
    {r : Except Err Unit} (hes : ∀ e ∈ es, e.entity ∈ s0.entities)
    (hsub : ∀ R ∈ s.entities, R ∈ s0.entities) (h : deleteEmptyEntities b fuel es s = some (s', r)) :
    Relation.ReflTransGen (SafeDeleteStep b) s s' := by
  unfold deleteEmptyEntities at h
  split at h
  · rename_i s1 h1
    have h1 := deleteEmptyPass_safe hu hid (t := .anchor) nofun hes hsub h1
    exact h1.trans (deleteEmptyPass_safe hu hid (fun _ => rfl) hes
      (fun R hR => hsub R (SafeDeleteStep.sub h1 R hR)) h)
  · exact deleteEmptyPass_safe hu hid (t := .anchor) nofun hes hsub h

include hu hid in
/-- Every `delete_entity` a delete request makes is safe. -/
theorem deleteEntityHandler_safe {fuel : Nat} {x : String} {s' : Store} {r : Except Err Unit}
    (h : deleteEntityHandler b fuel s0 x = some (s', r)) :
    Relation.ReflTransGen (SafeDeleteStep b) s0 s' := by
  have hrefl : ∀ R ∈ s0.entities, R ∈ s0.entities := fun _ h => h
  unfold deleteEntityHandler at h
  split at h
  · cases h; exact .refl
  · split at h
    · cases h
    · cases h; exact .refl
    · rename_i hdep
      exact deleteEntity_safe (Option.some.inj h) fun i hi =>
        safe_of_no_dependents hu hid hrefl hi hdep
    · rename_i _ hdep
      have hes := getDependentEntities_mem hdep
      split at h
      · cases h
      · cases h; exact deleteEmptyEntities_safe hu hid hes hrefl ‹_›
      · rename_i s1 h1
        have h1 := deleteEmptyEntities_safe hu hid hes hrefl h1
        have hsub := SafeDeleteStep.sub h1
        split at h
        · cases h
        · cases h; exact h1
        · rename_i hdep1
          exact h1.trans (deleteEntity_safe (Option.some.inj h) fun i hi =>
            safe_of_no_dependents hu hid hsub hi hdep1)
        · cases h; exact h1

end Handler

/-! ## The SQLAlchemy branch -/

theorem addEdges_sqlalchemy (es : List Edge) : ∀ E : List Edge, addEdges .sqlalchemy es E = E ++ es := by
  induction es with
  | nil => simp [addEdges]
  | cons e es ih => intro E; simp only [addEdges, addEdge, List.foldl_cons] at ih ⊢; simp [ih]

theorem Store.neighbors_apply_sqlalchemy (s : Store) (n : Insertion) (a : String)
    (t : RelationshipType) : (n.apply .sqlalchemy s).neighbors a t =
      s.neighbors a t ++ n.edges.filter fun e => e.from_id == a && e.conn_type == t := by
  simp [Store.neighbors, Insertion.apply, addEdges_sqlalchemy]

/-- The `Consumes` edges an insertion adds from its own id: one to each upstream id. -/
theorem Insertion.consumes_from_id (n : Insertion) :
    n.edges.filter (fun e => e.from_id == n.id && e.conn_type == .consumes) =
      n.upstream.map fun v => ⟨n.id, v, .consumes⟩ := by
  have h0 : ∀ l : List String, (l.flatMap fun _ => ([] : List Edge)) = [] :=
    fun _ => List.flatMap_eq_nil_iff.2 fun _ _ => rfl
  simp [Insertion.edges, List.filter_flatMap, List.filter_cons, h0, List.map_eq_flatMap]

/-- The SQLAlchemy branch deletes no edge. -/
@[simp] theorem Store.deleteId_sqlalchemy_edges (s : Store) (x : String) :
    (s.deleteId .sqlalchemy x).edges = s.edges := by
  simp [Store.deleteId, deletesEdge]

theorem Call.Inserts.row_id_sqlalchemy {s : Store} {u : String} {c : Call} {n : Insertion}
    (hn : c.Inserts .sqlalchemy s u n) : n.row.entity_id = u := by
  cases c with
  | createProject => subst hn; rfl
  | createProjectDatasource => obtain ⟨_, _, rfl⟩ := hn; rfl
  | createProjectAnchor => obtain ⟨_, _, _, _, rfl⟩ := hn; rfl
  | createProjectAnchorFeature => obtain ⟨_, _, _, _, rfl⟩ := hn; rfl
  | createProjectDerivedFeature => obtain ⟨_, _, _, _, rfl⟩ := hn; rfl

/-- An anchor is inserted with one upstream id: a stored source's. -/
theorem Call.Inserts.anchor_upstream {b : Branch} {s : Store} {u : String} {c : Call}
    {n : Insertion} (hn : c.Inserts b s u n) (ht : n.row.entity_type = .anchor) :
    ∃ S ∈ s.entities, S.entity_type = .source ∧ n.upstream = [S.entity_id] := by
  cases c with
  | createProject => subst hn; cases ht
  | createProjectDatasource => obtain ⟨_, _, rfl⟩ := hn; cases ht
  | createProjectAnchor p d =>
    obtain ⟨P, r, -, hr, rfl⟩ := hn
    have hrt : r.entity_id = d.source_id ∧ r.entity_type = .source := by
      simpa using List.find?_some hr
    exact ⟨r, List.mem_of_find?_eq_some hr, hrt.2, by rw [hrt.1]⟩
  | createProjectAnchorFeature => obtain ⟨_, _, _, _, rfl⟩ := hn; cases ht
  | createProjectDerivedFeature => obtain ⟨_, _, _, _, rfl⟩ := hn; cases ht

/-- On the SQLAlchemy branch every row is stored under an id in UUID form. -/
theorem reachable_rows_uuid {s : Store} (h : Reachable .sqlalchemy s) :
    ∀ R ∈ s.entities, toUuid R.entity_id = some R.entity_id :=
  h.induction_on (I := fun s => ∀ R ∈ s.entities, toUuid R.entity_id = some R.entity_id)
    (by simp [Store.empty])
    (fun _ _ _ _ _ hs hf hn _ _ R hR => by
      rcases Insertion.mem_apply_entities.1 hR with hR | rfl
      · exact hs R hR
      · rw [hn.row_id_sqlalchemy]; exact hf.uuid)
    (fun _ _ hs R hR => hs R (List.mem_of_mem_filter hR))

/-- On the SQLAlchemy branch, `_get_entity` of a stored row's id finds the row. -/
theorem getEntityRow_of_reachable {s : Store} (h : Reachable .sqlalchemy s) {E : Entity}
    (hE : E ∈ s.entities) : s.getEntityRow E.entity_id = .ok E :=
  getEntityRow_sub (reachable_rows_uuid h) (entity_id_unique h) (fun _ h => h) hE

/-- An invariant of the stores the SQLAlchemy branch reaches: true of the empty one, kept by
every insertion and by every `delete_entity` the handler has checked. -/
theorem Reachable.induction_safe {I : Store → Prop} {s : Store} (h : Reachable .sqlalchemy s)
    (init : I .empty)
    (insert : ∀ s c u n, Reachable .sqlalchemy s → I s → Fresh s c u →
      c.Inserts .sqlalchemy s u n → I (n.apply .sqlalchemy s))
    (delete : ∀ s x, I s → s.SafeToDelete x → I (s.deleteId .sqlalchemy x)) : I s := by
  induction h with
  | init => exact init
  | step hr hs ih =>
    cases hs with
    | create hf hrun =>
      rcases Call.run_cases hrun with rfl | ⟨n, hn, -, -, rfl⟩
      · exact ih
      · exact insert _ _ _ _ hr ih hf hn
    | delete hd =>
      have key := deleteEntityHandler_safe (reachable_rows_uuid hr) (entity_id_unique hr) hd
      clear hd
      induction key with
      | refl => exact ih
      | tail _ hst ih₂ => obtain ⟨x, hx, rfl⟩ := hst; exact delete _ _ ih₂ hx

/-- Every stored anchor's first `Consumes` edge leads to a stored source, which feeds the anchor
by a `Produces` edge. -/
def Store.AnchorsFed (s : Store) : Prop :=
  ∀ A ∈ s.entities, A.entity_type = .anchor → ∃ c rest,
    s.neighbors A.entity_id .consumes = c :: rest ∧
    (⟨c.to_id, A.entity_id, .produces⟩ : Edge) ∈ s.edges ∧
    ∃ S ∈ s.entities, S.entity_id = c.to_id ∧ S.entity_type = .source

theorem Store.AnchorsFed.apply {s : Store} {n : Insertion} (hs : s.AnchorsFed)
    (hnew : ¬ s.Mentions n.id) (hrow : n.row.entity_id = n.id)
    (hanchor : n.row.entity_type = .anchor →
      ∃ S ∈ s.entities, S.entity_type = .source ∧ n.upstream = [S.entity_id]) :
    (n.apply .sqlalchemy s).AnchorsFed := by
  intro A hA hAt
  rw [Store.neighbors_apply_sqlalchemy]
  have hedges : ∀ e ∈ s.edges, e ∈ (n.apply .sqlalchemy s).edges := fun e he =>
    Insertion.mem_apply_edges.2 (.inl he)
  have hrows : ∀ R ∈ s.entities, R ∈ (n.apply .sqlalchemy s).entities := fun R hR =>
    Insertion.mem_apply_entities.2 (.inl hR)
  rcases Insertion.mem_apply_entities.1 hA with hA | rfl
  · obtain ⟨c, rest, hc, hp, S, hS, hSc, hSt⟩ := hs A hA hAt
    exact ⟨c, _, by rw [hc, List.cons_append], hedges _ hp, S, hrows S hS, hSc, hSt⟩
  · obtain ⟨S, hS, hSt, hup⟩ := hanchor hAt
    have hold : s.neighbors n.row.entity_id .consumes = [] := by
      rw [List.eq_nil_iff_forall_not_mem]
      intro e he
      obtain ⟨he, hef, -⟩ := Store.mem_neighbors.1 he
      exact hnew (.inr ⟨e, he, .inl (hef.trans hrow)⟩)
    refine ⟨⟨n.id, S.entity_id, .consumes⟩, [], ?_, ?_, S, hrows S hS, rfl, hSt⟩
    · rw [hold, hrow, Insertion.consumes_from_id, hup]; rfl
    · rw [hrow]
      simp [Insertion.mem_edges, hup]

theorem Store.AnchorsFed.deleteId {s : Store} (hs : s.AnchorsFed) {x : String}
    (hx : s.SafeToDelete x) : (s.deleteId .sqlalchemy x).AnchorsFed := by
  intro A hA hAt
  have hA' := List.mem_filter.1 hA
  have hAx : A.entity_id ≠ x := by simpa using hA'.2
  obtain ⟨c, rest, hc, hp, S, hS, hSc, hSt⟩ := hs A hA'.1 hAt
  have hSx : S.entity_id ≠ x := fun h => hAx (hx S hS h hSt A hA'.1 (by rwa [← h, hSc]))
  refine ⟨c, rest, ?_, by simpa using hp, S, List.mem_filter.2 ⟨hS, by simpa using hSx⟩, hSc, hSt⟩
  simpa [Store.neighbors] using hc

theorem reachable_anchorsFed {s : Store} (h : Reachable .sqlalchemy s) : s.AnchorsFed :=
  h.induction_safe (by simp [Store.AnchorsFed, Store.empty])
    (fun _ _ _ _ _ hs hf hn => by
      have hid := hn.id_eq
      have hrow := hn.row_id_sqlalchemy
      exact hs.apply (hid ▸ hf.new) (hrow.trans hid.symm) (hn.anchor_upstream))
    (fun _ _ hs hx => hs.deleteId hx)

/-- A source fills as itself, at any depth. -/
theorem Store.fillEntity_source (s : Store) {S : Entity} (hS : S.entity_type = .source) (n : Nat) :
    s.fillEntity n S = .ok (.plain S) := by
  rcases ha : S.attributes with a | a | a | a | a <;>
    simp [Entity.entity_type, Attributes.entityType, ha] at hS
  cases n <;> simp [Store.fillEntity, Store.fillWith, ha]

/-- On the SQLAlchemy branch every stored row fills, to the depth `get_entity` allows. -/
theorem fillEntity_total {s : Store} (h : Reachable .sqlalchemy s) {E : Entity}
    (hE : E ∈ s.entities) : ∃ F, s.fillEntity s.entities.length E = .ok F := by
  obtain ⟨n, hn⟩ := Nat.exists_eq_succ_of_ne_zero (List.ne_nil_of_mem hE ∘ List.length_eq_zero.1)
  rw [hn]
  show ∃ F, s.fillWith (s.fillEntity n) E = .ok F
  unfold Store.fillWith
  split
  · exact ⟨_, rfl⟩
  · rename_i ha
    obtain ⟨c, rest, hc, -, S, hS, hSc, hSt⟩ := reachable_anchorsFed h E hE
      (by simp [Entity.entity_type, ha, Attributes.entityType])
    rw [hc]
    simp only [← hSc, getEntityRow_of_reachable h hS, ok_bind, s.fillEntity_source hSt]
    exact ⟨_, rfl⟩
  · exact ⟨_, rfl⟩
  · exact ⟨_, rfl⟩

/-- On the SQLAlchemy branch, `get_entity` of every stored entity's id returns the entity,
filled. -/
theorem getEntity_total {s : Store} (h : Reachable .sqlalchemy s) {E : Entity}
    (hE : E ∈ s.entities) : ∃ F, s.getEntity E.entity_id = .ok F ∧ F.entity = E := by
  obtain ⟨F, hF⟩ := fillEntity_total h hE
  refine ⟨F, ?_, Store.fillEntity_entity hF⟩
  simp only [Store.getEntity, getEntityRow_of_reachable h hE, ok_bind, hF]

theorem getEntity_total_scenario :
    Reachable .sqlalchemy (scenarioStore .sqlalchemy) ∧
      (⟨"00000000-0000-4000-8000-000000000003", "p1__a1",
          .anchor ⟨"a1", ⟨"00000000-0000-4000-8000-000000000002", .source, "p1__s1"⟩⟩⟩ : Entity) ∈
        (scenarioStore .sqlalchemy).entities ∧
      ∃ F, (scenarioStore .sqlalchemy).getEntity "00000000-0000-4000-8000-000000000003" = .ok F ∧
        F.entity = ⟨"00000000-0000-4000-8000-000000000003", "p1__a1",
          .anchor ⟨"a1", ⟨"00000000-0000-4000-8000-000000000002", .source, "p1__s1"⟩⟩⟩ :=
  ⟨reachable_scenarioStore _, by decide, getEntity_total (reachable_scenarioStore _)
    (E := ⟨"00000000-0000-4000-8000-000000000003", "p1__a1",
      .anchor ⟨"a1", ⟨"00000000-0000-4000-8000-000000000002", .source, "p1__s1"⟩⟩⟩) (by decide)⟩

end FeathrRegistry
