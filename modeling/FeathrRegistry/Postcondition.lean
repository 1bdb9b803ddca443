import FeathrRegistry.SafeDelete
import FeathrRegistry.Conflict

/-!
# FeathrRegistry.Postcondition

What a create call does when everything it names is there: the spec's postcondition of the
five create calls, checked against the code.

The precondition says that the call names a stored project, a stored anchor and stored upstream
entities of the types it requires (`Call.Names`), and that no row holds the qualified name it
derives. The postcondition says that the call returns its fresh `uuid4` `x`, and that the store
gains one row under `x` (`Call.RowSpec`) and the `Contains`/`BelongsTo` pair to each owner and
the `Consumes`/`Produces` pair to each upstream id (`Call.UpstreamSpec`).

A derived feature that lists an input twice fails the `len(r1)` check and raises `ValueError`
(`createProjectDerivedFeature_repeated_input`). With that case left out, the postcondition holds
in every store the SQLAlchemy branch reaches (`create_postcondition`). `Call.plan_valid` gives the
plan on the raw-SQL branch too, but for its anchor calls, whose row goes under `str(id)`; there the
name check is SQL Server's `=` (see `findExisting`), so the theorem is stated for SQLite.
-/

namespace FeathrRegistry

/-! ## The spec's words -/

/-- `id` names a stored entity of type `t`. -/
def Store.Holds (s : Store) (id : String) (t : EntityType) : Prop :=
  ∃ E ∈ s.entities, E.entity_id = id ∧ E.entity_type = t

instance (s : Store) (id : String) (t : EntityType) : Decidable (s.Holds id t) :=
  inferInstanceAs (Decidable (∃ E ∈ s.entities, E.entity_id = id ∧ E.entity_type = t))

/-- The precondition on the ids a create call names: its project is a stored project, its anchor
a stored anchor, and each upstream id a stored entity of the type the call requires. -/
def Call.Names (s : Store) : Call → Prop
  | .createProject _ => True
  | .createProjectDatasource p _ => s.Holds p .project
  | .createProjectAnchor p d => s.Holds p .project ∧ s.Holds d.source_id .source
  | .createProjectAnchorFeature p a _ => s.Holds p .project ∧ s.Holds a .anchor
  | .createProjectDerivedFeature p d => s.Holds p .project ∧
      (∀ i ∈ d.input_anchor_features, s.Holds i .anchorFeature) ∧
      ∀ i ∈ d.input_derived_features, s.Holds i .derivedFeature

instance (s : Store) : (c : Call) → Decidable (c.Names s)
  | .createProject _ => inferInstanceAs (Decidable True)
  | .createProjectDatasource p _ => inferInstanceAs (Decidable (s.Holds p .project))
  | .createProjectAnchor p d =>
    inferInstanceAs (Decidable (s.Holds p .project ∧ s.Holds d.source_id .source))
  | .createProjectAnchorFeature p a _ =>
    inferInstanceAs (Decidable (s.Holds p .project ∧ s.Holds a .anchor))
  | .createProjectDerivedFeature p d => inferInstanceAs (Decidable (s.Holds p .project ∧
      (∀ i ∈ d.input_anchor_features, s.Holds i .anchorFeature) ∧
      ∀ i ∈ d.input_derived_features, s.Holds i .derivedFeature))

/-- A derived feature lists each input once. -/
def Call.InputsDistinct : Call → Prop
  | .createProjectDerivedFeature _ d =>
    d.input_anchor_features.Nodup ∧ d.input_derived_features.Nodup
  | _ => True

instance : (c : Call) → Decidable c.InputsDistinct
  | .createProjectDerivedFeature _ d => inferInstanceAs
    (Decidable (d.input_anchor_features.Nodup ∧ d.input_derived_features.Nodup))
  | .createProject _ | .createProjectDatasource _ _ | .createProjectAnchor _ _
  | .createProjectAnchorFeature _ _ _ => isTrue trivial

/-- The calls the raw-SQL slip in `create_project_anchor` reaches: the anchor, and a feature of
an anchor, whose row that branch stores under `str(id)`. -/
def Call.onAnchor : Call → Bool
  | .createProjectAnchor _ _ | .createProjectAnchorFeature _ _ _ => true
  | _ => false

/-- The owners of the entity a call creates: its project, and its anchor for an anchor feature. -/
def Call.owners : Call → List String
  | .createProject _ => []
  | .createProjectDatasource p _ | .createProjectAnchor p _ | .createProjectDerivedFeature p _ => [p]
  | .createProjectAnchorFeature p a _ => [p, a]

/-- The row the spec describes for a create call with new id `x`: the qualified name derived from
the parent, the type the call creates, and the definition's attributes, with references to the
stored entities the definition names (a derived feature's inputs once each, in any order). -/
def Call.RowSpec (s : Store) (x : String) : Call → Entity → Prop
  | .createProject d, R => R = ⟨x, d.name, .project d.toAttr⟩
  | .createProjectDatasource p d, R => ∃ P ∈ s.entities, P.entity_id = p ∧
      R = ⟨x, P.qualified_name ++ "__" ++ d.name, .source d.toAttr⟩
  | .createProjectAnchor p d, R => ∃ P ∈ s.entities, P.entity_id = p ∧
      ∃ S ∈ s.entities, S.entity_id = d.source_id ∧
        R = ⟨x, P.qualified_name ++ "__" ++ d.name,
          .anchor (d.toAttr ⟨S.entity_id, .source, S.qualified_name⟩)⟩
  | .createProjectAnchorFeature _ a d, R => ∃ A ∈ s.entities, A.entity_id = a ∧
      R = ⟨x, A.qualified_name ++ "__" ++ d.name, .anchorFeature d.toAttr⟩
  | .createProjectDerivedFeature p d, R => ∃ P ∈ s.entities, P.entity_id = p ∧
      ∃ refs : List EntityRef, R = ⟨x, P.qualified_name ++ "__" ++ d.name,
          .derivedFeature (d.toAttr refs)⟩ ∧
        (refs.map (·.id)).Perm (d.input_anchor_features ++ d.input_derived_features) ∧
        ∀ r ∈ refs, ∃ F ∈ s.entities, r = ⟨F.entity_id, F.entity_type, F.qualified_name⟩

/-- The upstream ids the spec names: an anchor's source, the source of an anchor feature's
anchor, each input of a derived feature. -/
def Call.UpstreamSpec (s : Store) : Call → List String → Prop
  | .createProject _, ups | .createProjectDatasource _ _, ups => ups = []
  | .createProjectAnchor _ d, ups => ups = [d.source_id]
  | .createProjectAnchorFeature _ a _, ups => ∃ A ∈ s.entities, A.entity_id = a ∧
      ∃ attrs, A.attributes = .anchor attrs ∧ ups = [attrs.source.id]
  | .createProjectDerivedFeature _ d, ups =>
      ups.Perm (d.input_anchor_features ++ d.input_derived_features)

/-! ## Lookups that succeed -/

theorem findExisting_free {s : Store} {q : String} {same : Attributes → Bool}
    (h : ∀ E ∈ s.entities, E.qualified_name ≠ q) : findExisting s q same = .ok none := by
  unfold findExisting
  rw [List.filter_eq_nil_iff.2 fun E hE hq => h E hE (by simpa using hq)]

/-- A project fills as itself with its children, at any depth. -/
theorem Store.fillEntity_project (s : Store) {P : Entity} (hP : P.entity_type = .project)
    (n : Nat) : s.fillEntity n P =
      .ok (.project P (s.rowsOf ((s.neighbors P.entity_id .contains).map (·.to_id)))) := by
  rcases ha : P.attributes with a | a | a | a | a <;>
    simp [Entity.entity_type, Attributes.entityType, ha] at hP
  cases n <;> simp only [Store.fillEntity, Store.fillWith, ha]

/-- In every reachable store, on either branch, `get_entity` of a stored project's id returns
the project. -/
theorem getEntity_project {b : Branch} {s : Store} (h : Reachable b s) {P : Entity}
    (hP : P ∈ s.entities) (ht : P.entity_type = .project) :
    ∃ cs, s.getEntity P.entity_id = .ok (.project P cs) := by
  have hx := (reachable_typed h).row_uuid P hP (by rw [ht]; nofun)
  have hrow := Store.getEntityRow_of_inj hP hx fun R hR hRP =>
    List.inj_on_of_nodup_map (entity_id_unique h) hR hP hRP
  exact ⟨_, by rw [Store.getEntity, hrow, ok_bind, s.fillEntity_project ht]⟩

/-- Under distinct ids, the source `create_project_anchor` finds for a stored source's id is that
source. -/
theorem find?_source {s : Store} (hid : (s.entities.map (·.entity_id)).Nodup) {S : Entity}
    (hS : S ∈ s.entities) (ht : S.entity_type = .source) :
    s.entities.find? (fun e => e.entity_id == S.entity_id && e.entity_type == .source) =
      some S := by
  cases hf : s.entities.find? (fun e => e.entity_id == S.entity_id && e.entity_type == .source) with
  | none => exact absurd (List.find?_eq_none.1 hf S hS) (by simp [ht])
  | some a =>
    have ha := List.find?_some hf
    simp only [Bool.and_eq_true, beq_iff_eq] at ha
    rw [List.inj_on_of_nodup_map hid (List.mem_of_find?_eq_some hf) hS ha.1]

/-- Under distinct ids, the rows `create_project_derived_feature` finds for distinct inputs that
each name a stored entity of type `t` are those inputs' rows, one each. -/
theorem inputRows_perm {s : Store} (hid : (s.entities.map (·.entity_id)).Nodup) {ids : List String}
    {t : EntityType} (hd : ids.Nodup) (hh : ∀ i ∈ ids, s.Holds i t) :
    ((inputRows s ids t).map (·.entity_id)).Perm ids := by
  refine (List.perm_ext_iff_of_nodup (hid.sublist ((List.filter_sublist _).map _)) hd).2 fun i => ?_
  simp only [inputRows, List.mem_map, List.mem_filter, Bool.and_eq_true, List.elem_iff,
    List.contains, beq_iff_eq]
  constructor
  · rintro ⟨E, ⟨-, hi, -⟩, rfl⟩; exact hi
  · intro hi
    obtain ⟨E, hE, rfl, hEt⟩ := hh i hi
    exact ⟨E, ⟨hE, hi, hEt⟩, rfl⟩

/-- Ids of stored entities of two different types differ. -/
theorem Store.Holds.ne {s : Store} (hid : (s.entities.map (·.entity_id)).Nodup) {i j : String}
    {t t' : EntityType} (hi : s.Holds i t) (hj : s.Holds j t') (ht : t ≠ t') : i ≠ j := by
  rintro rfl
  obtain ⟨E, hE, rfl, rfl⟩ := hi
  obtain ⟨F, hF, hFE, rfl⟩ := hj
  exact ht (congrArg Entity.entity_type (List.inj_on_of_nodup_map hid hE hF hFE.symm))

/-! ## The source of an anchor

On the SQLAlchemy branch an anchor's first `Consumes` edge leads to the source its attributes
record, so `create_project_anchor_feature` consumes the anchor's own source. -/

/-- Every stored anchor's first `Consumes` edge leads to the source its attributes record. -/
def Store.AnchorsSourced (s : Store) : Prop :=
  ∀ A ∈ s.entities, ∀ attrs, A.attributes = .anchor attrs →
    ∃ c rest, s.neighbors A.entity_id .consumes = c :: rest ∧ c.to_id = attrs.source.id

theorem Store.neighbors_fresh {s : Store} {x : String} (hx : ¬ s.Mentions x) (t : RelationshipType) :
    s.neighbors x t = [] :=
  List.eq_nil_iff_forall_not_mem.2 fun e he =>
    ((Store.not_mentions hx).2 e (Store.mem_neighbors.1 he).1).1 (Store.mem_neighbors.1 he).2.1

@[simp] theorem Store.neighbors_deleteId_sqlalchemy (s : Store) (x a : String) (t : RelationshipType) :
    (s.deleteId .sqlalchemy x).neighbors a t = s.neighbors a t := by
  simp only [Store.neighbors, Store.deleteId_sqlalchemy_edges]

/-- An anchor is inserted with one upstream id: the source its attributes record. -/
theorem Call.Inserts.anchor_source {b : Branch} {s : Store} {u : String} {c : Call}
    {n : Insertion} (hn : c.Inserts b s u n) {attrs : AnchorAttributes}
    (ha : n.row.attributes = .anchor attrs) : n.upstream = [attrs.source.id] := by
  cases c with
  | createProject => subst hn; cases ha
  | createProjectDatasource => obtain ⟨_, _, rfl⟩ := hn; cases ha
  | createProjectAnchor p d =>
    obtain ⟨P, r, -, hr, rfl⟩ := hn
    cases ha
    have hrt : r.entity_id = d.source_id ∧ r.entity_type = .source := by
      simpa using List.find?_some hr
    simp only [AnchorDef.toAttr, hrt.1]
  | createProjectAnchorFeature => obtain ⟨_, _, _, _, rfl⟩ := hn; cases ha
  | createProjectDerivedFeature => obtain ⟨_, _, _, _, rfl⟩ := hn; cases ha

theorem Store.AnchorsSourced.apply {s : Store} {n : Insertion} (hs : s.AnchorsSourced)
    (hnew : ¬ s.Mentions n.id) (hrow : n.row.entity_id = n.id)
    (hanchor : ∀ attrs, n.row.attributes = .anchor attrs → n.upstream = [attrs.source.id]) :
    (n.apply .sqlalchemy s).AnchorsSourced := by
  intro A hA attrs ha
  rw [Store.neighbors_apply_sqlalchemy]
  rcases Insertion.mem_apply_entities.1 hA with hA | rfl
  · obtain ⟨c, rest, hc, hct⟩ := hs A hA attrs ha
    exact ⟨c, _, by rw [hc, List.cons_append], hct⟩
  · refine ⟨⟨n.id, attrs.source.id, .consumes⟩, [], ?_, rfl⟩
    rw [hrow, Store.neighbors_fresh hnew, Insertion.consumes_from_id, hanchor attrs ha]; rfl

theorem reachable_anchorsSourced {s : Store} (h : Reachable .sqlalchemy s) : s.AnchorsSourced :=
  h.induction_safe (by simp [Store.AnchorsSourced, Store.empty])
    (fun _ _ _ _ _ hs hf hn => by
      have hid := hn.id_eq
      exact hs.apply (hid ▸ hf.new) (hn.row_id_sqlalchemy.trans hid.symm) fun _ => hn.anchor_source)
    (fun _ _ hs _ A hA => by
      rw [Store.neighbors_deleteId_sqlalchemy]
      exact hs A (List.mem_of_mem_filter hA))

/-- On the SQLAlchemy branch, `get_entity` of a stored anchor fills it with the source its
attributes record. -/
theorem getEntity_anchor_sourced {s : Store} (h : Reachable .sqlalchemy s) {A : Entity}
    (hA : A ∈ s.entities) {attrs : AnchorAttributes} (ha : A.attributes = .anchor attrs) :
    ∃ fs S, s.getEntity A.entity_id = .ok (.anchor A fs (.plain S)) ∧
      S.entity_id = attrs.source.id := by
  obtain ⟨c, rest, hc, hct⟩ := reachable_anchorsSourced h A hA attrs ha
  obtain ⟨c', rest', hc', -, S, hS, hSc, hSt⟩ := reachable_anchorsFed h A hA
    (by simp [Entity.entity_type, ha, Attributes.entityType])
  obtain ⟨rfl, rfl⟩ := List.cons.inj (hc.symm.trans hc')
  obtain ⟨n, hn⟩ := Nat.exists_eq_succ_of_ne_zero (List.ne_nil_of_mem hA ∘ List.length_eq_zero.1)
  refine ⟨s.rowsOf ((s.neighbors A.entity_id .contains).map (·.to_id)), S, ?_, hSc.trans hct⟩
  rw [Store.getEntity, getEntityRow_of_reachable h hA, ok_bind, hn, Store.fillEntity,
    Store.fillWith]
  simp only [ha, hc, ← hSc, getEntityRow_of_reachable h hS, ok_bind, s.fillEntity_source hSt]
  rfl

/-! ## The edges a create call adds -/

theorem addEdge_of_not_mem {b : Branch} {e : Edge} {E : List Edge} (h : e ∉ E) :
    addEdge b e E = E ++ [e] := by
  cases b <;> simp [addEdge, h]

/-- `_create_edge` of distinct edges none of which is stored appends them, on either branch. -/
theorem addEdges_of_new {b : Branch} : ∀ {es E : List Edge}, es.Nodup → (∀ e ∈ es, e ∉ E) →
    addEdges b es E = E ++ es
  | [], _, _, _ => by simp [addEdges]
  | e :: es, E, hd, hn => by
    have he := List.nodup_cons.1 hd
    calc addEdges b (e :: es) E = addEdges b es (E ++ [e]) := by
          rw [← addEdge_of_not_mem (hn e (List.mem_cons_self e es))]; rfl
      _ = E ++ [e] ++ es := addEdges_of_new he.2 fun e' he' => by
          simpa [List.mem_append] using
            ⟨hn e' (List.mem_cons_of_mem e he'), fun h => he.1 (h ▸ he')⟩
      _ = E ++ e :: es := by simp

theorem Insertion.edges_nodup {n : Insertion} (ho : n.owners.Nodup) (hu : n.upstream.Nodup) :
    n.edges.Nodup := by
  refine List.Nodup.append (List.nodup_flatMap.2 ⟨?_, ho.imp ?_⟩)
    (List.nodup_flatMap.2 ⟨?_, hu.imp ?_⟩) ?_
  · simp
  · intro o o' hne; simp [Function.onFun, hne, Ne.symm hne]
  · simp
  · intro v v' hne; simp [Function.onFun, hne, Ne.symm hne]
  · intro e he he'
    simp only [List.mem_flatMap, List.mem_cons, List.not_mem_nil, or_false] at he he'
    obtain ⟨o, -, rfl | rfl⟩ := he <;> obtain ⟨v, -, h | h⟩ := he' <;> cases h

/-- Every edge an insertion adds names its new id, which no stored edge does. -/
theorem Insertion.edges_new {s : Store} {n : Insertion} (hnew : ¬ s.Mentions n.id) :
    ∀ e ∈ n.edges, e ∉ s.edges := by
  intro e he hs
  have hne := (Store.not_mentions hnew).2 e hs
  rw [Insertion.mem_edges] at he
  rcases he with ⟨o, -, rfl | rfl⟩ | ⟨v, -, rfl | rfl⟩ <;> simp at hne

section Valid

variable {s : Store} (hid : (s.entities.map (·.entity_id)).Nodup)

include hid in
/-- An anchor feature's project and anchor are different entities, so its owners are distinct. -/
theorem Call.owners_nodup {c : Call} (hn : c.Names s) : c.owners.Nodup := by
  cases c with
  | createProjectAnchorFeature p a d =>
    simpa [Call.owners] using hn.1.ne hid hn.2 nofun
  | _ => simp [Call.owners]

include hid in
/-- The upstream ids the spec names for a call whose inputs are distinct are distinct: a derived
feature's anchor-feature inputs and derived-feature inputs name entities of different types. -/
theorem Call.upstream_nodup {c : Call} (hn : c.Names s) (hd : c.InputsDistinct)
    {ups : List String} (hu : c.UpstreamSpec s ups) : ups.Nodup := by
  cases c with
  | createProject | createProjectDatasource => rw [hu]; exact List.nodup_nil
  | createProjectAnchor => rw [hu]; exact List.nodup_singleton _
  | createProjectAnchorFeature => obtain ⟨-, -, -, -, -, rfl⟩ := hu; exact List.nodup_singleton _
  | createProjectDerivedFeature p d =>
    refine hu.nodup_iff.2 (List.Nodup.append hd.1 hd.2 fun i hi hi' => ?_)
    exact (hn.2.1 i hi).ne hid (hn.2.2 i hi') nofun rfl

theorem Call.RowSpec.entity_id {x : String} {c : Call} {R : Entity} (hR : c.RowSpec s x R) :
    R.entity_id = x := by
  cases c with
  | createProject => rw [hR]
  | createProjectDatasource | createProjectAnchorFeature => obtain ⟨_, _, _, rfl⟩ := hR; rfl
  | createProjectAnchor => obtain ⟨_, _, _, _, _, _, rfl⟩ := hR; rfl
  | createProjectDerivedFeature => obtain ⟨_, _, _, _, rfl, _⟩ := hR; rfl

end Valid

/-- Under the spec's precondition every create call plans the insertion the spec describes: its
row under the new id `x`, and the edges to its owners and to the upstream ids the spec names. -/
theorem Call.plan_valid {b : Branch} {s : Store} (h : Reachable b s) {c : Call} (x : String)
    (hn : c.Names s) (hd : c.InputsDistinct) (hb : b = .sqlalchemy ∨ c.onAnchor = false)
    (hq : ∀ q, c.qualifiedName s = .ok q → ∀ E ∈ s.entities, E.qualified_name ≠ q) :
    ∃ R ups, c.plan b s x = .ok ((Insertion.mk R x c.owners ups).writes b, x) ∧
      c.RowSpec s x R ∧ c.UpstreamSpec s ups := by
  have hid := entity_id_unique h
  cases c with
  | createProject d =>
    have hfree : findExisting s d.name sameProject = .ok none := findExisting_free (hq _ rfl)
    refine ⟨_, _, ?_, rfl, rfl⟩
    simp only [Call.plan, FeathrRegistry.createProject, hfree, ok_bind]; rfl
  | createProjectDatasource p d =>
    obtain ⟨P, hP, rfl, ht⟩ := hn
    obtain ⟨cs, hget⟩ := getEntity_project h hP ht
    have hfree : findExisting s (P.qualified_name ++ "__" ++ d.name) (sameSource d) = .ok none :=
      findExisting_free (hq _ (by simp only [Call.qualifiedName, hget, ok_bind]; rfl))
    refine ⟨_, _, ?_, ⟨P, hP, rfl, rfl⟩, rfl⟩
    simp only [Call.plan, FeathrRegistry.createProjectDatasource, hget, ok_bind, Filled.entity, hfree]; rfl
  | createProjectAnchor p d =>
    obtain rfl : b = .sqlalchemy := hb.resolve_right (by simp [Call.onAnchor])
    obtain ⟨⟨P, hP, rfl, ht⟩, S, hS, hSd, hSt⟩ := hn
    obtain ⟨cs, hget⟩ := getEntity_project h hP ht
    have hfree : findExisting s (P.qualified_name ++ "__" ++ d.name) (sameAnchor d) = .ok none :=
      findExisting_free (hq _ (by simp only [Call.qualifiedName, hget, ok_bind]; rfl))
    have hfind := hSd ▸ find?_source hid hS hSt
    refine ⟨_, _, ?_, ⟨P, hP, rfl, S, hS, hSd, rfl⟩, rfl⟩
    simp only [Call.plan, FeathrRegistry.createProjectAnchor, hget, ok_bind, Filled.entity, hfree, hfind,
      anchorRowId]; rfl
  | createProjectAnchorFeature p a d =>
    obtain rfl : b = .sqlalchemy := hb.resolve_right (by simp [Call.onAnchor])
    obtain ⟨-, A, hA, rfl, ht⟩ := hn
    obtain ⟨attrs, ha⟩ : ∃ attrs, A.attributes = .anchor attrs := by
      rcases ha : A.attributes <;> simp [Entity.entity_type, Attributes.entityType, ha] at ht ⊢
    obtain ⟨fs, S, hget, hS⟩ := getEntity_anchor_sourced h hA ha
    have hfree : findExisting s (A.qualified_name ++ "__" ++ d.name) (sameAnchorFeature d) = .ok none :=
      findExisting_free (hq _ (by simp only [Call.qualifiedName, hget, ok_bind]; rfl))
    refine ⟨_, _, ?_, ⟨A, hA, rfl, rfl⟩, A, hA, rfl, attrs, ha, rfl⟩
    simp only [Call.plan, FeathrRegistry.createProjectAnchorFeature, hget, ok_bind, Filled.entity, hfree, hS]; rfl
  | createProjectDerivedFeature p d =>
    obtain ⟨⟨P, hP, rfl, ht⟩, haf, hdf⟩ := hn
    obtain ⟨cs, hget⟩ := getEntity_project h hP ht
    have hfree : findExisting s (P.qualified_name ++ "__" ++ d.name) (sameDerivedFeature d) = .ok none :=
      findExisting_free (hq _ (by simp only [Call.qualifiedName, hget, ok_bind]; rfl))
    have h1 := inputRows_perm hid hd.1 haf
    have h2 := inputRows_perm hid hd.2 hdf
    have hl1 := (List.length_map _ _).symm.trans h1.length_eq
    have hl2 := (List.length_map _ _).symm.trans h2.length_eq
    have hups : ((inputRows s d.input_anchor_features .anchorFeature ++
        inputRows s d.input_derived_features .derivedFeature).map (·.entity_id)).Perm
          (d.input_anchor_features ++ d.input_derived_features) := by
      rw [List.map_append]; exact h1.append h2
    refine ⟨_, _, ?_, ⟨P, hP, rfl, (inputRows s d.input_anchor_features .anchorFeature ++
      inputRows s d.input_derived_features .derivedFeature).map fun r =>
        ⟨r.entity_id, r.entity_type, r.qualified_name⟩, rfl, by rw [List.map_map]; exact hups, ?_⟩,
      hups⟩
    · simp only [Call.plan, FeathrRegistry.createProjectDerivedFeature, hget, ok_bind,
        Filled.entity, hfree, hl1, hl2, bne_self_eq_false, Bool.false_eq_true, ↓reduceIte]; rfl
    · simp only [List.mem_map, List.mem_append]
      rintro r ⟨F, hF, rfl⟩
      exact ⟨F, hF.elim List.mem_of_mem_filter List.mem_of_mem_filter, rfl⟩

/-- The create calls' postcondition. In every store the SQLAlchemy branch reaches, a create call
whose ids name stored entities of the types it requires, whose inputs are distinct and whose
computed qualified name no row holds succeeds with its fresh `uuid4` `x`. It adds exactly the row
the spec describes under `x`, and the `Contains`/`BelongsTo` pair to each owner and the
`Consumes`/`Produces` pair to each upstream id the spec names. -/
theorem create_postcondition {s : Store} (h : Reachable .sqlalchemy s) {c : Call} {x : String}
    (hf : Fresh s c x) (hn : c.Names s) (hd : c.InputsDistinct)
    (hq : ∀ q, c.qualifiedName s = .ok q → ∀ E ∈ s.entities, E.qualified_name ≠ q) :
    ¬ s.Mentions x ∧ ∃ R ups, c.RowSpec s x R ∧ c.UpstreamSpec s ups ∧
      c.run .sqlalchemy s x =
        (⟨s.entities ++ [R], s.edges ++ (Insertion.mk R x c.owners ups).edges⟩, .ok x) := by
  have hid := entity_id_unique h
  obtain ⟨R, ups, hplan, hR, hups⟩ := Call.plan_valid h x hn hd (.inl rfl) hq
  have hfree : s.entities.any (·.entity_id == R.entity_id) = false := by
    rw [hR.entity_id]; simpa using (Store.not_mentions hf.new).1
  have hedges : addEdges .sqlalchemy (Insertion.mk R x c.owners ups).edges s.edges =
      s.edges ++ (Insertion.mk R x c.owners ups).edges :=
    addEdges_of_new (Insertion.edges_nodup (c.owners_nodup hid hn) (c.upstream_nodup hid hn hd hups))
      (Insertion.edges_new hf.new)
  refine ⟨hf.new, R, ups, hR, hups, ?_⟩
  simp only [Call.run, commit, hplan, runWrites_insertion, hfree, Bool.false_eq_true, ↓reduceIte,
    Insertion.apply, hedges]

/-- A derived feature `d1` of the scenario's `f1` under `p1`, created on the SQLAlchemy branch. -/
theorem create_postcondition_scenario :
    ∃ R ups, (Call.createProjectDerivedFeature "00000000-0000-4000-8000-000000000001"
        ⟨"d1", "INT32", "y", "id", ["00000000-0000-4000-8000-000000000004"], []⟩).RowSpec
        (scenarioStore .sqlalchemy) "00000000-0000-4000-8000-000000000006" R ∧
      ups.Perm ["00000000-0000-4000-8000-000000000004"] ∧
      (Call.createProjectDerivedFeature "00000000-0000-4000-8000-000000000001"
        ⟨"d1", "INT32", "y", "id", ["00000000-0000-4000-8000-000000000004"], []⟩).run .sqlalchemy
        (scenarioStore .sqlalchemy) "00000000-0000-4000-8000-000000000006" =
      (⟨(scenarioStore .sqlalchemy).entities ++ [R], (scenarioStore .sqlalchemy).edges ++
        (Insertion.mk R "00000000-0000-4000-8000-000000000006"
          ["00000000-0000-4000-8000-000000000001"] ups).edges⟩,
        .ok "00000000-0000-4000-8000-000000000006") :=
  (create_postcondition (reachable_scenarioStore .sqlalchemy) (by decide) (by decide) (by decide)
    fun q hq => by
      obtain rfl := Except.ok.inj ((show _ = Except.ok "p1__d1" from rfl).symm.trans hq)
      decide).2

/-- A derived feature that lists its input twice names only stored anchor features, under a free
qualified name, and is still refused: `len(r1)` counts one row against two ids. -/
theorem createProjectDerivedFeature_repeated_input :
    Reachable .sqlalchemy (scenarioStore .sqlalchemy) ∧
      Fresh (scenarioStore .sqlalchemy)
        (.createProjectDerivedFeature "00000000-0000-4000-8000-000000000001"
          ⟨"d1", "INT32", "y", "id", ["00000000-0000-4000-8000-000000000004",
            "00000000-0000-4000-8000-000000000004"], []⟩)
        "00000000-0000-4000-8000-000000000006" ∧
      (Call.createProjectDerivedFeature "00000000-0000-4000-8000-000000000001"
          ⟨"d1", "INT32", "y", "id", ["00000000-0000-4000-8000-000000000004",
            "00000000-0000-4000-8000-000000000004"], []⟩).Names (scenarioStore .sqlalchemy) ∧
      (Call.createProjectDerivedFeature "00000000-0000-4000-8000-000000000001"
          ⟨"d1", "INT32", "y", "id", ["00000000-0000-4000-8000-000000000004",
            "00000000-0000-4000-8000-000000000004"], []⟩).qualifiedName
          (scenarioStore .sqlalchemy) = .ok "p1__d1" ∧
      (∀ E ∈ (scenarioStore .sqlalchemy).entities, E.qualified_name ≠ "p1__d1") ∧
      (Call.createProjectDerivedFeature "00000000-0000-4000-8000-000000000001"
          ⟨"d1", "INT32", "y", "id", ["00000000-0000-4000-8000-000000000004",
            "00000000-0000-4000-8000-000000000004"], []⟩).run .sqlalchemy
          (scenarioStore .sqlalchemy) "00000000-0000-4000-8000-000000000006" =
        (scenarioStore .sqlalchemy, .error (.valueError "Missing input anchor features")) :=
  ⟨reachable_scenarioStore _, by decide, by decide, rfl, by decide, rfl⟩

end FeathrRegistry
