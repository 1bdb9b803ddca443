import FeathrRegistry.Api
import Mathlib.Data.List.Nodup

/-!
# FeathrRegistry.Graph

The edge table as a graph, in reachable stores.

* `edges_paired`: every edge is stored with its reverse of the inverse type, `Contains` with
  `BelongsTo` and `Produces` with `Consumes`. Each create call inserts its edges in such pairs,
  and the raw-SQL `_delete_all_entity_edges` removes both ends of every pair it touches (the
  SQLAlchemy branch removes none).
* `edges_acyclic`: for each relationship type, the edges of that type form no cycle. Every edge
  a create call inserts has the fresh id at one end, in a direction fixed by its type, and the
  fresh id has no edge yet, so it cannot close a cycle.
* Duplicates: only the raw-SQL `_create_edge` skips an edge already stored, so only that branch
  keeps every edge once (`edges_nodup_rawSql`). `create_project_anchor_feature` never looks its
  project id up, so the anchor can be named as its own project; the SQLAlchemy branch then stores
  the `Contains` and `BelongsTo` edges of that pair twice (`edges_duplicate_selfOwned`).
-/

namespace FeathrRegistry

/-! ## Pairs -/

/-- `Contains`/`BelongsTo` and `Consumes`/`Produces` are inverse pairs. -/
def RelationshipType.inverse : RelationshipType → RelationshipType
  | .contains => .belongsTo
  | .belongsTo => .contains
  | .consumes => .produces
  | .produces => .consumes

/-- The edge between the same ids the other way, of the inverse type. -/
def Edge.reverse (e : Edge) : Edge := ⟨e.to_id, e.from_id, e.conn_type.inverse⟩

/-- Every stored edge is stored with its reverse. -/
def Store.Paired (s : Store) : Prop := ∀ e ∈ s.edges, e.reverse ∈ s.edges

@[simp] theorem Edge.reverse_reverse (e : Edge) : e.reverse.reverse = e := by
  cases e with
  | mk a c t => cases t <;> rfl

theorem Insertion.mem_edges {n : Insertion} {e : Edge} :
    e ∈ n.edges ↔ (∃ o ∈ n.owners, e = ⟨o, n.id, .contains⟩ ∨ e = ⟨n.id, o, .belongsTo⟩) ∨
      ∃ v ∈ n.upstream, e = ⟨n.id, v, .consumes⟩ ∨ e = ⟨v, n.id, .produces⟩ := by
  simp [Insertion.edges]

theorem Insertion.reverse_mem_edges {n : Insertion} {e : Edge} (h : e ∈ n.edges) :
    e.reverse ∈ n.edges := by
  rw [Insertion.mem_edges] at h ⊢
  rcases h with ⟨o, ho, rfl | rfl⟩ | ⟨v, hv, rfl | rfl⟩
  · exact .inl ⟨o, ho, .inr rfl⟩
  · exact .inl ⟨o, ho, .inl rfl⟩
  · exact .inr ⟨v, hv, .inr rfl⟩
  · exact .inr ⟨v, hv, .inl rfl⟩

theorem deletesEdge_reverse (b : Branch) (id : String) (e : Edge) :
    deletesEdge b id e.reverse = deletesEdge b id e := by
  cases b <;> simp [deletesEdge, Edge.reverse, Bool.or_comm]

theorem Store.Paired.apply {s : Store} (hs : s.Paired) (b : Branch) (n : Insertion) :
    (n.apply b s).Paired := by
  intro e he
  simp only [Insertion.apply, mem_addEdges] at he ⊢
  exact he.imp (hs e) Insertion.reverse_mem_edges

theorem Store.Paired.deleteId {s : Store} (hs : s.Paired) (b : Branch) (id : String) :
    (s.deleteId b id).Paired := by
  intro e he
  simp only [Store.deleteId, List.mem_filter] at he ⊢
  exact ⟨hs e he.1, by rw [deletesEdge_reverse]; exact he.2⟩

theorem reachable_paired {b : Branch} {s : Store} (h : Reachable b s) : s.Paired :=
  h.induction_on (by simp [Store.Paired, Store.empty])
    (fun _ _ _ n _ hs _ _ _ _ => hs.apply b n)
    (fun _ id hs => hs.deleteId b id)

/-- An edge `(a, c, Contains)` is stored iff `(c, a, BelongsTo)` is, and `(a, c, Produces)` iff
`(c, a, Consumes)`. -/
theorem edges_paired {b : Branch} {s : Store} (h : Reachable b s) (a c : String) :
    (⟨a, c, .contains⟩ ∈ s.edges ↔ ⟨c, a, .belongsTo⟩ ∈ s.edges) ∧
      (⟨a, c, .produces⟩ ∈ s.edges ↔ ⟨c, a, .consumes⟩ ∈ s.edges) := by
  have hp := reachable_paired h
  exact ⟨⟨hp _, hp ⟨c, a, .belongsTo⟩⟩, ⟨hp _, hp ⟨c, a, .consumes⟩⟩⟩

theorem edges_paired_scenario :
    Reachable .sqlalchemy (scenarioStore .sqlalchemy) ∧
      ((⟨"00000000-0000-4000-8000-000000000003", "00000000-0000-4000-8000-000000000004", .contains⟩
          ∈ (scenarioStore .sqlalchemy).edges ↔
        ⟨"00000000-0000-4000-8000-000000000004", "00000000-0000-4000-8000-000000000003",
          .belongsTo⟩ ∈ (scenarioStore .sqlalchemy).edges) ∧
      (⟨"00000000-0000-4000-8000-000000000003", "00000000-0000-4000-8000-000000000004", .produces⟩
          ∈ (scenarioStore .sqlalchemy).edges ↔
        ⟨"00000000-0000-4000-8000-000000000004", "00000000-0000-4000-8000-000000000003",
          .consumes⟩ ∈ (scenarioStore .sqlalchemy).edges)) :=
  ⟨reachable_scenarioStore _, edges_paired (reachable_scenarioStore _) _ _⟩

/-! ## Cycles -/

/-- `a` has an edge of type `t` to `c`. -/
def Store.Linked (s : Store) (t : RelationshipType) (a c : String) : Prop := ⟨a, c, t⟩ ∈ s.edges

/-- The edges of type `t` form no cycle, self-loops included. -/
def Store.Acyclic (s : Store) (t : RelationshipType) : Prop :=
  ∀ a, ¬ Relation.TransGen (s.Linked t) a a

section Cycles

variable {α : Type} {R R' : α → α → Prop} {x : α}

/-- A path of `R'`, whose new steps all enter `x`, and `x` a dead end, is a path of `R` as long as
it does not end at `x`. -/
theorem transGen_of_into (hR : ∀ a c, R' a c → R a c ∨ c = x) (hx : ∀ c, ¬ R' x c) {a c : α}
    (h : Relation.TransGen R' a c) (hc : c ≠ x) : Relation.TransGen R a c := by
  induction h with
  | single hac => exact .single ((hR _ _ hac).resolve_right hc)
  | @tail b c _ hbc ih =>
    have hb : b ≠ x := by rintro rfl; exact hx _ hbc
    exact .tail (ih hb) ((hR _ _ hbc).resolve_right hc)

/-- Edges into a node with no way out close no cycle. -/
theorem acyclic_of_into (hacyc : ∀ a, ¬ Relation.TransGen R a a)
    (hR : ∀ a c, R' a c → R a c ∨ c = x) (hx : ∀ c, ¬ R' x c) :
    ∀ a, ¬ Relation.TransGen R' a a := by
  intro a h
  by_cases ha : a = x
  · subst ha
    obtain ⟨c, hxc, -⟩ := Relation.TransGen.head'_iff.1 h
    exact hx c hxc
  · exact hacyc a (transGen_of_into hR hx h ha)

/-- Edges out of a node with no way in close no cycle. -/
theorem acyclic_of_out_of (hacyc : ∀ a, ¬ Relation.TransGen R a a)
    (hR : ∀ a c, R' a c → R a c ∨ a = x) (hx : ∀ a, ¬ R' a x) :
    ∀ a, ¬ Relation.TransGen R' a a := fun a h =>
  @acyclic_of_into α (Function.swap R) (Function.swap R') x
    (fun a h => hacyc a (Relation.transGen_swap.1 h)) (fun a c h => hR c a h) hx a
    (Relation.transGen_swap.2 h)

end Cycles

/-- The edges of each type an insertion adds all enter its id or all leave it, and never start
and end there. -/
theorem Insertion.edge_ends {n : Insertion} (ho : ∀ o ∈ n.owners, o ≠ n.id)
    (hv : ∀ v ∈ n.upstream, v ≠ n.id) {a c : String} {t : RelationshipType}
    (h : ⟨a, c, t⟩ ∈ n.edges) :
    ((t = .contains ∨ t = .produces) ∧ c = n.id ∧ a ≠ n.id) ∨
      ((t = .belongsTo ∨ t = .consumes) ∧ a = n.id ∧ c ≠ n.id) := by
  rw [Insertion.mem_edges] at h
  rcases h with ⟨o, hmem, h | h⟩ | ⟨v, hmem, h | h⟩ <;> obtain ⟨rfl, rfl, rfl⟩ := Edge.mk.inj h
  · exact .inl ⟨.inl rfl, rfl, ho _ hmem⟩
  · exact .inr ⟨.inl rfl, rfl, ho _ hmem⟩
  · exact .inr ⟨.inr rfl, rfl, hv _ hmem⟩
  · exact .inl ⟨.inr rfl, rfl, hv _ hmem⟩

theorem Store.Acyclic.apply {s : Store} {t : RelationshipType} (hs : s.Acyclic t) (b : Branch)
    {n : Insertion} (hnew : ∀ e ∈ s.edges, e.from_id ≠ n.id ∧ e.to_id ≠ n.id)
    (ho : ∀ o ∈ n.owners, o ≠ n.id) (hv : ∀ v ∈ n.upstream, v ≠ n.id) :
    (n.apply b s).Acyclic t := by
  have hlink : ∀ a c, (n.apply b s).Linked t a c ↔ s.Linked t a c ∨ ⟨a, c, t⟩ ∈ n.edges := by
    intro a c; simp [Store.Linked, Insertion.apply]
  have hold : ∀ a c, s.Linked t a c → a ≠ n.id ∧ c ≠ n.id := fun a c h => hnew _ h
  cases t with
  | contains | produces =>
    refine acyclic_of_into hs (x := n.id) (fun a c h => ?_) (fun c h => ?_)
    · rcases (hlink a c).1 h with h | h
      · exact .inl h
      · rcases n.edge_ends ho hv h with ⟨-, rfl, -⟩ | ⟨ht, -⟩
        · exact .inr rfl
        · simp at ht
    · rcases (hlink _ c).1 h with h | h
      · exact (hold _ _ h).1 rfl
      · rcases n.edge_ends ho hv h with ⟨-, -, hne⟩ | ⟨ht, -⟩
        · exact hne rfl
        · simp at ht
  | belongsTo | consumes =>
    refine acyclic_of_out_of hs (x := n.id) (fun a c h => ?_) (fun a h => ?_)
    · rcases (hlink a c).1 h with h | h
      · exact .inl h
      · rcases n.edge_ends ho hv h with ⟨ht, -⟩ | ⟨-, rfl, -⟩
        · simp at ht
        · exact .inr rfl
    · rcases (hlink a _).1 h with h | h
      · exact (hold _ _ h).2 rfl
      · rcases n.edge_ends ho hv h with ⟨ht, -⟩ | ⟨-, -, hne⟩
        · simp at ht
        · exact hne rfl

theorem Store.Acyclic.deleteId {s : Store} {t : RelationshipType} (hs : s.Acyclic t)
    (b : Branch) (id : String) : (s.deleteId b id).Acyclic t := fun a h =>
  hs a (h.mono fun _ _ hac => (List.mem_filter.1 hac).1)

theorem reachable_acyclic {b : Branch} {s : Store} (h : Reachable b s) (t : RelationshipType) :
    s.Acyclic t :=
  Reachable.induction_on (I := fun s => s.Acyclic t) h
    (fun a h => by
      obtain ⟨c, hc, -⟩ := Relation.TransGen.head'_iff.1 h
      simp [Store.Linked, Store.empty] at hc)
    (fun _ _ _ n _ hs hf hn _ _ => by
      obtain ⟨ho, hv⟩ := hn.ends_ne hf
      rw [← hn.id_eq] at ho hv
      exact hs.apply b (fun e he => hn.id_eq ▸ (Store.not_mentions hf.new).2 e he) ho hv)
    (fun _ id hs => hs.deleteId b id)

/-- For each relationship type, the stored edges of that type form no cycle. -/
theorem edges_acyclic {b : Branch} {s : Store} (h : Reachable b s) (t : RelationshipType) :
    s.Acyclic t :=
  reachable_acyclic h t

theorem edges_acyclic_scenario :
    Reachable .sqlalchemy (scenarioStore .sqlalchemy) ∧
      ∀ t, (scenarioStore .sqlalchemy).Acyclic t :=
  ⟨reachable_scenarioStore _, edges_acyclic (reachable_scenarioStore _)⟩

/-! ## Duplicates -/

theorem addEdge_rawSql_nodup {e : Edge} {es : List Edge} (h : es.Nodup) :
    (addEdge .rawSql e es).Nodup := by
  simp only [addEdge]
  split
  · exact h
  · rename_i he
    exact h.append (List.nodup_singleton e) (List.disjoint_singleton.2 he)

theorem addEdges_rawSql_nodup : ∀ (es : List Edge) {E : List Edge}, E.Nodup →
    (addEdges .rawSql es E).Nodup
  | [], _, h => h
  | _ :: es, _, h => addEdges_rawSql_nodup es (addEdge_rawSql_nodup h)

theorem Reachable.edges_nodup {s : Store} (h : Reachable .rawSql s) : s.edges.Nodup :=
  Reachable.induction_on (I := fun s => s.edges.Nodup) h List.nodup_nil
    (fun _ _ _ n _ hs _ _ _ _ => addEdges_rawSql_nodup n.edges hs)
    (fun _ _ hs => hs.filter _)

/-- On the raw-SQL branch no edge is stored twice: `_create_edge` skips an edge already there,
and deleting keeps a sublist. -/
theorem edges_nodup_rawSql {s : Store} (h : Reachable .rawSql s) : s.edges.Nodup :=
  h.edges_nodup

theorem edges_nodup_rawSql_scenario :
    Reachable .rawSql (scenarioStore .rawSql) ∧ (scenarioStore .rawSql).edges.Nodup :=
  ⟨reachable_scenarioStore _, edges_nodup_rawSql (reachable_scenarioStore _)⟩

/-- The SQLAlchemy scenario store after `POST /projects/{project}/anchors/{anchor}/features`
names the anchor `a1` both as the project and as the anchor of a new feature `f2`. -/
def selfOwnedStore : Store :=
  runCalls .sqlalchemy
    [(.createProjectAnchorFeature "00000000-0000-4000-8000-000000000003"
        "00000000-0000-4000-8000-000000000003" ⟨"f2", "INT32", "x", "id"⟩,
      "00000000-0000-4000-8000-000000000006")]
    (scenarioStore .sqlalchemy)

/-- The SQLAlchemy branch stores `Contains(a1 → f2)` and `BelongsTo(f2 → a1)` twice each. -/
theorem edges_duplicate_selfOwned :
    ApiReachable .sqlalchemy selfOwnedStore ∧
      selfOwnedStore.edges.count ⟨"00000000-0000-4000-8000-000000000003",
        "00000000-0000-4000-8000-000000000006", .contains⟩ = 2 ∧
      selfOwnedStore.edges.count ⟨"00000000-0000-4000-8000-000000000006",
        "00000000-0000-4000-8000-000000000003", .belongsTo⟩ = 2 :=
  ⟨(apiReachable_scenarioStore _).runCalls (by decide), by decide, by decide⟩

end FeathrRegistry
