import FeathrRegistry.Create
import FeathrRegistry.Delete
import Mathlib.Logic.Relation

/-!
# FeathrRegistry.Run

The registry as a state machine over the two tables. A step serves one request to completion:
a create call, with a `uuid4` it draws fresh (`Step.create`), or a `DELETE /entity/{entity}`
request (`Step.delete`). `Reachable b` is every store such steps reach from the empty database
on branch `b`; the database `DbRegistry.__init__` leaves on the SQLAlchemy branch, holding the
`global` project, is one of them.

What a step can do is said once:
* `Call.run_cases`: a create call leaves the store as it was or makes one `Insertion`;
* `deleteEntityHandler_deletes`: a delete request is a sequence of `delete_entity` calls.

`Reachable.induction_on` then turns every invariant into one lemma about an insertion and one
about a deletion.
-/

namespace FeathrRegistry

/-! ## Inserting -/

/-- The edge rows after `_create_edge` of `e`: the raw-SQL branch skips an edge already there. -/
def addEdge : Branch → Edge → List Edge → List Edge
  | .sqlalchemy, e, es => es ++ [e]
  | .rawSql, e, es => if e ∈ es then es else es ++ [e]

@[simp] theorem mem_addEdge {b : Branch} {e x : Edge} {es : List Edge} :
    x ∈ addEdge b e es ↔ x ∈ es ∨ x = e := by
  cases b
  · simp [addEdge]
  · simp only [addEdge]
    split <;> simp_all [or_iff_left_of_imp]

theorem Write.apply_createEdge (b : Branch) (a c : String) (t : RelationshipType) (s : Store) :
    (createEdge b a c t).apply s = .ok { s with edges := addEdge b ⟨a, c, t⟩ s.edges } := by
  cases b
  · rfl
  · simp only [createEdge, Write.apply, addEdge]; split <;> rfl

/-- The edge rows after `_create_edge` of each of `es` in turn. -/
def addEdges (b : Branch) (es : List Edge) (E : List Edge) : List Edge :=
  es.foldl (fun E e => addEdge b e E) E

@[simp] theorem mem_addEdges {b : Branch} {es E : List Edge} {x : Edge} :
    x ∈ addEdges b es E ↔ x ∈ E ∨ x ∈ es := by
  induction es generalizing E with
  | nil => simp [addEdges]
  | cons e es ih =>
    simp only [addEdges, List.foldl_cons] at ih ⊢
    rw [ih, mem_addEdge, List.mem_cons]
    tauto

theorem runWrites_edges (b : Branch) (es : List Edge) (s : Store) :
    runWrites none (es.map fun e => createEdge b e.from_id e.to_id e.conn_type) s =
      ({ s with edges := addEdges b es s.edges }, none) := by
  induction es generalizing s with
  | nil => simp [addEdges]
  | cons e es ih => simp [runWrites_cons_none, Write.apply_createEdge, ih, addEdges]

/-- The store after an insertion's statements ran. -/
def Insertion.apply (b : Branch) (n : Insertion) (s : Store) : Store :=
  ⟨s.entities ++ [n.row], addEdges b n.edges s.edges⟩

@[simp] theorem Insertion.mem_apply_entities {b : Branch} {n : Insertion} {s : Store}
    {R : Entity} : R ∈ (n.apply b s).entities ↔ R ∈ s.entities ∨ R = n.row := by
  simp [Insertion.apply]

@[simp] theorem Insertion.mem_apply_edges {b : Branch} {n : Insertion} {s : Store} {e : Edge} :
    e ∈ (n.apply b s).edges ↔ e ∈ s.edges ∨ e ∈ n.edges := mem_addEdges

theorem runWrites_insertion (b : Branch) (n : Insertion) (s : Store) :
    runWrites none (n.writes b) s =
      if s.entities.any (·.entity_id == n.row.entity_id) then (s, some .integrityError)
      else (n.apply b s, none) := by
  simp only [Insertion.writes, runWrites_cons_none, Write.apply]
  by_cases hk : s.entities.any (·.entity_id == n.row.entity_id) <;>
    simp only [hk, if_true, if_false, Bool.false_eq_true, runWrites_edges, Insertion.apply]

/-- A create call leaves the store as it was, or makes the insertion it describes: under a
qualified name and a row id no row holds. -/
theorem Call.run_cases {b : Branch} {s s' : Store} {u : String} {c : Call} {r : Except Err String}
    (h : c.run b s u = (s', r)) :
    s' = s ∨ ∃ n, c.Inserts b s u n ∧ (∀ e ∈ s.entities, e.qualified_name ≠ n.row.qualified_name) ∧
      (∀ e ∈ s.entities, e.entity_id ≠ n.row.entity_id) ∧ s' = n.apply b s := by
  unfold Call.run commit at h
  split at h
  · cases h; exact .inl rfl
  · rename_i ws r0 hp
    rcases Call.plan_ok hp with rfl | ⟨n, hn, hq, rfl, -⟩
    · simp at h; exact .inl h.1.symm
    · rw [runWrites_insertion] at h
      by_cases hk : s.entities.any (·.entity_id == n.row.entity_id)
      · simp only [hk, if_true] at h
        exact .inl (Prod.ext_iff.1 h).1.symm
      · simp only [hk, if_false, Bool.false_eq_true] at h
        simp only [List.any_eq_true, beq_iff_eq, not_exists, not_and] at hk
        exact .inr ⟨n, hn, hq, hk, (Prod.ext_iff.1 h).1.symm⟩

theorem Call.Inserts.id_eq {b : Branch} {s : Store} {u : String} {c : Call} {n : Insertion}
    (hn : c.Inserts b s u n) : n.id = u := by
  cases c with
  | createProject => subst hn; rfl
  | createProjectDatasource => obtain ⟨_, _, rfl⟩ := hn; rfl
  | createProjectAnchor => obtain ⟨_, _, _, _, rfl⟩ := hn; rfl
  | createProjectAnchorFeature => obtain ⟨_, _, _, _, rfl⟩ := hn; rfl
  | createProjectDerivedFeature => obtain ⟨_, _, _, _, rfl⟩ := hn; rfl

/-- The owners and upstream ids of an insertion are call arguments or stored ids, so a fresh
`uuid4` is none of them. -/
theorem Call.Inserts.ends_ne {b : Branch} {s : Store} {u : String} {c : Call} {n : Insertion}
    (hf : Fresh s c u) (hn : c.Inserts b s u n) :
    (∀ o ∈ n.owners, o ≠ u) ∧ ∀ v ∈ n.upstream, v ≠ u := by
  have hrow := (Store.not_mentions hf.new).1
  have harg := fun x hx => (hf.notArg x hx).1
  cases c with
  | createProject d => subst hn; simp
  | createProjectDatasource p d =>
    obtain ⟨P, -, rfl⟩ := hn
    simpa using harg p (by simp [Call.idArgs])
  | createProjectAnchor p d =>
    obtain ⟨P, r, -, -, rfl⟩ := hn
    simpa using ⟨harg p (by simp [Call.idArgs]), harg d.source_id (by simp [Call.idArgs])⟩
  | createProjectAnchorFeature p a d =>
    obtain ⟨A, fs, src, hA, rfl⟩ := hn
    obtain ⟨-, -, c, rest, -, hsrc⟩ := Store.getEntity_anchor hA
    simpa using ⟨⟨harg p (by simp [Call.idArgs]), harg a (by simp [Call.idArgs])⟩,
      hrow _ (Store.getEntityRow_mem hsrc)⟩
  | createProjectDerivedFeature p d =>
    obtain ⟨P, -, -, -, rfl⟩ := hn
    refine ⟨by simpa using harg p (by simp [Call.idArgs]), ?_⟩
    simp only [List.map_append, List.mem_append, List.mem_map]
    rintro v (⟨r, hr, rfl⟩ | ⟨r, hr, rfl⟩) <;>
      exact hrow r (List.mem_of_mem_filter hr)

/-! ## Deleting -/

/-- The store after `delete_entity` of the resolved id `id`. -/
def Store.deleteId (b : Branch) (id : String) (s : Store) : Store :=
  ⟨s.entities.filter (·.entity_id != id), s.edges.filter fun e => !deletesEdge b id e⟩

/-- One `delete_entity` call of a delete request. -/
def DeleteStep (b : Branch) (s s' : Store) : Prop := ∃ id, s' = s.deleteId b id

theorem deleteEntity_eq (b : Branch) (s : Store) (x : String) :
    deleteEntity b s x =
      match s.getEntityId x with
      | .error e => (s, .error e)
      | .ok id => (s.deleteId b id, .ok ()) := by
  unfold deleteEntity deleteEntityPlan commit
  cases s.getEntityId x <;> rfl

theorem deleteEntity_deletes {b : Branch} {s s' : Store} {x : String} {r : Except Err Unit}
    (h : deleteEntity b s x = (s', r)) : Relation.ReflTransGen (DeleteStep b) s s' := by
  rw [deleteEntity_eq] at h
  split at h <;> cases h
  · exact .refl
  · exact .single ⟨_, rfl⟩

theorem deleteEmptyPass_deletes {b : Branch} {fuel : Nat} {t : EntityType} {rel : RelationshipType} :
    ∀ {es : List Filled} {s s' : Store} {r : Except Err Unit},
      deleteEmptyPass b fuel t rel es s = some (s', r) → Relation.ReflTransGen (DeleteStep b) s s'
  | [], s, s', r, h => by cases h; exact .refl
  | e :: es, s, s', r, h => by
    unfold deleteEmptyPass at h
    split at h
    · split at h
      · cases h
      · cases h; exact .refl
      · split at h
        · split at h
          · rename_i s1 h1
            exact (deleteEntity_deletes h1).trans (deleteEmptyPass_deletes h)
          · rename_i s1 _ h1
            cases h; exact deleteEntity_deletes h1
        · exact deleteEmptyPass_deletes h
    · exact deleteEmptyPass_deletes h

theorem deleteEmptyEntities_deletes {b : Branch} {fuel : Nat} {es : List Filled} {s s' : Store}
    {r : Except Err Unit} (h : deleteEmptyEntities b fuel es s = some (s', r)) :
    Relation.ReflTransGen (DeleteStep b) s s' := by
  unfold deleteEmptyEntities at h
  split at h
  · exact (deleteEmptyPass_deletes ‹_›).trans (deleteEmptyPass_deletes h)
  · exact deleteEmptyPass_deletes h

/-- A delete request is a sequence of `delete_entity` calls. -/
theorem deleteEntityHandler_deletes {b : Branch} {fuel : Nat} {s s' : Store} {x : String}
    {r : Except Err Unit} (h : deleteEntityHandler b fuel s x = some (s', r)) :
    Relation.ReflTransGen (DeleteStep b) s s' := by
  unfold deleteEntityHandler at h
  split at h
  · cases h; exact .refl
  · split at h
    · cases h
    · cases h; exact .refl
    · exact deleteEntity_deletes (Option.some.inj h)
    · split at h
      · cases h
      · cases h; exact deleteEmptyEntities_deletes ‹_›
      · rename_i s1 h1
        have h1 := deleteEmptyEntities_deletes h1
        split at h
        · cases h
        · cases h; exact h1
        · exact h1.trans (deleteEntity_deletes (Option.some.inj h))
        · cases h; exact h1

/-! ## Runs -/

/-- One request served to completion on branch `b`. -/
inductive Step (b : Branch) : Store → Store → Prop
  | create {s s' : Store} {c : Call} {u : String} {r : Except Err String} :
      Fresh s c u → c.run b s u = (s', r) → Step b s s'
  | delete {s s' : Store} {fuel : Nat} {x : String} {r : Except Err Unit} :
      deleteEntityHandler b fuel s x = some (s', r) → Step b s s'

/-- The stores reachable on branch `b` from the empty database. -/
inductive Reachable (b : Branch) : Store → Prop
  | init : Reachable b .empty
  | step {s s' : Store} : Reachable b s → Step b s s' → Reachable b s'

/-- Create calls run one after another, each with its `uuid4`. -/
def runCalls (b : Branch) : List (Call × String) → Store → Store
  | [], s => s
  | (c, u) :: cs, s => runCalls b cs (c.run b s u).1

/-- Every `uuid4` of the run is fresh when it is drawn. -/
def freshRun (b : Branch) : List (Call × String) → Store → Bool
  | [], _ => true
  | (c, u) :: cs, s => decide (Fresh s c u) && freshRun b cs (c.run b s u).1

theorem Reachable.runCalls {b : Branch} {s : Store} (h : Reachable b s) :
    ∀ {cs : List (Call × String)}, freshRun b cs s = true → Reachable b (runCalls b cs s)
  | [], _ => h
  | (c, u) :: cs, hf => by
    simp only [freshRun, Bool.and_eq_true, decide_eq_true_eq] at hf
    exact Reachable.runCalls (h.step (.create hf.1 rfl)) hf.2

/-- The scenario of the spec after `DbRegistry.__init__` creates `global`: project `p1`, source
`s1` under it, anchor `a1` over `s1`, anchor feature `f1` under `a1`; then a second source `s2`. -/
def scenario : List (Call × String) :=
  [(.createProject ⟨"global"⟩, "00000000-0000-4000-8000-000000000000"),
   (.createProject ⟨"p1"⟩, "00000000-0000-4000-8000-000000000001"),
   (.createProjectDatasource "00000000-0000-4000-8000-000000000001"
      ⟨"s1", "hdfs", "path", "", "ts", "epoch"⟩, "00000000-0000-4000-8000-000000000002"),
   (.createProjectAnchor "00000000-0000-4000-8000-000000000001"
      ⟨"a1", "00000000-0000-4000-8000-000000000002"⟩, "00000000-0000-4000-8000-000000000003"),
   (.createProjectAnchorFeature "00000000-0000-4000-8000-000000000001"
      "00000000-0000-4000-8000-000000000003" ⟨"f1", "INT32", "x", "id"⟩,
      "00000000-0000-4000-8000-000000000004"),
   (.createProjectDatasource "00000000-0000-4000-8000-000000000001"
      ⟨"s2", "hdfs", "path2", "", "ts", "epoch"⟩, "00000000-0000-4000-8000-000000000005")]

/-- The store the scenario leaves on branch `b`. -/
def scenarioStore (b : Branch) : Store := runCalls b scenario .empty

/-- An invariant of every reachable store: true of the empty one, kept by every insertion a
create call makes with a fresh id, and by every `delete_entity` of a delete request. -/
theorem Reachable.induction_on {b : Branch} {I : Store → Prop} {s : Store} (h : Reachable b s)
    (init : I .empty)
    (insert : ∀ s c u n, Reachable b s → I s → Fresh s c u → c.Inserts b s u n →
      (∀ e ∈ s.entities, e.qualified_name ≠ n.row.qualified_name) →
      (∀ e ∈ s.entities, e.entity_id ≠ n.row.entity_id) → I (n.apply b s))
    (delete : ∀ s id, I s → I (s.deleteId b id)) : I s := by
  induction h with
  | init => exact init
  | step hr hs ih =>
    cases hs with
    | create hf hrun =>
      rcases Call.run_cases hrun with rfl | ⟨n, hn, hq, hid, rfl⟩
      · exact ih
      · exact insert _ _ _ _ hr ih hf hn hq hid
    | delete hd =>
      have key : ∀ {s1 s2}, Relation.ReflTransGen (DeleteStep b) s1 s2 → I s1 → I s2 := by
        intro s1 s2 hrt
        induction hrt with
        | refl => exact id
        | tail _ hst ih2 => obtain ⟨id, rfl⟩ := hst; exact fun h1 => delete _ _ (ih2 h1)
      exact key (deleteEntityHandler_deletes hd) ih

end FeathrRegistry
