import FeathrRegistry.Model

/-!
# FeathrRegistry.Store

The store primitives of `DbRegistry` that every operation is built from:

* reads: `get_entity_id`, `_get_entity`, `_get_entities`, `get_neighbors`, `_get_edges`, and
  `_fill_entity`, which decorates a row with the entities its edges lead to;
* writes: the statements `create_*`, `_create_edge`, `_delete_all_entity_edges` and
  `_delete_entity` send, each a `Write`, and `runWrites`, which runs a call's statements in
  order.

Neither branch's `transaction()` makes the statements of one call atomic (`runWrites`): a
statement that fails leaves the ones before it committed.
-/

namespace FeathrRegistry

namespace Store

variable (s : Store)

/-- `get_entity_id`: a string in UUID form is returned as it parses, without looking at the
table; anything else is looked up as a qualified name, compared exactly (on the raw-SQL branch
SQL Server's `=` also matches names differing in trailing spaces, or in case under a
case-insensitive collation; see `findExisting`). -/
def getEntityId (x : String) : Except Err String :=
  match toUuid x with
  | some u => .ok u
  | none =>
    match s.entities.find? (·.qualified_name == x) with
    | some e => .ok e.entity_id
    | none => .error (.keyError ("Entity " ++ x ++ " not found"))

/-- `_get_entity`: the row the resolved id names. -/
def getEntityRow (x : String) : Except Err Entity := do
  let id ← s.getEntityId x
  match s.entities.find? (·.entity_id == id) with
  | some e => .ok e
  | none => .error (.keyError ("Entity " ++ x ++ " not found"))

/-- `_get_entities`: the rows whose id is among `ids`, in table order. -/
def rowsOf (ids : List String) : List Entity :=
  s.entities.filter fun e => ids.contains e.entity_id

/-- The rows `get_neighbors` selects for an id it has resolved. -/
def neighbors (id : String) (t : RelationshipType) : List Edge :=
  s.edges.filter fun e => e.from_id == id && e.conn_type == t

/-- An id that occurs in a table. -/
def Mentions (u : String) : Prop :=
  (∃ e ∈ s.entities, e.entity_id = u) ∨ ∃ e ∈ s.edges, e.from_id = u ∨ e.to_id = u

end Store

/-- An entity with the decorations `_fill_entity` gives it. -/
inductive Filled
  | project (e : Entity) (children : List Entity)
  | anchor (e : Entity) (features : List Entity) (source : Filled)
  | derivedFeature (e : Entity) (input_features : List Entity)
  | plain (e : Entity)
  deriving DecidableEq, Repr

def Filled.entity : Filled → Entity
  | .project e _ => e
  | .anchor e _ _ => e
  | .derivedFeature e _ => e
  | .plain e => e

namespace Store

variable (s : Store)

/-- `_fill_entity`, given how to fill an anchor's source: `get_entity` of the first `Consumes`
target. -/
def fillWith (fillSource : Entity → Except Err Filled) (e : Entity) : Except Err Filled :=
  match e.attributes with
  | .project _ => .ok (.project e (s.rowsOf ((s.neighbors e.entity_id .contains).map (·.to_id))))
  | .anchor _ =>
    let features := s.rowsOf ((s.neighbors e.entity_id .contains).map (·.to_id))
    match s.neighbors e.entity_id .consumes with
    | [] => .error .indexError
    | c :: _ => do
      let src ← s.getEntityRow c.to_id
      let src ← fillSource src
      pure (.anchor e features src)
  | .derivedFeature _ =>
    .ok (.derivedFeature e (s.rowsOf ((s.neighbors e.entity_id .consumes).map (·.to_id))))
  | _ => .ok (.plain e)

/-- `_fill_entity`; `fuel` bounds the nesting of `get_entity` through anchors' sources, which on a
cycle of anchors runs into Python's recursion limit. -/
def fillEntity : Nat → Entity → Except Err Filled
  | 0 => s.fillWith fun _ => .error .recursionError
  | n + 1 => s.fillWith (fillEntity n)

/-- `get_entity`. A chain of anchors longer than the table repeats one, so the table's size is
enough fuel for every chain that ends. -/
def getEntity (x : String) : Except Err Filled := do
  let e ← s.getEntityRow x
  s.fillEntity s.entities.length e

/-- `get_entities`: `_get_entities`, each row filled. -/
def getEntities (ids : List String) : Except Err (List Filled) :=
  (s.rowsOf ids).mapM (s.fillEntity s.entities.length)

end Store

/-! ## Write statements -/

/-- The rows `_delete_all_entity_edges` removes for the entity `x`. The raw-SQL branch deletes
`where from_id = x or to_id = x`. The SQLAlchemy branch filters on
`(orm.Edges.from_id == x) | orm.Edges.to_id == x`, which Python groups as
`((from_id == x) | to_id) == x`, the SQL `(from_id = x OR to_id) = x`. On SQLite, the database
the registry is configured with by default, the left side is the integer 0 or 1 and `x` is text,
and an integer never equals a text value: no row matches. -/
def deletesEdge : Branch → String → Edge → Bool
  | .rawSql, x, e => e.from_id == x || e.to_id == x
  | .sqlalchemy, _, _ => false

/-- One statement a registry call sends to the database. -/
inductive Write
  | insertEntity (e : Entity)
  | insertEdge (e : Edge)
  | insertEdgeIfNotExists (e : Edge)
  | deleteEdges (b : Branch) (x : String)
  | deleteEntity (x : String)
  deriving DecidableEq, Repr

/-- A statement's effect; `entity_id` is the primary key of `entities`. -/
def Write.apply : Write → Store → Except Err Store
  | .insertEntity e, s =>
    if s.entities.any (·.entity_id == e.entity_id) then .error .integrityError
    else .ok { s with entities := s.entities ++ [e] }
  | .insertEdge e, s => .ok { s with edges := s.edges ++ [e] }
  | .insertEdgeIfNotExists e, s => .ok (if e ∈ s.edges then s else { s with edges := s.edges ++ [e] })
  | .deleteEdges b x, s => .ok { s with edges := s.edges.filter fun e => !deletesEdge b x e }
  | .deleteEntity x, s => .ok { s with entities := s.entities.filter (·.entity_id != x) }

/-- `_create_edge`: the SQLAlchemy branch inserts the row; the raw-SQL branch wraps the insert
in `IF NOT EXISTS`. -/
def createEdge : Branch → String → String → RelationshipType → Write
  | .sqlalchemy, a, b, t => .insertEdge ⟨a, b, t⟩
  | .rawSql, a, b, t => .insertEdgeIfNotExists ⟨a, b, t⟩

/-- The store after a call's statements run in order, and the exception that ends them
(`failAt = some k`: the database fails the statement at position `k`). Each statement is
committed when it runs: the SQLAlchemy branch writes through `self.connection`, which
autocommits, and commits `self.sql_session` after each delete, never through the session
`transaction()` yields; the raw-SQL `transaction()` builds `conn_params` with `autocommit` off
but opens its connection with `make_connection()`, which keeps it on. The rollback on an
exception therefore restores nothing. -/
def runWrites : Option Nat → List Write → Store → Store × Option Err
  | _, [], s => (s, none)
  | some 0, _ :: _, s => (s, some .storeFailure)
  | f, w :: ws, s =>
    match w.apply s with
    | .ok s' => runWrites (f.map (· - 1)) ws s'
    | .error e => (s, some e)

/-- A call that reads the store, then sends `ws` and returns `r`: the store after it and its
outcome. -/
def commit {α : Type} (failAt : Option Nat) (plan : Except Err (List Write × α)) (s : Store) :
    Store × Except Err α :=
  match plan with
  | .error e => (s, .error e)
  | .ok (ws, r) =>
    match runWrites failAt ws s with
    | (s', none) => (s', .ok r)
    | (s', some e) => (s', .error e)

/-! ## Basic facts -/

namespace Store

variable {s : Store}

@[simp] theorem mem_rowsOf {ids : List String} {e : Entity} :
    e ∈ s.rowsOf ids ↔ e ∈ s.entities ∧ e.entity_id ∈ ids := by
  simp [rowsOf]

@[simp] theorem mem_neighbors {id : String} {t : RelationshipType} {e : Edge} :
    e ∈ s.neighbors id t ↔ e ∈ s.edges ∧ e.from_id = id ∧ e.conn_type = t := by
  simp [neighbors, and_assoc]

theorem not_mentions {u : String} (h : ¬ s.Mentions u) :
    (∀ e ∈ s.entities, e.entity_id ≠ u) ∧ ∀ e ∈ s.edges, e.from_id ≠ u ∧ e.to_id ≠ u := by
  simp only [Mentions, not_or, not_exists, not_and] at h
  exact h

theorem getEntityId_of_toUuid {x u : String} (h : toUuid x = some u) : s.getEntityId x = .ok u := by
  simp [getEntityId, h]

/-- A resolved id is the parse of the input or the id of a stored row. -/
theorem getEntityId_ok {x id : String} (h : s.getEntityId x = .ok id) :
    toUuid x = some id ∨ ∃ e ∈ s.entities, e.entity_id = id := by
  unfold getEntityId at h
  split at h
  · cases h; exact .inl ‹_›
  · split at h
    · cases h; exact .inr ⟨_, List.mem_of_find?_eq_some ‹_›, rfl⟩
    · cases h

theorem getEntityRow_mem {x : String} {e : Entity} (h : s.getEntityRow x = .ok e) :
    e ∈ s.entities := by
  simp only [getEntityRow, bind, Except.bind] at h
  split at h
  · cases h
  · split at h
    · cases h; exact List.mem_of_find?_eq_some ‹_›
    · cases h

/-- A lookup of an id in UUID form finds the row stored under it. -/
theorem getEntityRow_of_uuid {x : String} {e : Entity} (hx : toUuid x = some x)
    (h : s.getEntityRow x = .ok e) : e ∈ s.entities ∧ e.entity_id = x := by
  simp only [getEntityRow, getEntityId_of_toUuid hx, bind, Except.bind] at h
  split at h
  · rename_i hf
    cases h
    have hid := List.find?_some hf
    exact ⟨List.mem_of_find?_eq_some hf, eq_of_beq hid⟩
  · cases h

/-- A stored row whose id is in UUID form and is no other row's is what `_get_entity` of its id
finds. -/
theorem getEntityRow_of_inj {P : Entity} (hP : P ∈ s.entities)
    (hx : toUuid P.entity_id = some P.entity_id)
    (hinj : ∀ R ∈ s.entities, R.entity_id = P.entity_id → R = P) :
    s.getEntityRow P.entity_id = .ok P := by
  simp only [getEntityRow, getEntityId_of_toUuid hx, bind, Except.bind]
  split
  · rename_i e he
    have hide := List.find?_some he
    rw [hinj e (List.mem_of_find?_eq_some he) (eq_of_beq hide)]
  · rename_i he
    exact absurd (beq_self_eq_true _) (List.find?_eq_none.1 he P hP)

theorem fillWith_entity {f : Entity → Except Err Filled} {e : Entity} {F : Filled}
    (h : s.fillWith f e = .ok F) : F.entity = e := by
  unfold fillWith at h
  split at h <;> try (cases h; rfl)
  split at h
  · cases h
  · simp only [bind, Except.bind] at h
    split at h
    · cases h
    · split at h
      · cases h
      · cases h; rfl

theorem fillEntity_entity {n : Nat} {e : Entity} {F : Filled} (h : s.fillEntity n e = .ok F) :
    F.entity = e := by
  cases n <;> exact fillWith_entity h

/-- A filled anchor's source is the row its first `Consumes` edge leads to. -/
theorem fillWith_anchor {f : Entity → Except Err Filled} {e A : Entity} {fs : List Entity}
    {src : Filled} (hf : ∀ e F, f e = .ok F → F.entity = e)
    (h : s.fillWith f e = .ok (.anchor A fs src)) :
    A = e ∧ e.entity_type = .anchor ∧ ∃ c rest, s.neighbors e.entity_id .consumes = c :: rest ∧
      s.getEntityRow c.to_id = .ok src.entity := by
  unfold fillWith at h
  split at h <;> try cases h
  rename_i ha
  split at h
  · cases h
  · rename_i c rest hc
    simp only [bind, Except.bind] at h
    split at h
    · cases h
    · rename_i r hr
      split at h
      · cases h
      · cases h
        exact ⟨rfl, by simp [Entity.entity_type, ha, Attributes.entityType], c, rest, hc,
          by rw [hr, hf _ _ ‹_›]⟩

theorem fillEntity_anchor {n : Nat} {e A : Entity} {fs : List Entity} {src : Filled}
    (h : s.fillEntity n e = .ok (.anchor A fs src)) :
    A = e ∧ e.entity_type = .anchor ∧ ∃ c rest, s.neighbors e.entity_id .consumes = c :: rest ∧
      s.getEntityRow c.to_id = .ok src.entity := by
  cases n with
  | zero => exact fillWith_anchor (fun _ _ h => by cases h) h
  | succ n => exact fillWith_anchor (fun _ _ => fillEntity_entity) h

/-- `get_entity` of an anchor: a stored row, and the row its first `Consumes` edge leads to. -/
theorem getEntity_anchor {x : String} {A : Entity} {fs : List Entity} {src : Filled}
    (h : s.getEntity x = .ok (.anchor A fs src)) :
    A ∈ s.entities ∧ A.entity_type = .anchor ∧ ∃ c rest, s.neighbors A.entity_id .consumes = c :: rest ∧
      s.getEntityRow c.to_id = .ok src.entity := by
  simp only [getEntity, bind, Except.bind] at h
  split at h
  · cases h
  · rename_i e he
    obtain ⟨rfl, hc⟩ := fillEntity_anchor h
    exact ⟨getEntityRow_mem he, hc⟩

theorem getEntity_entity {x : String} {F : Filled} (h : s.getEntity x = .ok F) :
    s.getEntityRow x = .ok F.entity := by
  simp only [getEntity, bind, Except.bind] at h
  split at h
  · cases h
  · rw [fillEntity_entity h]; assumption

end Store

@[simp] theorem runWrites_nil (f : Option Nat) (s : Store) : runWrites f [] s = (s, none) := by
  rcases f with _ | _ | _ <;> rfl

theorem runWrites_cons_none (w : Write) (ws : List Write) (s : Store) :
    runWrites none (w :: ws) s =
      match w.apply s with
      | .ok s' => runWrites none ws s'
      | .error e => (s, some e) := rfl

end FeathrRegistry
