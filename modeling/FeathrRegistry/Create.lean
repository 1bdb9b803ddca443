import FeathrRegistry.Store

/-!
# FeathrRegistry.Create

The five create calls of `DbRegistry` and the HTTP handlers that call them.

Every create call computes a qualified name, looks up the rows that hold it (`findExisting`),
and either answers from the one row it finds (its id, or `ConflictError`) or checks the entities
the definition references and inserts: the entity row, a `Contains`/`BelongsTo` pair to each
owner, a `Consumes`/`Produces` pair to each upstream entity (`Insertion`). A call is modelled as
a plan, computed from the store it reads, and the statements it then sends (`commit`); no call
reads the store after its first write.

The new entity's id is the `uuid4` the call draws, a parameter `u` here.
-/

namespace FeathrRegistry

/-- The check that opens every create call: the rows already holding the qualified name `q`.
None: the call goes on to insert. One: the call returns its id when `same` accepts its
attributes (the entity type and the fields this call compares) and raises `ConflictError`
otherwise. More than one: the assertion on data inconsistency.

The names are compared exactly, as SQLite's `=` compares them on the SQLAlchemy branch. The
raw-SQL branch sends `where qualified_name = %s` to SQL Server, whose `=` ignores trailing spaces
and, under a case-insensitive collation, case: there the code finds every row the model finds and
maybe more, and so refuses every name the model refuses. What one call does to a given store is
stated for the SQLAlchemy branch only. -/
def findExisting (s : Store) (q : String) (same : Attributes → Bool) : Except Err (Option String) :=
  match s.entities.filter (·.qualified_name == q) with
  | [] => .ok none
  | [r] =>
    if same r.attributes then
      match toUuid r.entity_id with
      | some id => .ok (some id)
      | none => .error (.valueError "badly formed hexadecimal UUID string")
    else .error (.conflictError ("Entity " ++ q ++ " already exists"))
  | rs => .error (.assertionError ("Data inconsistency detected, " ++ toString rs.length ++
      " entities have same qualified_name " ++ q))

/-- `create_project` accepts any existing project of the name. -/
def sameProject : Attributes → Bool
  | .project _ => true
  | _ => false

def sameSource (d : SourceDef) : Attributes → Bool
  | .source a => a.name == d.name && a.type == d.type && a.options == d.options &&
      a.preprocessing == d.preprocessing && a.event_timestamp_column == d.event_timestamp_column &&
      a.timestamp_format == d.timestamp_format
  | _ => false

/-- `create_project_anchor` compares the name only. -/
def sameAnchor (d : AnchorDef) : Attributes → Bool
  | .anchor a => a.name == d.name
  | _ => false

def sameAnchorFeature (d : AnchorFeatureDef) : Attributes → Bool
  | .anchorFeature a => a.name == d.name && a.type == d.feature_type &&
      a.transformation == d.transformation && a.key == d.key
  | _ => false

/-- `create_project_derived_feature` compares the fields of `sameAnchorFeature`, not the inputs. -/
def sameDerivedFeature (d : DerivedFeatureDef) : Attributes → Bool
  | .derivedFeature a => a.name == d.name && a.type == d.feature_type &&
      a.transformation == d.transformation && a.key == d.key
  | _ => false

/-- What a create call writes when the name is free: `row`, then for each owner `o` the edges
`Contains(o → id)`, `BelongsTo(id → o)`, then for each upstream `v` the edges `Consumes(id → v)`,
`Produces(v → id)`, in the order the calls send them. `id` is the drawn `uuid4`; the row's own
`entity_id` is `id` except in the raw-SQL `create_project_anchor`. -/
structure Insertion where
  row : Entity
  id : String
  owners : List String
  upstream : List String
  deriving DecidableEq, Repr

def Insertion.edges (n : Insertion) : List Edge :=
  n.owners.flatMap (fun o => [⟨o, n.id, .contains⟩, ⟨n.id, o, .belongsTo⟩]) ++
    n.upstream.flatMap (fun v => [⟨n.id, v, .consumes⟩, ⟨v, n.id, .produces⟩])

def Insertion.writes (b : Branch) (n : Insertion) : List Write :=
  .insertEntity n.row :: n.edges.map fun e => createEdge b e.from_id e.to_id e.conn_type

/-! ## The five create calls -/

section
variable (b : Branch) (s : Store) (u : String)

/-- `create_project`. -/
def createProject (d : ProjectDef) : Except Err (List Write × String) := do
  match ← findExisting s d.name sameProject with
  | some id => pure ([], id)
  | none => pure ((Insertion.mk ⟨u, d.name, .project d.toAttr⟩ u [] []).writes b, u)

/-- `create_project_datasource`. -/
def createProjectDatasource (project_id : String) (d : SourceDef) :
    Except Err (List Write × String) := do
  let project ← s.getEntity project_id
  let q := project.entity.qualified_name ++ "__" ++ d.name
  match ← findExisting s q (sameSource d) with
  | some id => pure ([], id)
  | none => pure ((Insertion.mk ⟨u, q, .source d.toAttr⟩ u [project_id] []).writes b, u)

/-- The row id `create_project_anchor` inserts: `str(entity_id)` on the SQLAlchemy branch,
`str(id)` of the builtin `id` on the raw-SQL branch. -/
def anchorRowId : Branch → String → String
  | .sqlalchemy, u => u
  | .rawSql, _ => builtinIdStr

/-- `create_project_anchor`. -/
def createProjectAnchor (project_id : String) (d : AnchorDef) :
    Except Err (List Write × String) := do
  let project ← s.getEntity project_id
  let q := project.entity.qualified_name ++ "__" ++ d.name
  match ← findExisting s q (sameAnchor d) with
  | some id => pure ([], id)
  | none =>
    match s.entities.find? fun e => e.entity_id == d.source_id && e.entity_type == .source with
    | none => throw (.valueError ("Source " ++ d.source_id ++ " does not exist"))
    | some r =>
      let ref : EntityRef := ⟨r.entity_id, .source, r.qualified_name⟩
      pure ((Insertion.mk ⟨anchorRowId b u, q, .anchor (d.toAttr ref)⟩ u [project_id]
        [d.source_id]).writes b, u)

/-- `create_project_anchor_feature`; the project id is never looked up. -/
def createProjectAnchorFeature (project_id anchor_id : String) (d : AnchorFeatureDef) :
    Except Err (List Write × String) := do
  let anchor ← s.getEntity anchor_id
  let q := anchor.entity.qualified_name ++ "__" ++ d.name
  match ← findExisting s q (sameAnchorFeature d) with
  | some id => pure ([], id)
  | none =>
    match anchor with
    | .anchor _ _ source =>
      pure ((Insertion.mk ⟨u, q, .anchorFeature d.toAttr⟩ u [project_id, anchor_id]
        [source.entity.entity_id]).writes b, u)
    | _ => throw .attributeError

/-- The rows `create_project_derived_feature` finds for its inputs of type `t`, by
`entity_id in (...)`. The model lists them in table order; the database returns them in an order
of its own, and what is proved of them (`Call.RowSpec`) holds for every order. -/
def inputRows (ids : List String) (t : EntityType) : List Entity :=
  s.entities.filter fun e => ids.contains e.entity_id && e.entity_type == t

/-- `create_project_derived_feature`. -/
def createProjectDerivedFeature (project_id : String) (d : DerivedFeatureDef) :
    Except Err (List Write × String) := do
  let project ← s.getEntity project_id
  let q := project.entity.qualified_name ++ "__" ++ d.name
  match ← findExisting s q (sameDerivedFeature d) with
  | some id => pure ([], id)
  | none =>
    let r1 := inputRows s d.input_anchor_features .anchorFeature
    if r1.length != d.input_anchor_features.length then
      throw (.valueError "Missing input anchor features")
    let r2 := inputRows s d.input_derived_features .derivedFeature
    if r2.length != d.input_derived_features.length then
      throw (.valueError "Missing input derived features")
    let refs := (r1 ++ r2).map fun r => EntityRef.mk r.entity_id r.entity_type r.qualified_name
    pure ((Insertion.mk ⟨u, q, .derivedFeature (d.toAttr refs)⟩ u [project_id]
      ((r1 ++ r2).map (·.entity_id))).writes b, u)

end

/-! ## The existence check -/

theorem findExisting_none {s : Store} {q : String} {same : Attributes → Bool}
    (h : findExisting s q same = .ok none) : ∀ e ∈ s.entities, e.qualified_name ≠ q := by
  unfold findExisting at h
  split at h
  · rename_i hf
    intro e he hq
    have : e ∈ s.entities.filter (·.qualified_name == q) := List.mem_filter.2 ⟨he, by simpa using hq⟩
    simp [hf] at this
  · split at h
    · split at h <;> cases h
    · cases h
  · cases h

theorem findExisting_some {s : Store} {q : String} {same : Attributes → Bool} {id : String}
    (h : findExisting s q same = .ok (some id)) :
    ∃ r, s.entities.filter (·.qualified_name == q) = [r] ∧ same r.attributes = true ∧
      toUuid r.entity_id = some id := by
  unfold findExisting at h
  split at h
  · cases h
  · rename_i r hr
    split at h
    · split at h
      · cases h; exact ⟨r, hr, ‹_›, ‹_›⟩
      · cases h
    · cases h
  · cases h

/-! ## Calls and HTTP handlers -/

/-- A create call of the `Registry` interface, with the ids it is given. -/
inductive Call
  | createProject (d : ProjectDef)
  | createProjectDatasource (project_id : String) (d : SourceDef)
  | createProjectAnchor (project_id : String) (d : AnchorDef)
  | createProjectAnchorFeature (project_id anchor_id : String) (d : AnchorFeatureDef)
  | createProjectDerivedFeature (project_id : String) (d : DerivedFeatureDef)
  deriving DecidableEq, Repr

def Call.plan (b : Branch) (s : Store) (u : String) : Call → Except Err (List Write × String)
  | .createProject d => FeathrRegistry.createProject b s u d
  | .createProjectDatasource p d => FeathrRegistry.createProjectDatasource b s u p d
  | .createProjectAnchor p d => FeathrRegistry.createProjectAnchor b s u p d
  | .createProjectAnchorFeature p a d => FeathrRegistry.createProjectAnchorFeature b s u p a d
  | .createProjectDerivedFeature p d => FeathrRegistry.createProjectDerivedFeature b s u p d

/-- A create call run to completion: the store after it and the id it returns. -/
def Call.run (b : Branch) (s : Store) (u : String) (c : Call) : Store × Except Err String :=
  commit none (c.plan b s u) s

/-- The ids a call is given, any of which the drawn `uuid4` differs from. -/
def Call.idArgs : Call → List String
  | .createProject _ => []
  | .createProjectDatasource p _ => [p]
  | .createProjectAnchor p d => [p, d.source_id]
  | .createProjectAnchorFeature p a _ => [p, a]
  | .createProjectDerivedFeature p d => p :: d.input_anchor_features ++ d.input_derived_features

/-- A `uuid4` drawn for call `c` in store `s`: in UUID form, and new to the tables and to the
call's arguments. -/
structure Fresh (s : Store) (c : Call) (u : String) : Prop where
  uuid : toUuid u = some u
  new : ¬ s.Mentions u
  notArg : ∀ x ∈ c.idArgs, x ≠ u ∧ toUuid x ≠ some u

/-- What call `c` inserts when the qualified name it computes is free. -/
def Call.Inserts (b : Branch) (s : Store) (u : String) : Call → Insertion → Prop
  | .createProject d, n => n = ⟨⟨u, d.name, .project d.toAttr⟩, u, [], []⟩
  | .createProjectDatasource p d, n => ∃ P, s.getEntity p = .ok P ∧
      n = ⟨⟨u, P.entity.qualified_name ++ "__" ++ d.name, .source d.toAttr⟩, u, [p], []⟩
  | .createProjectAnchor p d, n => ∃ P r, s.getEntity p = .ok P ∧
      s.entities.find? (fun e => e.entity_id == d.source_id && e.entity_type == .source) = some r ∧
      n = ⟨⟨anchorRowId b u, P.entity.qualified_name ++ "__" ++ d.name,
        .anchor (d.toAttr ⟨r.entity_id, .source, r.qualified_name⟩)⟩, u, [p], [d.source_id]⟩
  | .createProjectAnchorFeature p a d, n => ∃ A fs src, s.getEntity a = .ok (.anchor A fs src) ∧
      n = ⟨⟨u, A.qualified_name ++ "__" ++ d.name, .anchorFeature d.toAttr⟩, u, [p, a],
        [src.entity.entity_id]⟩
  | .createProjectDerivedFeature p d, n => ∃ P, s.getEntity p = .ok P ∧
      (inputRows s d.input_anchor_features .anchorFeature).length = d.input_anchor_features.length ∧
      (inputRows s d.input_derived_features .derivedFeature).length =
        d.input_derived_features.length ∧
      let rows := inputRows s d.input_anchor_features .anchorFeature ++
        inputRows s d.input_derived_features .derivedFeature
      n = ⟨⟨u, P.entity.qualified_name ++ "__" ++ d.name, .derivedFeature
        (d.toAttr (rows.map fun r => EntityRef.mk r.entity_id r.entity_type r.qualified_name))⟩,
        u, [p], rows.map (·.entity_id)⟩

@[simp] theorem ok_bind {α β : Type} (a : α) (f : α → Except Err β) :
    (Except.ok a >>= f) = f a := rfl

theorem bind_eq_ok {α β : Type} {x : Except Err α} {f : α → Except Err β} {r : β}
    (h : (x >>= f) = .ok r) : ∃ a, x = .ok a ∧ f a = .ok r := by
  cases x with
  | error e => cases h
  | ok a => exact ⟨a, rfl, h⟩

/-- The tail every create call shares: the row holding the name answers, or the call goes on to
`insert` under a name no row holds. -/
theorem findExisting_bind {s : Store} {q : String} {same : Attributes → Bool}
    {insert : Except Err (List Write × String)} {ws : List Write} {r : String}
    (h : (findExisting s q same >>= fun o => match o with
      | some id => pure ([], id)
      | none => insert) = .ok (ws, r)) :
    ws = [] ∨ (∀ e ∈ s.entities, e.qualified_name ≠ q) ∧ insert = .ok (ws, r) := by
  obtain ⟨o, ho, h⟩ := bind_eq_ok h
  cases o with
  | some id => cases h; exact .inl rfl
  | none => exact .inr ⟨findExisting_none ho, h⟩

/-- Every create call either writes nothing or makes the insertion it describes, under a name no
row holds. -/
theorem Call.plan_ok {b : Branch} {s : Store} {u : String} {c : Call} {ws : List Write}
    {r : String} (h : c.plan b s u = .ok (ws, r)) :
    ws = [] ∨ ∃ n, c.Inserts b s u n ∧ (∀ e ∈ s.entities, e.qualified_name ≠ n.row.qualified_name) ∧
      ws = n.writes b ∧ r = u := by
  cases c with
  | createProject d =>
    rcases findExisting_bind h with rfl | ⟨hq, h⟩
    · exact .inl rfl
    · cases h; exact .inr ⟨_, rfl, hq, rfl, rfl⟩
  | createProjectDatasource p d =>
    obtain ⟨P, hP, h⟩ := bind_eq_ok h
    rcases findExisting_bind h with rfl | ⟨hq, h⟩
    · exact .inl rfl
    · cases h; exact .inr ⟨_, ⟨P, hP, rfl⟩, hq, rfl, rfl⟩
  | createProjectAnchor p d =>
    obtain ⟨P, hP, h⟩ := bind_eq_ok h
    rcases findExisting_bind h with rfl | ⟨hq, h⟩
    · exact .inl rfl
    · split at h
      · cases h
      · rename_i r hr
        cases h; exact .inr ⟨_, ⟨P, r, hP, hr, rfl⟩, hq, rfl, rfl⟩
  | createProjectAnchorFeature p a d =>
    obtain ⟨A, hA, h⟩ := bind_eq_ok h
    rcases findExisting_bind h with rfl | ⟨hq, h⟩
    · exact .inl rfl
    · split at h
      · cases h; exact .inr ⟨_, ⟨_, _, _, hA, rfl⟩, hq, rfl, rfl⟩
      · cases h
  | createProjectDerivedFeature p d =>
    obtain ⟨P, hP, h⟩ := bind_eq_ok h
    rcases findExisting_bind h with rfl | ⟨hq, h⟩
    · exact .inl rfl
    · simp only [pure, Except.pure] at h
      split at h
      · cases h
      · rename_i h1
        split at h
        · cases h
        · rename_i h2
          cases h
          exact .inr ⟨_, ⟨P, hP, by simpa using h1, by simpa using h2, rfl⟩, hq, rfl, rfl⟩

instance (s : Store) (u : String) : Decidable (s.Mentions u) :=
  inferInstanceAs (Decidable ((∃ e ∈ s.entities, e.entity_id = u) ∨
    ∃ e ∈ s.edges, e.from_id = u ∨ e.to_id = u))

instance (s : Store) (c : Call) (u : String) : Decidable (Fresh s c u) :=
  decidable_of_iff (toUuid u = some u ∧ ¬ s.Mentions u ∧ ∀ x ∈ c.idArgs, x ≠ u ∧ toUuid x ≠ some u)
    ⟨fun ⟨h1, h2, h3⟩ => ⟨h1, h2, h3⟩, fun ⟨h1, h2, h3⟩ => ⟨h1, h2, h3⟩⟩

/-- A create request of the HTTP API (`api/v1`); path parameters are strings. -/
inductive Request
  | newProject (d : ProjectDef)
  | newProjectDatasource (project : String) (d : SourceDef)
  | newProjectAnchor (project : String) (d : AnchorDef)
  | newProjectAnchorFeature (project anchor : String) (d : AnchorFeatureDef)
  | newProjectDerivedFeature (project : String) (d : DerivedFeatureDef)
  deriving DecidableEq, Repr

/-- The handlers resolve each path parameter with `get_entity_id`, then make the call. -/
def Request.resolve (s : Store) : Request → Except Err Call
  | .newProject d => .ok (.createProject d)
  | .newProjectDatasource p d => do
    let project_id ← s.getEntityId p
    pure (.createProjectDatasource project_id d)
  | .newProjectAnchor p d => do
    let project_id ← s.getEntityId p
    pure (.createProjectAnchor project_id d)
  | .newProjectAnchorFeature p a d => do
    let project_id ← s.getEntityId p
    let anchor_id ← s.getEntityId a
    pure (.createProjectAnchorFeature project_id anchor_id d)
  | .newProjectDerivedFeature p d => do
    let project_id ← s.getEntityId p
    pure (.createProjectDerivedFeature project_id d)

/-- A create request run to completion: the store after it and the `guid` it answers. -/
def Request.run (b : Branch) (s : Store) (u : String) (r : Request) : Store × Except Err String :=
  match r.resolve s with
  | .error e => (s, .error e)
  | .ok c => c.run b s u

end FeathrRegistry
