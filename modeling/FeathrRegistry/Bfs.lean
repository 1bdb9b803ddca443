import FeathrRegistry.Store

/-!
# FeathrRegistry.Bfs

The graph traversal of `DbRegistry`: `_bfs_step`, the `while` loop of `_bfs`, and the queries
built on it, `get_lineage` and `get_dependent_entities`.

`_bfs` keeps no visited set: each round fetches every edge of the relationship whose `from_id`
is in the frontier, appends them to the connections, and makes their `to_id`s the next
frontier, until a round finds nothing. On a graph with a cycle reachable from the start the
loop never ends. `bfsLoop` runs it with at most `fuel` rounds and answers `none` when they do
not suffice; the operations built on it are `Option`-valued in the same way.
-/

namespace FeathrRegistry

namespace Store

variable (s : Store)

/-- `_bfs_step`: the edges of type `t` leaving one of `ids`, in table order. -/
def bfsStep (t : RelationshipType) (ids : List String) : List Edge :=
  s.edges.filter fun e => e.conn_type == t && ids.contains e.from_id

/-- The `while` loop of `_bfs`, from frontier `ids` with connections `acc`, for at most `fuel`
calls of `_bfs_step`. -/
def bfsLoop (t : RelationshipType) : Nat → List String → List Edge → Option (List Edge)
  | 0, _, _ => none
  | fuel + 1, ids, acc =>
    match s.bfsStep t ids with
    | [] => some acc
    | next => bfsLoop t fuel (next.map (·.to_id)) (acc ++ next)

/-- The ids `_bfs` resolves: the start and both ends of every connection. -/
def bfsIds (id : String) (conns : List Edge) : List String :=
  id :: conns.flatMap fun e => [e.from_id, e.to_id]

/-- `_bfs`: the entities with an id `bfsIds` collects, filled, and the connections. -/
def bfs (fuel : Nat) (id : String) (t : RelationshipType) :
    Option (Except Err (List Filled × List Edge)) :=
  (s.bfsLoop t fuel [id] []).map fun conns => do
    let entities ← s.getEntities (bfsIds id conns)
    pure (entities, conns)

/-- The two traversals of `get_lineage`: upstream over `Consumes`, then downstream over
`Produces`. -/
def lineageSides (fuel : Nat) (x : String) :
    Option (Except Err ((List Filled × List Edge) × (List Filled × List Edge))) :=
  match s.getEntityId x with
  | .error e => some (.error e)
  | .ok id =>
    match s.bfs fuel id .consumes with
    | none => none
    | some (.error e) => some (.error e)
    | some (.ok up) =>
      match s.bfs fuel id .produces with
      | none => none
      | some (.error e) => some (.error e)
      | some (.ok down) => some (.ok (up, down))

/-- `EntitiesAndRelations`. -/
structure EntitiesAndRelations where
  entities : List Filled
  edges : List Edge
  deriving DecidableEq, Repr

/-- `get_lineage`: both traversals, entities and edges concatenated. -/
def getLineage (fuel : Nat) (x : String) : Option (Except Err EntitiesAndRelations) :=
  (s.lineageSides fuel x).map fun r =>
    r.map fun (up, down) => ⟨up.1 ++ down.1, up.2 ++ down.2⟩

end Store

/-- The relationship `get_dependent_entities` follows from an entity of each type. -/
def dependentRelation : EntityType → RelationshipType
  | .project => .contains
  | .source => .produces
  | .anchor => .contains
  | .anchorFeature => .produces
  | .derivedFeature => .produces

namespace Store

variable (s : Store)

/-- `get_dependent_entities`: the entities `_bfs` reaches from the entity, itself left out. -/
def getDependentEntities (fuel : Nat) (x : String) : Option (Except Err (List Filled)) :=
  match s.getEntityId x with
  | .error e => some (.error e)
  | .ok id =>
    match s.getEntity id with
    | .error e => some (.error e)
    | .ok entity =>
      (s.bfs fuel id (dependentRelation entity.entity.entity_type)).map fun r =>
        r.map fun (entities, _) => entities.filter (·.entity.entity_id != id)

end Store

end FeathrRegistry
