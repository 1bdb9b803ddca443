import FeathrRegistry.Bfs

/-!
# FeathrRegistry.Delete

Deletion: `delete_entity`, `delete_empty_entities`, and the safe-delete protocol of the
`DELETE /entity/{entity}` handler built from them and `get_dependent_entities`.

`delete_entity` deletes unconditionally; the handler deletes an entity only when
`get_dependent_entities` finds nothing, after one `delete_empty_entities` pass over what it found
first. Every `delete_entity` is its own transaction, so a handler that ends in an exception (the
412 included) keeps the deletions of its cleanup pass.
-/

namespace FeathrRegistry

/-- The statements of `delete_entity`: `_delete_all_entity_edges`, then `_delete_entity`. -/
def deleteEntityPlan (b : Branch) (s : Store) (x : String) : Except Err (List Write × Unit) := do
  let id ← s.getEntityId x
  pure ([.deleteEdges b id, .deleteEntity id], ())

/-- `delete_entity`. -/
def deleteEntity (b : Branch) (s : Store) (x : String) : Store × Except Err Unit :=
  commit none (deleteEntityPlan b s x) s

/-- One loop of `delete_empty_entities`: each entity of type `t` is deleted when `_bfs` over
`rel` from it finds a single entity. -/
def deleteEmptyPass (b : Branch) (fuel : Nat) (t : EntityType) (rel : RelationshipType) :
    List Filled → Store → Option (Store × Except Err Unit)
  | [], s => some (s, .ok ())
  | e :: es, s =>
    if e.entity.entity_type = t then
      match s.bfs fuel e.entity.entity_id rel with
      | none => none
      | some (.error err) => some (s, .error err)
      | some (.ok (downstream, _)) =>
        if downstream.length = 1 then
          match deleteEntity b s e.entity.entity_id with
          | (s', .ok ()) => deleteEmptyPass b fuel t rel es s'
          | (s', .error err) => some (s', .error err)
        else deleteEmptyPass b fuel t rel es s
    else deleteEmptyPass b fuel t rel es s

/-- `delete_empty_entities`: anchors without features, then sources without consumers. -/
def deleteEmptyEntities (b : Branch) (fuel : Nat) (entities : List Filled) (s : Store) :
    Option (Store × Except Err Unit) :=
  match deleteEmptyPass b fuel .anchor .contains entities s with
  | some (s', .ok ()) => deleteEmptyPass b fuel .source .produces entities s'
  | r => r

/-- Python's `str` of a list of strings. -/
def pyListRepr (xs : List String) : String :=
  "[" ++ ", ".intercalate (xs.map fun x => "'" ++ x ++ "'") ++ "]"

/-- The 412 detail of the handler. -/
def dependentsMessage (downstream : List Filled) : String :=
  "Entity cannot be deleted as it has downstream/dependent entities.\n                Entities: " ++
    pyListRepr (downstream.map (·.entity.qualified_name))

/-- The `DELETE /entity/{entity}` handler (`api/v1/entities.py`). -/
def deleteEntityHandler (b : Branch) (fuel : Nat) (s : Store) (entity : String) :
    Option (Store × Except Err Unit) :=
  match s.getEntityId entity with
  | .error e => some (s, .error e)
  | .ok entity_id =>
    match s.getDependentEntities fuel entity_id with
    | none => none
    | some (.error e) => some (s, .error e)
    | some (.ok []) => some (deleteEntity b s entity_id)
    | some (.ok downstream) =>
      match deleteEmptyEntities b fuel downstream s with
      | none => none
      | some (s1, .error e) => some (s1, .error e)
      | some (s1, .ok ()) =>
        match s1.getDependentEntities fuel entity_id with
        | none => none
        | some (.error e) => some (s1, .error e)
        | some (.ok []) => some (deleteEntity b s1 entity_id)
        | some (.ok _) => some (s1, .error (.preconditionFailed (dependentsMessage downstream)))

end FeathrRegistry
