import Mathlib.Data.List.Basic

/-!
# FeathrRegistry.Model

The registry's data: the two tables of `models/orm.py` (`entities`, `edges`), the entity kinds
and relationship kinds, the attribute records an entity row stores, the definitions the five
create calls receive, and the exceptions `db_registry.py` raises.

`models/base.py` (imported as `rgm`) is not in the repository. What `db_registry.py` reads of it
is modelled from the spec here: the attribute records hold the fields the create calls compare
(and, for an anchor, the reference to its source; for a derived feature, its input references),
`to_attr` copies a definition into its record, and `_to_uuid` accepts a string in UUID form.
Attribute values are opaque strings: the registry only stores them and compares them for
equality.

The `entity_type` column is not a field of its own: every insert of `db_registry.py` writes the
kind of the attribute record it stores beside it, so the model reads the kind off the record.
-/

namespace FeathrRegistry

/-- `rgm.EntityType`. -/
inductive EntityType
  | project
  | source
  | anchor
  | anchorFeature
  | derivedFeature
  deriving DecidableEq, Repr

/-- `rgm.RelationshipType`; `edges.conn_type` stores its name. -/
inductive RelationshipType
  | contains
  | belongsTo
  | consumes
  | produces
  deriving DecidableEq, Repr

/-- `rgm.EntityRef(id, type, qualified_name)`. -/
structure EntityRef where
  id : String
  entity_type : EntityType
  qualified_name : String
  deriving DecidableEq, Repr

structure ProjectAttributes where
  name : String
  deriving DecidableEq, Repr

structure SourceAttributes where
  name : String
  type : String
  options : String
  preprocessing : String
  event_timestamp_column : String
  timestamp_format : String
  deriving DecidableEq, Repr

structure AnchorAttributes where
  name : String
  source : EntityRef
  deriving DecidableEq, Repr

structure AnchorFeatureAttributes where
  name : String
  type : String
  transformation : String
  key : String
  deriving DecidableEq, Repr

structure DerivedFeatureAttributes where
  name : String
  type : String
  transformation : String
  key : String
  input_features : List EntityRef
  deriving DecidableEq, Repr

/-- The `attributes` column, one record per entity kind. -/
inductive Attributes
  | project (a : ProjectAttributes)
  | source (a : SourceAttributes)
  | anchor (a : AnchorAttributes)
  | anchorFeature (a : AnchorFeatureAttributes)
  | derivedFeature (a : DerivedFeatureAttributes)
  deriving DecidableEq, Repr

def Attributes.entityType : Attributes → EntityType
  | .project _ => .project
  | .source _ => .source
  | .anchor _ => .anchor
  | .anchorFeature _ => .anchorFeature
  | .derivedFeature _ => .derivedFeature

/-- A row of `entities`. -/
structure Entity where
  entity_id : String
  qualified_name : String
  attributes : Attributes
  deriving DecidableEq, Repr

/-- The `entity_type` column. -/
def Entity.entity_type (e : Entity) : EntityType := e.attributes.entityType

/-- A row of `edges`. `edge_id` is a fresh `uuid4` that nothing reads, and is left out. -/
structure Edge where
  from_id : String
  to_id : String
  conn_type : RelationshipType
  deriving DecidableEq, Repr

/-- The two tables. -/
structure Store where
  entities : List Entity
  edges : List Edge
  deriving DecidableEq, Repr

/-- The empty database `DbRegistry.__init__` connects to. -/
def Store.empty : Store := ⟨[], []⟩

/-- Which code path `db_conn.is_sqlalchemy_supported` selects. -/
inductive Branch
  | sqlalchemy
  | rawSql
  deriving DecidableEq, Repr

/-- The exceptions a registry call can end with. -/
inductive Err
  | conflictError (msg : String)
  | valueError (msg : String)
  | keyError (msg : String)
  | indexError
  | attributeError
  | recursionError
  | assertionError (msg : String)
  | integrityError
  | storeFailure
  | preconditionFailed (msg : String)
  deriving DecidableEq, Repr

/-! ## Definitions received by the create calls -/

structure ProjectDef where
  name : String
  deriving DecidableEq, Repr

structure SourceDef where
  name : String
  type : String
  options : String
  preprocessing : String
  event_timestamp_column : String
  timestamp_format : String
  deriving DecidableEq, Repr

structure AnchorDef where
  name : String
  source_id : String
  deriving DecidableEq, Repr

structure AnchorFeatureDef where
  name : String
  feature_type : String
  transformation : String
  key : String
  deriving DecidableEq, Repr

structure DerivedFeatureDef where
  name : String
  feature_type : String
  transformation : String
  key : String
  input_anchor_features : List String
  input_derived_features : List String
  deriving DecidableEq, Repr

/-- Modelled from the spec: `ProjectDef.to_attr` of the missing `models/base.py`. -/
def ProjectDef.toAttr (d : ProjectDef) : ProjectAttributes := ⟨d.name⟩

/-- Modelled from the spec: `SourceDef.to_attr` of the missing `models/base.py`. -/
def SourceDef.toAttr (d : SourceDef) : SourceAttributes :=
  ⟨d.name, d.type, d.options, d.preprocessing, d.event_timestamp_column, d.timestamp_format⟩

/-- Modelled from the spec: `AnchorDef.to_attr(ref)` of the missing `models/base.py`. -/
def AnchorDef.toAttr (d : AnchorDef) (ref : EntityRef) : AnchorAttributes := ⟨d.name, ref⟩

/-- Modelled from the spec: `AnchorFeatureDef.to_attr` of the missing `models/base.py`. -/
def AnchorFeatureDef.toAttr (d : AnchorFeatureDef) : AnchorFeatureAttributes :=
  ⟨d.name, d.feature_type, d.transformation, d.key⟩

/-- Modelled from the spec: `DerivedFeatureDef.to_attr(refs)` of the missing `models/base.py`. -/
def DerivedFeatureDef.toAttr (d : DerivedFeatureDef) (refs : List EntityRef) :
    DerivedFeatureAttributes :=
  ⟨d.name, d.feature_type, d.transformation, d.key, refs⟩

/-! ## Identifiers -/

def isHexDigit (c : Char) : Bool :=
  c.isDigit || ('a' ≤ c && c ≤ 'f') || ('A' ≤ c && c ≤ 'F')

/-- The 8-4-4-4-12 hexadecimal form of a UUID. -/
def isUuidForm (s : String) : Bool :=
  s.length == 36 && (s.toList.enum.all fun (i, c) =>
    if i == 8 || i == 13 || i == 18 || i == 23 then c == '-' else isHexDigit c)

/-- Modelled from the spec: `rgm._to_uuid` of the missing `models/base.py`. "If the input parses
as a valid identifier, returns it": a string in UUID form, as `str(UUID(s))` prints it (lower
case); anything else raises `ValueError`, here `none`. -/
def toUuid (s : String) : Option String :=
  if isUuidForm s then some ⟨s.data.map Char.toLower⟩ else none

/-- `str(id)` in `create_project_anchor`'s raw-SQL insert, where `id` is Python's builtin. -/
def builtinIdStr : String := "<built-in function id>"

end FeathrRegistry
