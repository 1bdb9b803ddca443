import FeathrRegistry.Graph
import Mathlib.Data.List.Sort
import Mathlib.Data.List.Infix

/-!
# FeathrRegistry.Search

`search_entity`: the entities whose qualified name holds a keyword, of the requested types,
optionally of one project, ordered by name, one page of them; and the `start` and `size`
`get_project_features` gives it.

Both branches resolve the project first. The SQLAlchemy branch then builds its query from
`orm.Entitiesentity_id` (with a project) or `orm.Entitiesqualified_name` (without), names
`models/orm.py` does not define, so it raises `AttributeError` on every call. The raw-SQL branch
sends
`select TOP(start+size) ... where qualified_name like '%keyword%' ... order by qualified_name` to
SQL Server and keeps the last `size` rows, as §4.5 of the spec describes. That is the requested
page when the page is full or is the first one, and only then (`searchEntity_rawSql`): a page past
the end still returns the last rows.

What SQL Server does with the query is modelled: `LIKE` (`sqlLike`), `order by` (`orderByName`),
`TOP` (`topRows`). Both compare names under the column's collation, which is a parameter
(`Collation`): how it folds a character, and how it orders names. The spec's "case-insensitive"
and "ordered by qualified name" are read under the same collation. The keyword is sent unescaped,
so a `%` or `_` in it is a wildcard; the theorems take a keyword without them.
-/

namespace FeathrRegistry

/-! ## What SQL Server does with the query -/

/-- What the collation of `qualified_name` decides, which the repository leaves to the database:
the character `LIKE` compares a character as (its case folded, under a case-insensitive
collation), and the order of `order by`. -/
structure Collation where
  fold : Char → Char
  le : List Char → List Char → Bool

variable (col : Collation)

/-- `LIKE` under the collation: `%` matches any run of characters, `_` any one character, any other
character one that the collation folds alike. Bracket classes `[...]` are not modelled: `[` is
read as itself here, and the theorems take patterns without it. -/
def sqlLike : List Char → List Char → Bool
  | [], s => s.isEmpty
  | '%' :: p, s => s.tails.any (sqlLike p)
  | '_' :: p, s => match s with
    | [] => false
    | _ :: s => sqlLike p s
  | c :: p, s => match s with
    | [] => false
    | d :: s => col.fold c == col.fold d && sqlLike p s

theorem sqlLike_percent (p s : List Char) :
    sqlLike col ('%' :: p) s = s.tails.any (sqlLike col p) := by
  rw [sqlLike]

theorem sqlLike_lit {c : Char} (h1 : c ≠ '%') (h2 : c ≠ '_') (p s : List Char) :
    sqlLike col (c :: p) s = match s with
      | [] => false
      | d :: s => col.fold c == col.fold d && sqlLike col p s := by
  rw [sqlLike.eq_def]; simp [h1, h2]

/-- `order by qualified_name`; rows the collation ranks equal keep their order. -/
def orderByName (rows : List Entity) : List Entity :=
  rows.insertionSort fun a b => col.le a.qualified_name.data b.qualified_name.data

/-- `TOP(k)`: the first `k` rows; SQL Server refuses a negative `k`. -/
def topRows (top : Option Int) (rows : List Entity) : Except Err (List Entity) :=
  match top with
  | none => .ok rows
  | some k => if k < 0 then .error .storeFailure else .ok (rows.take k.toNat)

/-- Python's `l[i:]`: a negative `i` counts from the end. -/
def pySliceFrom {α : Type} (i : Int) (l : List α) : List α :=
  if 0 ≤ i then l.drop i.toNat else l.drop (l.length - i.natAbs)

/-! ## `search_entity` -/

/-- `where qualified_name like '%keyword%' and entity_type in types`. -/
def searchWhere (keyword : String) (type : List EntityType) (e : Entity) : Bool :=
  sqlLike col ('%' :: keyword.data ++ ['%']) e.qualified_name.data && type.contains e.entity_type

/-- `entities inner join edges on entity_id=edges.from_id and edges.conn_type='BelongsTo'`, with
`edges.to_id` the project's id: an entity once for each such edge. -/
def Store.belongsToRows (s : Store) (project_id : String) : List Entity :=
  s.entities.flatMap fun e =>
    (s.edges.filter fun ed => ed.from_id == e.entity_id && ed.conn_type == .belongsTo &&
      ed.to_id == project_id).map fun _ => e

/-- `if project: project_id = self.get_entity_id(project)`. -/
def Store.searchProjectId (s : Store) : Option String → Except Err (Option String)
  | none => .ok none
  | some p => if p = "" then .ok none else do
    let id ← s.getEntityId p
    pure (some id)

/-- The rows the raw-SQL query reads: the join with a project, the table without one. -/
def Store.searchFrom (s : Store) : Option String → List Entity
  | some id => s.belongsToRows id
  | none => s.entities

/-- The rows of the raw-SQL query. `entity_type in %s` with no type is `in ()`, which SQL Server
refuses. -/
def Store.rawSearchRows (s : Store) (keyword : String) (type : List EntityType)
    (project_id : Option String) (top : Option Int) : Except Err (List Entity) :=
  if type = [] then .error .storeFailure else
    topRows top (orderByName col ((s.searchFrom project_id).filter (searchWhere col keyword type)))

/-- `search_entity`; a row is read into `rgm.EntityRef(id, type, qualified_name)`. -/
def searchEntity (b : Branch) (s : Store) (keyword : String) (type : List EntityType)
    (project : Option String) (start size : Option Int) : Except Err (List EntityRef) := do
  let top := match start, size with
    | some a, some z => some (a + z)
    | _, _ => none
  let project_id ← s.searchProjectId project
  let rows ← match b with
    | .sqlalchemy => throw .attributeError
    | .rawSql => s.rawSearchRows col keyword type project_id top
  let rows := match size with
    | some z => if z = 0 then rows else pySliceFrom (-z) rows
    | none => rows
  pure (rows.map fun r => ⟨r.entity_id, r.entity_type, r.qualified_name⟩)

/-- The `start` and `size` `get_project_features` computes from `page` and `limit`. -/
def featuresPage (page limit : Option Int) : Option Int × Option Int :=
  match page, limit with
  | some p, some l => (some ((p - 1) * l), some l)
  | _, _ => (none, none)

/-- The `if keyword:` branch of `get_project_features`, for a keyword that is not empty. The other
branch reads `anchor_features` and `derived_features` of the project's attributes, from the
missing `models/base.py`, and is left out. -/
def getProjectFeatures (b : Branch) (s : Store) (project keyword : String)
    (page limit : Option Int) : Except Err (List Filled) := do
  let efs ← searchEntity col b s keyword [.anchorFeature, .derivedFeature] (some project)
    (featuresPage page limit).1 (featuresPage page limit).2
  s.getEntities (efs.map (·.id))

/-- `get_project_features` passes `search_entity` a `start` of at least 0 and a `size` of at
least 1 for a `page` and a `limit` of at least 1. -/
theorem featuresPage_bounds {page limit : Int} (hp : 1 ≤ page) (hl : 1 ≤ limit) :
    ∃ start size : Nat, 0 < size ∧
      featuresPage (some page) (some limit) = (some (start : Int), some (size : Int)) :=
  ⟨((page - 1) * limit).toNat, limit.toNat, by omega, by
    simp only [featuresPage, Int.toNat_of_nonneg (Int.mul_nonneg (by omega) (by omega) :
      0 ≤ (page - 1) * limit), Int.toNat_of_nonneg (by omega : 0 ≤ limit)]⟩

/-! ## The spec's page -/

/-- The spec's match: the name holds the keyword up to case, as the collation folds it, the type
is one of `types`, and with a project the entity has a `BelongsTo` edge to it. -/
def SearchMatch (s : Store) (keyword : String) (types : List EntityType)
    (project_id : Option String) (e : Entity) : Prop :=
  keyword.data.map col.fold <:+: e.qualified_name.data.map col.fold ∧
    e.entity_type ∈ types ∧ ∀ id ∈ project_id, (⟨e.entity_id, id, .belongsTo⟩ : Edge) ∈ s.edges

instance (s : Store) (keyword : String) (types : List EntityType) (project_id : Option String)
    (e : Entity) : Decidable (SearchMatch col s keyword types project_id e) :=
  inferInstanceAs (Decidable (_ ∧ _ ∧ ∀ id ∈ project_id, _))

/-- The list the spec pages through: the matching entities, ordered by name under the
collation. -/
def searchSpec (s : Store) (keyword : String) (types : List EntityType)
    (project_id : Option String) : List Entity :=
  orderByName col (s.entities.filter fun e => decide (SearchMatch col s keyword types project_id e))

/-- The elements of `l` at positions `start`, …, `start + size - 1`. -/
def page {α : Type} (start size : Nat) (l : List α) : List α := (l.drop start).take size

/-- A keyword `LIKE` reads literally: no `%`, `_` or `[`. -/
def plainKeyword (keyword : String) : Bool :=
  keyword.data.all fun c => c != '%' && c != '_' && c != '['

/-! ## `LIKE '%keyword%'` is containment -/

theorem sqlLike_percent_nil (s : List Char) : sqlLike col ['%'] s = true := by
  rw [sqlLike_percent]
  exact List.any_eq_true.2 ⟨[], (List.mem_tails _ _).2 List.nil_suffix, rfl⟩

/-- A literal pattern followed by `%` matches the strings it is a prefix of, up to folding. -/
theorem sqlLike_startsWith : ∀ {kw : List Char}, (∀ c ∈ kw, c ≠ '%' ∧ c ≠ '_') → ∀ t : List Char,
    sqlLike col (kw ++ ['%']) t = decide (kw.map col.fold <+: t.map col.fold)
  | [], _, t => by simp [sqlLike_percent_nil]
  | c :: kw, hk, t => by
    have hc := hk c (List.mem_cons_self c kw)
    rw [List.cons_append, sqlLike_lit col hc.1 hc.2]
    cases t with
    | nil => simp
    | cons d t =>
      simp [sqlLike_startsWith (fun c' h => hk c' (List.mem_cons_of_mem c h)) t, Bool.beq_eq_decide_eq]

theorem infix_map_iff_tails {f : Char → Char} {kw q : List Char} :
    kw <:+: q.map f ↔ ∃ t ∈ q.tails, kw <+: t.map f := by
  constructor
  · rintro ⟨u, v, huv⟩
    refine ⟨q.drop u.length, (List.mem_tails _ _).2 (List.drop_suffix _ _), v, ?_⟩
    rw [List.map_drop, ← huv, List.append_assoc, List.drop_left]
  · rintro ⟨t, ht, hp⟩
    exact List.infix_iff_prefix_suffix.2 ⟨_, hp, ((List.mem_tails _ _).1 ht).map f⟩

/-- For a plain keyword, `qualified_name like '%keyword%'` holds exactly when the name contains
the keyword, up to folding. -/
theorem sqlLike_keyword {keyword : String} (hk : plainKeyword keyword = true) (q : String) :
    sqlLike col ('%' :: (keyword.data ++ ['%'])) q.data =
      decide (keyword.data.map col.fold <:+: q.data.map col.fold) := by
  have hk' : ∀ c ∈ keyword.data, c ≠ '%' ∧ c ≠ '_' := fun c hc => by
    have := List.all_eq_true.1 hk c hc
    simp only [Bool.and_eq_true, bne_iff_ne] at this
    exact ⟨this.1.1, this.1.2⟩
  rw [sqlLike_percent, Bool.eq_iff_iff, decide_eq_true_iff, infix_map_iff_tails,
    List.any_eq_true]
  simp only [sqlLike_startsWith col hk', decide_eq_true_eq]

/-! ## The join on a store with no duplicate edge -/

theorem filter_eq_edge {es : List Edge} (hn : es.Nodup) (e : Edge) :
    es.filter (· == e) = if e ∈ es then [e] else [] := by
  rw [List.filter_beq]
  split
  · rw [List.count_eq_one_of_mem hn ‹_›]; rfl
  · rw [List.count_eq_zero_of_not_mem ‹_›]; rfl

/-- With no edge stored twice, the join keeps each entity that has a `BelongsTo` edge to the
project, once. -/
theorem Store.belongsToRows_of_nodup {s : Store} (hn : s.edges.Nodup) (id : String) :
    s.belongsToRows id =
      s.entities.filter fun e => decide ((⟨e.entity_id, id, .belongsTo⟩ : Edge) ∈ s.edges) := by
  have hp : ∀ e : Entity, (fun ed : Edge => ed.from_id == e.entity_id &&
      ed.conn_type == .belongsTo && ed.to_id == id) = (· == ⟨e.entity_id, id, .belongsTo⟩) := by
    intro e; funext ⟨a, b, c⟩
    rw [Bool.eq_iff_iff]
    simp only [Bool.and_eq_true, beq_iff_eq, Edge.mk.injEq]
    tauto
  unfold Store.belongsToRows
  induction s.entities with
  | nil => rfl
  | cons e es ih =>
    rw [List.flatMap_cons, ih, hp, filter_eq_edge hn, List.filter_cons]
    split <;> simp_all

/-- On a raw-SQL store, for a plain keyword, the rows the query filters are the spec's matches. -/
theorem Store.filter_searchWhere {s : Store} (h : Reachable .rawSql s) {keyword : String}
    (hk : plainKeyword keyword = true) (type : List EntityType) (project_id : Option String) :
    (s.searchFrom project_id).filter (searchWhere col keyword type) =
      s.entities.filter fun e => decide (SearchMatch col s keyword type project_id e) := by
  have hw : ∀ e, searchWhere col keyword type e = decide (keyword.data.map col.fold <:+:
      e.qualified_name.data.map col.fold ∧ e.entity_type ∈ type) := fun e => by
    simp only [searchWhere, List.cons_append, sqlLike_keyword col hk, List.elem_eq_mem,
      Bool.decide_and]
  cases project_id with
  | none => exact List.filter_congr fun e _ => by simp [hw, SearchMatch]
  | some id =>
    rw [Store.searchFrom, s.belongsToRows_of_nodup h.edges_nodup, List.filter_filter]
    exact List.filter_congr fun e _ => by simp [hw, SearchMatch, Bool.and_assoc]

/-! ## The last `size` of the first `start + size` -/

theorem length_pySliceFrom_take {α : Type} (l : List α) (start size : Nat) (hs : 0 < size) :
    (pySliceFrom (-(size : Int)) (l.take (start + size))).length =
      min (start + size) l.length - (min (start + size) l.length - size) := by
  simp only [pySliceFrom, show ¬ (0 ≤ -(size : Int)) by omega, if_false, List.length_drop,
    List.length_take, Int.natAbs_neg, Int.natAbs_ofNat]

theorem page_cond_of_length {α : Type} {l : List α} {start size : Nat} (hs : 0 < size)
    (h : (pySliceFrom (-(size : Int)) (l.take (start + size))).length =
      (page start size l).length) :
    start + size ≤ l.length ∨ start = 0 ∨ l = [] := by
  rw [length_pySliceFrom_take l start size hs] at h
  simp only [page, List.length_take, List.length_drop] at h
  rw [← List.length_eq_zero]
  omega

/-- The raw-SQL page, the last `size` of the first `start + size` rows, is positions `start` to
`start + size - 1` exactly when the page is full, or is the first page, or there is no row. -/
theorem pySliceFrom_take_eq_page_iff {α : Type} (l : List α) (start size : Nat) (hs : 0 < size) :
    pySliceFrom (-(size : Int)) (l.take (start + size)) = page start size l ↔
      start + size ≤ l.length ∨ start = 0 ∨ l = [] := by
  have hneg : ¬ (0 ≤ -(size : Int)) := by omega
  constructor
  · intro heq
    exact page_cond_of_length hs (congrArg List.length heq)
  · rintro (hfull | rfl | rfl)
    · simp only [pySliceFrom, hneg, if_false, List.length_take, Int.natAbs_neg, Int.natAbs_ofNat,
        Nat.min_eq_left hfull, Nat.add_sub_cancel, page, List.drop_take, Nat.add_sub_cancel_left]
    · simp only [pySliceFrom, hneg, if_false, Nat.zero_add, page, List.drop_zero, Int.natAbs_neg,
        Int.natAbs_ofNat, List.length_take]
      rw [Nat.sub_eq_zero_of_le (Nat.min_le_left _ _), List.drop_zero]
    · simp [pySliceFrom, page]

/-! ## The two branches -/

/-- The raw-SQL branch, on every store it reaches and under any collation, for a plain keyword,
some types, a project that resolves or none, `start ≥ 0` and `size ≥ 1`: `search_entity` returns
the last `size` of the first `start + size` entries of the spec's list, as references. That is the
spec's page exactly when the page is full, or is the first page, or the list is empty. -/
theorem searchEntity_rawSql {s : Store} (h : Reachable .rawSql s) {keyword : String}
    (hk : plainKeyword keyword = true) {type : List EntityType} (ht : type ≠ [])
    {project project_id : Option String} (hp : s.searchProjectId project = .ok project_id)
    (start size : Nat) (hs : 0 < size) :
    searchEntity col .rawSql s keyword type project (some start) (some size) =
      .ok ((pySliceFrom (-(size : Int)) ((searchSpec col s keyword type project_id).take
        (start + size))).map fun r => ⟨r.entity_id, r.entity_type, r.qualified_name⟩) ∧
    (searchEntity col .rawSql s keyword type project (some start) (some size) =
      .ok ((page start size (searchSpec col s keyword type project_id)).map
        fun r => ⟨r.entity_id, r.entity_type, r.qualified_name⟩) ↔
      start + size ≤ (searchSpec col s keyword type project_id).length ∨ start = 0 ∨
        searchSpec col s keyword type project_id = []) := by
  have htop : ((start : Int) + size).toNat = start + size := by omega
  have hrows : searchEntity col .rawSql s keyword type project (some start) (some size) =
      .ok ((pySliceFrom (-(size : Int)) ((searchSpec col s keyword type project_id).take
        (start + size))).map fun r => ⟨r.entity_id, r.entity_type, r.qualified_name⟩) := by
    simp only [searchEntity, hp, ok_bind, Store.rawSearchRows, ht, if_false,
      s.filter_searchWhere col h hk, topRows, show ¬ ((start : Int) + size < 0) by omega,
      show ¬ ((size : Int) = 0) by omega, htop, searchSpec]
    rfl
  refine ⟨hrows, ?_⟩
  rw [hrows]
  constructor
  · intro heq
    exact page_cond_of_length hs (by simpa using congrArg List.length (Except.ok.inj heq))
  · intro hc
    rw [(pySliceFrom_take_eq_page_iff _ _ _ hs).2 hc]

/-- Names ordered by their lowered characters, in code-point order. -/
def lowerLe : List Char → List Char → Bool
  | [], _ => true
  | _ :: _, [] => false
  | c :: cs, d :: ds => c.toLower < d.toLower || (c.toLower == d.toLower && lowerLe cs ds)

/-- A collation for the examples: ASCII letters folded to lower case, names ordered by their
lowered characters. SQL Server's default collation folds and orders the names of the examples so.
-/
def sampleCollation : Collation := ⟨Char.toLower, lowerLe⟩

/-- On the raw-SQL scenario store the first page of the sources of `p1` holding `s` is right. -/
theorem searchEntity_rawSql_firstPage :
    searchEntity sampleCollation .rawSql (scenarioStore .rawSql) "s" [.source] (some "p1") (some 0)
        (some 5) =
      .ok ((page 0 5 (searchSpec sampleCollation (scenarioStore .rawSql) "s" [.source]
        (some "00000000-0000-4000-8000-000000000001"))).map
          fun r => ⟨r.entity_id, r.entity_type, r.qualified_name⟩) :=
  ((searchEntity_rawSql sampleCollation (reachable_scenarioStore .rawSql) (by decide) (by decide)
    (show (scenarioStore .rawSql).searchProjectId (some "p1") =
      .ok (some "00000000-0000-4000-8000-000000000001") from rfl) 0 5 (by decide)).2).2
    (.inr (.inl rfl))

/-- Two sources of `p1` on the raw-SQL scenario store hold `s`. The page from position 10 is past
the end of that list, and the raw-SQL branch still returns both. The keyword `s_` is in neither
name, and `LIKE '%s_%'` matches both. -/
theorem searchEntity_rawSql_past_end :
    Reachable .rawSql (scenarioStore .rawSql) ∧
      (searchSpec sampleCollation (scenarioStore .rawSql) "s" [.source]
        (some "00000000-0000-4000-8000-000000000001")).length = 2 ∧
      searchEntity sampleCollation .rawSql (scenarioStore .rawSql) "s" [.source] (some "p1")
          (some 10) (some 5) =
        .ok [⟨"00000000-0000-4000-8000-000000000002", .source, "p1__s1"⟩,
          ⟨"00000000-0000-4000-8000-000000000005", .source, "p1__s2"⟩] ∧
      searchSpec sampleCollation (scenarioStore .rawSql) "s_" [.source] none = [] ∧
      searchEntity sampleCollation .rawSql (scenarioStore .rawSql) "s_" [.source] none none none =
        .ok [⟨"00000000-0000-4000-8000-000000000002", .source, "p1__s1"⟩,
          ⟨"00000000-0000-4000-8000-000000000005", .source, "p1__s2"⟩] :=
  ⟨reachable_scenarioStore _, by decide, rfl, by decide, rfl⟩

end FeathrRegistry
