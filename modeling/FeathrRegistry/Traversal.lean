import FeathrRegistry.Graph
import Mathlib.Data.Nat.Find

/-!
# FeathrRegistry.Traversal

What `_bfs` computes. Round `k` of its loop fetches the edges that end a path of `k` edges of the
relationship from the start. Its frontier is their targets (`bfsLoop_spec`). So when the loop
ends, its connections are the last edges of every path from the start. The ids it resolves are
the start and every id a path reaches (`mem_bfsIds`).

The loop ends at the first round that finds no edge, that is, once no path is longer. A path on a
graph without cycles repeats no edge, so none is longer than the edge table. So `_bfs` ends within
that many rounds (`bfsLoop_isSome`), in every reachable store (`bfs_terminates`).
-/

namespace FeathrRegistry

namespace Store

variable (s : Store) (t : RelationshipType)

/-- `p` is a path of edges of type `t` from `x` to `y`. -/
def IsPath : String → List Edge → String → Prop
  | x, [], y => x = y
  | x, e :: p, y => e ∈ s.edges ∧ e.conn_type = t ∧ e.from_id = x ∧ IsPath e.to_id p y

variable {s t}

@[simp] theorem isPath_nil {x y : String} : s.IsPath t x [] y ↔ x = y := Iff.rfl

@[simp] theorem isPath_cons {x y : String} {e : Edge} {p : List Edge} :
    s.IsPath t x (e :: p) y ↔ e ∈ s.edges ∧ e.conn_type = t ∧ e.from_id = x ∧ s.IsPath t e.to_id p y :=
  Iff.rfl

theorem isPath_append {x z : String} :
    ∀ {p q : List Edge}, s.IsPath t x (p ++ q) z ↔ ∃ y, s.IsPath t x p y ∧ s.IsPath t y q z
  | [], q => by simp
  | e :: p, q => by
    simp only [List.cons_append, isPath_cons, isPath_append, and_assoc, exists_and_left]

theorem isPath_concat {x z : String} {p : List Edge} {e : Edge} :
    s.IsPath t x (p ++ [e]) z ↔
      s.IsPath t x p e.from_id ∧ e ∈ s.edges ∧ e.conn_type = t ∧ e.to_id = z := by
  simp only [isPath_append, isPath_cons, isPath_nil]
  constructor
  · rintro ⟨y, hp, he, ht, rfl, rfl⟩; exact ⟨hp, he, ht, rfl⟩
  · rintro ⟨hp, he, ht, rfl⟩; exact ⟨_, hp, he, ht, rfl, rfl⟩

theorem Linked.of_mem {e : Edge} (h : e ∈ s.edges) : s.Linked e.conn_type e.from_id e.to_id := h

theorem isPath_iff_reflTransGen {x y : String} :
    (∃ p, s.IsPath t x p y) ↔ Relation.ReflTransGen (s.Linked t) x y := by
  constructor
  · rintro ⟨p, hp⟩
    induction p generalizing x with
    | nil => exact hp ▸ .refl
    | cons e p ih =>
      obtain ⟨he, rfl, rfl, hp⟩ := hp
      exact .head (Linked.of_mem he) (ih hp)
  · intro h
    induction h with
    | refl => exact ⟨[], rfl⟩
    | tail _ hyz ih =>
      obtain ⟨p, hp⟩ := ih
      exact ⟨p ++ [⟨_, _, t⟩], isPath_concat.2 ⟨hp, hyz, rfl, rfl⟩⟩

theorem isPath_transGen {x y : String} {p : List Edge} (h : s.IsPath t x p y) (hp : p ≠ []) :
    Relation.TransGen (s.Linked t) x y := by
  cases p with
  | nil => exact absurd rfl hp
  | cons e p =>
    obtain ⟨he, rfl, rfl, hp⟩ := h
    exact .head' (Linked.of_mem he) (isPath_iff_reflTransGen.1 ⟨p, hp⟩)

/-- A path from `x` repeats no edge when no cycle is reachable from `x`: the second copy of an
edge would close one. -/
theorem IsPath.nodup_of_reach : ∀ {x y : String} {p : List Edge},
    (∀ z, Relation.ReflTransGen (s.Linked t) x z → ¬ Relation.TransGen (s.Linked t) z z) →
      s.IsPath t x p y → p.Nodup
  | _, _, [], _, _ => List.nodup_nil
  | _, _, e :: p, hcyc, ⟨he, ht, hf, hp⟩ => by
    have hx : s.Linked t _ e.to_id := hf ▸ ht ▸ Linked.of_mem he
    refine List.nodup_cons.2 ⟨fun hep => ?_, hp.nodup_of_reach fun z hz => hcyc z (.head hx hz)⟩
    obtain ⟨p₁, p₂, rfl⟩ := List.append_of_mem hep
    obtain ⟨z, h₁, h₂⟩ := isPath_append.1 hp
    obtain ⟨-, -, rfl, -⟩ := h₂
    exact hcyc _ (.single hx) (isPath_transGen (isPath_concat.2 ⟨h₁, he, ht, rfl⟩) (by simp))

/-- A path without cycles repeats no edge. -/
theorem IsPath.nodup (ha : s.Acyclic t) {x y : String} {p : List Edge}
    (hp : s.IsPath t x p y) : p.Nodup :=
  hp.nodup_of_reach fun z _ => ha z

/-- A path that repeats no edge is no longer than the edge table. -/
theorem IsPath.length_le_of_nodup {x y : String} {p : List Edge} (hn : p.Nodup)
    (hp : s.IsPath t x p y) : p.length ≤ s.edges.length := by
  have hsub : p ⊆ s.edges := by
    intro e he
    obtain ⟨p₁, p₂, rfl⟩ := List.append_of_mem he
    obtain ⟨_, -, h₂⟩ := isPath_append.1 hp
    exact h₂.1
  exact (List.subperm_of_subset hn hsub).length_le

/-- A path without cycles is no longer than the edge table. -/
theorem IsPath.length_le (ha : s.Acyclic t) {x y : String} {p : List Edge}
    (hp : s.IsPath t x p y) : p.length ≤ s.edges.length :=
  hp.length_le_of_nodup (hp.nodup ha)

/-! ## The loop -/

theorem mem_bfsStep {ids : List String} {e : Edge} :
    e ∈ s.bfsStep t ids ↔ e ∈ s.edges ∧ e.conn_type = t ∧ e.from_id ∈ ids := by
  simp [bfsStep]

section Loop

variable {x : String}

/-- The frontier after `k` rounds: the ends of the paths of `k` edges from `x`. -/
def Frontier (s : Store) (t : RelationshipType) (x : String) (k : Nat) (ids : List String) :
    Prop :=
  ∀ y, y ∈ ids ↔ ∃ p : List Edge, p.length = k ∧ s.IsPath t x p y

/-- The connections after `k` rounds: the last edges of the paths of at most `k` edges. -/
def Connections (s : Store) (t : RelationshipType) (x : String) (k : Nat) (acc : List Edge) :
    Prop :=
  ∀ e, e ∈ acc ↔ ∃ p : List Edge, p.length < k ∧ s.IsPath t x (p ++ [e]) e.to_id

theorem frontier_zero : s.Frontier t x 0 [x] := by
  intro y; simp [eq_comm]

theorem connections_zero : s.Connections t x 0 [] := by
  intro e; simp

/-- An edge leaving the frontier ends a path one edge longer. -/
theorem Frontier.mem_bfsStep {k : Nat} {ids : List String} (hf : s.Frontier t x k ids) {e : Edge} :
    e ∈ s.bfsStep t ids ↔ ∃ p : List Edge, p.length = k ∧ s.IsPath t x (p ++ [e]) e.to_id := by
  rw [Store.mem_bfsStep, hf]
  constructor
  · rintro ⟨he, ht, p, hp, hpath⟩; exact ⟨p, hp, isPath_concat.2 ⟨hpath, he, ht, rfl⟩⟩
  · rintro ⟨p, hp, hpath⟩
    obtain ⟨hpath, he, ht, -⟩ := isPath_concat.1 hpath
    exact ⟨he, ht, p, hp, hpath⟩

theorem Frontier.step {k : Nat} {ids : List String} (hf : s.Frontier t x k ids) :
    s.Frontier t x (k + 1) ((s.bfsStep t ids).map (·.to_id)) := by
  intro y
  simp only [List.mem_map, hf.mem_bfsStep]
  constructor
  · rintro ⟨e, ⟨p, hp, hpath⟩, rfl⟩
    exact ⟨p ++ [e], by simp [hp], hpath⟩
  · rintro ⟨q, hq, hpath⟩
    rcases List.eq_nil_or_concat q with rfl | ⟨p, e, rfl⟩
    · simp at hq
    · rw [List.concat_eq_append] at hq hpath
      obtain ⟨-, -, -, rfl⟩ := isPath_concat.1 hpath
      exact ⟨e, ⟨p, by simpa using hq, hpath⟩, rfl⟩

theorem Connections.step {k : Nat} {ids : List String} {acc : List Edge}
    (hf : s.Frontier t x k ids) (hc : s.Connections t x k acc) :
    s.Connections t x (k + 1) (acc ++ s.bfsStep t ids) := by
  intro e
  rw [List.mem_append, hc, hf.mem_bfsStep]
  constructor
  · rintro (⟨p, hp, h⟩ | ⟨p, rfl, h⟩)
    · exact ⟨p, by omega, h⟩
    · exact ⟨p, by omega, h⟩
  · rintro ⟨p, hp, h⟩
    rcases Nat.lt_succ_iff_lt_or_eq.1 hp with hp | hp
    · exact .inl ⟨p, hp, h⟩
    · exact .inr ⟨p, hp, h⟩

/-- A round that finds no edge leaves no longer path. -/
theorem Frontier.no_longer {k : Nat} {ids : List String} (hf : s.Frontier t x k ids)
    (hnil : s.bfsStep t ids = []) {p : List Edge} {y : String} (hp : s.IsPath t x p y) :
    p.length ≤ k := by
  by_contra hk
  have hsplit := List.take_append_drop k p
  obtain ⟨e, r, hr⟩ : ∃ e r, p.drop k = e :: r :=
    List.exists_cons_of_ne_nil (by simp; omega)
  rw [hr] at hsplit
  rw [← hsplit] at hp
  obtain ⟨z, h₁, he, ht, hz, -⟩ := isPath_append.1 hp
  have : e ∈ s.bfsStep t ids :=
    Store.mem_bfsStep.2 ⟨he, ht, (hf _).2 ⟨_, by simp; omega, hz ▸ h₁⟩⟩
  simp [hnil] at this

/-- When the loop ends, its connections are the last edges of all paths from `x`. -/
theorem bfsLoop_spec : ∀ {fuel k : Nat} {ids : List String} {acc conns : List Edge},
    s.Frontier t x k ids → s.Connections t x k acc → s.bfsLoop t fuel ids acc = some conns →
      ∀ e, e ∈ conns ↔ ∃ p : List Edge, s.IsPath t x (p ++ [e]) e.to_id
  | 0, _, _, _, _, _, _, h => by cases h
  | fuel + 1, k, ids, acc, conns, hf, hc, h => by
    unfold bfsLoop at h
    split at h
    · rename_i hnil
      cases h
      intro e
      rw [hc]
      exact ⟨fun ⟨p, _, hp⟩ => ⟨p, hp⟩, fun ⟨p, hp⟩ =>
        ⟨p, by have := hf.no_longer hnil hp; simp at this; omega, hp⟩⟩
    · exact bfsLoop_spec hf.step (hc.step hf) h

/-- From a frontier with no path longer than `k + f`, the loop ends within `f + 1` rounds. -/
theorem bfsLoop_isSome : ∀ {f k : Nat} {ids : List String} {acc : List Edge},
    s.Frontier t x k ids → (∀ p y, s.IsPath t x p y → p.length ≤ k + f) →
      (s.bfsLoop t (f + 1) ids acc).isSome
  | f, k, ids, acc, hf, hb => by
    unfold bfsLoop
    split
    · rfl
    · rename_i next hnext
      cases f with
      | zero =>
        obtain ⟨e, he⟩ := List.exists_mem_of_ne_nil _ hnext
        obtain ⟨p, hp, hpath⟩ := hf.mem_bfsStep.1 he
        have := hb _ _ hpath
        simp at this; omega
      | succ f => exact bfsLoop_isSome hf.step fun p y hp => by have := hb p y hp; omega

end Loop

/-- The ids `_bfs` resolves from the connections of a finished loop: the start and every id a
path of the relationship reaches. -/
theorem mem_bfsIds {fuel : Nat} {x y : String} {conns : List Edge}
    (h : s.bfsLoop t fuel [x] [] = some conns) :
    y ∈ bfsIds x conns ↔ Relation.ReflTransGen (s.Linked t) x y := by
  have hc := bfsLoop_spec frontier_zero connections_zero h
  rw [← isPath_iff_reflTransGen]
  simp only [bfsIds, List.mem_cons, List.mem_flatMap, List.not_mem_nil, or_false, hc]
  constructor
  · rintro (rfl | ⟨e, ⟨p, hp⟩, rfl | rfl⟩)
    · exact ⟨[], rfl⟩
    · exact ⟨p, (isPath_concat.1 hp).1⟩
    · exact ⟨_, hp⟩
  · rintro ⟨q, hq⟩
    rcases List.eq_nil_or_concat q with rfl | ⟨p, e, rfl⟩
    · exact .inl hq.symm
    · rw [List.concat_eq_append] at hq
      obtain ⟨-, -, -, rfl⟩ := isPath_concat.1 hq
      exact .inr ⟨e, ⟨p, hq⟩, .inr rfl⟩

theorem bfsLoop_mono : ∀ {fuel : Nat} {ids : List String} {acc conns : List Edge},
    s.bfsLoop t fuel ids acc = some conns → s.bfsLoop t (fuel + 1) ids acc = some conns
  | 0, _, _, _, h => by cases h
  | fuel + 1, ids, acc, conns, h => by
    rw [bfsLoop] at h ⊢
    cases hs : s.bfsStep t ids with
    | nil => rw [hs] at h; exact h
    | cons e es => rw [hs] at h; exact bfsLoop_mono h

/-! ## `_bfs` -/

theorem mapM_fillEntity {n : Nat} :
    ∀ {l : List Entity} {fs : List Filled}, l.mapM (s.fillEntity n) = .ok fs → fs.map (·.entity) = l
  | [], fs, h => by rw [List.mapM_nil] at h; cases h; rfl
  | e :: l, fs, h => by
    rw [List.mapM_cons] at h
    obtain ⟨F, hF, h⟩ := bind_eq_ok h
    obtain ⟨Fs, hFs, h⟩ := bind_eq_ok h
    cases h
    rw [List.map_cons, fillEntity_entity hF, mapM_fillEntity hFs]

/-- What a `_bfs` that returns has found: the connections of its finished loop, and the stored
rows of the start and of every id a path reaches. -/
theorem bfs_ok {fuel : Nat} {x : String} {fs : List Filled} {conns : List Edge}
    (h : s.bfs fuel x t = some (.ok (fs, conns))) :
    s.bfsLoop t fuel [x] [] = some conns ∧ ∀ R, R ∈ fs.map (·.entity) ↔
      R ∈ s.entities ∧ Relation.ReflTransGen (s.Linked t) x R.entity_id := by
  unfold bfs at h
  cases hl : s.bfsLoop t fuel [x] [] with
  | none => rw [hl] at h; cases h
  | some c =>
    rw [hl, Option.map_some'] at h
    obtain ⟨fs', hfs, h⟩ := bind_eq_ok (Option.some.inj h)
    cases h
    refine ⟨rfl, fun R => ?_⟩
    rw [mapM_fillEntity hfs, mem_rowsOf, mem_bfsIds hl]

/-- The connections of a finished loop from `x`: the stored edges of the relationship that leave
an id reachable from `x`. -/
theorem mem_conns {fuel : Nat} {x : String} {conns : List Edge}
    (h : s.bfsLoop t fuel [x] [] = some conns) {e : Edge} :
    e ∈ conns ↔ e ∈ s.edges ∧ e.conn_type = t ∧ Relation.ReflTransGen (s.Linked t) x e.from_id := by
  rw [bfsLoop_spec frontier_zero connections_zero h, ← isPath_iff_reflTransGen]
  constructor
  · rintro ⟨p, hp⟩
    obtain ⟨hp, he, ht, -⟩ := isPath_concat.1 hp
    exact ⟨he, ht, p, hp⟩
  · rintro ⟨he, ht, p, hp⟩
    exact ⟨p, isPath_concat.2 ⟨hp, he, ht, rfl⟩⟩

/-- With no cycle of the relationship, the loop from any id ends within one round more than there
are edges. -/
theorem bfsLoop_acyclic (ha : s.Acyclic t) (x : String) :
    ∃ conns, s.bfsLoop t (s.edges.length + 1) [x] [] = some conns :=
  Option.isSome_iff_exists.1 (bfsLoop_isSome frontier_zero fun _ _ hp => by
    simpa using hp.length_le ha)

/-- What a `get_dependent_entities` that returns has found: the stored entities, other than the
resolved id, that a path of the relationship its entity's type selects reaches. -/
theorem getDependentEntities_ok {fuel : Nat} {X : String} {ds : List Filled}
    (h : s.getDependentEntities fuel X = some (.ok ds)) :
    ∃ id F, s.getEntityId X = .ok id ∧ s.getEntity id = .ok F ∧ ∀ E, E ∈ ds.map (·.entity) ↔
      E ∈ s.entities ∧ E.entity_id ≠ id ∧
        Relation.TransGen (s.Linked (dependentRelation F.entity.entity_type)) id E.entity_id := by
  unfold getDependentEntities at h
  split at h
  · cases h
  · rename_i id hid
    split at h
    · cases h
    · rename_i F hF
      refine ⟨id, F, hid, hF, fun E => ?_⟩
      cases hb : s.bfs fuel id (dependentRelation F.entity.entity_type) with
      | none => rw [hb] at h; cases h
      | some r =>
        rcases r with e | ⟨fs, conns⟩
        · rw [hb] at h; cases h
        · rw [hb] at h
          simp only [Option.map_some', Except.map, Option.some.injEq, Except.ok.injEq] at h
          subst h
          have hfilter : E ∈ (fs.filter (·.entity.entity_id != id)).map (·.entity) ↔
              E ∈ fs.map (·.entity) ∧ E.entity_id ≠ id := by
            simp only [List.mem_map, List.mem_filter, bne_iff_ne, ne_eq]
            constructor
            · rintro ⟨F', ⟨hF', hne⟩, rfl⟩; exact ⟨⟨F', hF', rfl⟩, hne⟩
            · rintro ⟨⟨F', hF', rfl⟩, hne⟩; exact ⟨F', ⟨hF', hne⟩, rfl⟩
          rw [hfilter, (bfs_ok hb).2, Relation.reflTransGen_iff_eq_or_transGen]
          constructor
          · rintro ⟨⟨hE, heq | htr⟩, hne⟩
            · exact absurd heq hne
            · exact ⟨hE, hne, htr⟩
          · rintro ⟨hE, hne, htr⟩; exact ⟨⟨hE, .inr htr⟩, hne⟩

end Store

/-- In every reachable store `_bfs` ends: from every id and over every relationship, its loop
takes at most one round more than there are edges. -/
theorem bfs_terminates {b : Branch} {s : Store} (h : Reachable b s) (t : RelationshipType)
    (x : String) : ∃ conns, s.bfsLoop t (s.edges.length + 1) [x] [] = some conns :=
  s.bfsLoop_acyclic (reachable_acyclic h t) x

theorem bfs_terminates_scenario :
    Reachable .sqlalchemy (scenarioStore .sqlalchemy) ∧
      ∃ conns, (scenarioStore .sqlalchemy).bfsLoop .produces
        ((scenarioStore .sqlalchemy).edges.length + 1) ["00000000-0000-4000-8000-000000000002"] [] =
          some conns :=
  ⟨reachable_scenarioStore _, bfs_terminates (reachable_scenarioStore _) _ _⟩

/-- With no cycle of the relationship reachable from `x`, the paths from `x` have a longest one,
`L` edges long, and the loop of `_bfs` from `x` calls `_bfs_step` at most `L + 1` times. -/
theorem bfsLoop_longest_path {s : Store} {t : RelationshipType} {x : String}
    (hcyc : ∀ y, Relation.ReflTransGen (s.Linked t) x y → ¬ Relation.TransGen (s.Linked t) y y) :
    ∃ L, ((∃ p y, s.IsPath t x p y ∧ p.length = L) ∧ ∀ p y, s.IsPath t x p y → p.length ≤ L) ∧
      ∃ conns, s.bfsLoop t (L + 1) [x] [] = some conns := by
  classical
  have hb : ∃ n, ∀ p y, s.IsPath t x p y → p.length ≤ n :=
    ⟨_, fun _ _ hp => hp.length_le_of_nodup (hp.nodup_of_reach hcyc)⟩
  refine ⟨Nat.find hb, ⟨?_, Nat.find_spec hb⟩, Option.isSome_iff_exists.1
    (Store.bfsLoop_isSome Store.frontier_zero fun p y hp => by simpa using Nat.find_spec hb p y hp)⟩
  rcases hL : Nat.find hb with _ | m
  · exact ⟨[], x, rfl, rfl⟩
  · obtain ⟨p, y, hp, hlen⟩ : ∃ p y, s.IsPath t x p y ∧ m < p.length := by
      have := Nat.find_min hb (show m < Nat.find hb by omega)
      push_neg at this
      exact this
    exact ⟨p, y, hp, by have := Nat.find_spec hb p y hp; omega⟩

theorem bfsLoop_longest_path_scenario :
    (∀ y, Relation.ReflTransGen ((scenarioStore .sqlalchemy).Linked .produces)
        "00000000-0000-4000-8000-000000000002" y →
      ¬ Relation.TransGen ((scenarioStore .sqlalchemy).Linked .produces) y y) ∧
    ∃ L, ((∃ p y, (scenarioStore .sqlalchemy).IsPath .produces
          "00000000-0000-4000-8000-000000000002" p y ∧ p.length = L) ∧
        ∀ p y, (scenarioStore .sqlalchemy).IsPath .produces
          "00000000-0000-4000-8000-000000000002" p y → p.length ≤ L) ∧
      ∃ conns, (scenarioStore .sqlalchemy).bfsLoop .produces (L + 1)
        ["00000000-0000-4000-8000-000000000002"] [] = some conns :=
  have hcyc : ∀ y, Relation.ReflTransGen ((scenarioStore .sqlalchemy).Linked .produces)
      "00000000-0000-4000-8000-000000000002" y →
        ¬ Relation.TransGen ((scenarioStore .sqlalchemy).Linked .produces) y y :=
    fun y _ => reachable_acyclic (reachable_scenarioStore .sqlalchemy) .produces y
  ⟨hcyc, bfsLoop_longest_path hcyc⟩

end FeathrRegistry
