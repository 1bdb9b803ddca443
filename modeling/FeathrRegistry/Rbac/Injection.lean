import FeathrRegistry.Rbac.Invariants

/-!
# FeathrRegistry.Rbac.Injection

Which statement the database reads from the texts `DbRBAC` builds.

`DbRBAC` doubles the quotes of the create and delete reasons and writes every other value into
its literal as it is: the project, user and role names (lowered), the requester, the time and the
admin role's name. The texts read back as their templates with the intended values exactly when
none of those values holds a quote (`rbacTexts_lex_iff`, from `lex_pyFormat_iff`). A value with a
quote closes its literal, and the database reads what follows as statement
(`addUserrole_injected`). A quote-free value can still make the call raise: `sa.text` reads a
`:name` in it as a bind parameter, which nothing binds (`addUserrole_error_iff`).
-/

namespace FeathrRegistry

/-- The values of the literals of a statement, in order. -/
def literals (toks : List Tok) : List String :=
  toks.filterMap fun | .lit v => some v | .chr _ => none

theorem self_eq_escapeStr {v : String} : v = escapeStr v ↔ quoteFree v = true := by
  simp only [quoteFree, List.contains, List.elem_eq_mem, Bool.not_eq_true',
    decide_eq_false_iff_not, ← sqlEscape_eq_self, escapeStr]
  exact ⟨fun h => (congrArg String.data h).symm, fun h => by rw [h]⟩

/-- Every statement text `DbRBAC` builds by `%` reads back as its template with the intended
values, lowered where the code lowers them, exactly when the values it writes as they are hold no
quote. The selects append the role clause when a non-empty role is given. -/
theorem rbacTexts_lex_iff (base : Base) (utc p u r c b : String) (role : Option String) :
    ((addUserroleText base utc p u r c b).bind (lex .outside) =
        some (fill (template addUserroleQuery) [base.lower p, base.lower u, base.lower r, b, c, utc]) ↔
      (quoteFree p && quoteFree u && quoteFree r && quoteFree b && quoteFree utc) = true) ∧
    ((deleteUserroleText base utc p u r c b).bind (lex .outside) =
        some (fill (template deleteUserroleQuery) [b, c, utc, base.lower u, base.lower p, base.lower r]) ↔
      (quoteFree b && quoteFree utc && quoteFree u && quoteFree p && quoteFree r) = true) ∧
    ((initProjectAdminText base utc u p).bind (lex .outside) =
        some (fill (template initProjectAdminQuery) [base.lower p, base.lower u, base.admin, "system",
          "creator of project, get admin by default.", utc]) ↔
      (quoteFree p && quoteFree u && quoteFree base.admin && quoteFree utc) = true) ∧
    ((initUserroleText base p).bind (lex .outside) =
        some (fill (template initUserroleQuery) [base.lower p]) ↔ quoteFree p = true) ∧
    ((getUserrolesByUserText base u role).bind (lex .outside) =
        some ((role.filter (· != "")).elim (fill (template getUserrolesByUserQuery) [base.lower u])
          fun r => fill (template (getUserrolesByUserQuery ++ roleClause)) [base.lower u, base.lower r]) ↔
      (quoteFree u && (role.filter (· != "")).all quoteFree) = true) ∧
    ((getUserrolesByProjectText base p role).bind (lex .outside) =
        some ((role.filter (· != "")).elim (fill (template getUserrolesByProjectQuery) [base.lower p])
          fun r => fill (template (getUserrolesByProjectQuery ++ roleClause)) [base.lower p, base.lower r]) ↔
      (quoteFree p && (role.filter (· != "")).all quoteFree) = true) := by
  obtain ⟨ha, hi, hd, hu, hbu, hbp, hbur, hbpr, hla, hli, hld, hlu, hlbu, hlbp, hlbur, hlbpr⟩ :=
    queries_wellFormed
  have hsys : quoteFree "system" = true := by decide
  have hmsg : quoteFree "creator of project, get admin by default." = true := by decide
  refine ⟨?_, ?_, ?_, ?_, ?_, ?_⟩
  · rw [addUserroleText, lex_pyFormat_iff ha (by simp) (by rw [hla]; rfl)]
    simp [self_eq_escapeStr, and_assoc]
  · rw [deleteUserroleText, lex_pyFormat_iff hd (by simp) (by rw [hld]; rfl)]
    simp [self_eq_escapeStr, and_assoc]
  · rw [initProjectAdminText, lex_pyFormat_iff hi (by simp) (by rw [hli]; rfl)]
    simp [self_eq_escapeStr, and_assoc, hsys, hmsg]
  · rw [initUserroleText, lex_pyFormat_iff hu (by simp) (by rw [hlu]; rfl)]
    simp [self_eq_escapeStr]
  · rw [getUserrolesByUserText]
    cases role.filter (· != "") <;> dsimp only [Option.elim, Option.all]
    · rw [lex_pyFormat_iff hbu (by simp) (by rw [hlbu]; rfl)]
      simp [self_eq_escapeStr]
    · rw [lex_pyFormat_iff hbur (by simp) (by rw [hlbur]; rfl)]
      simp [self_eq_escapeStr]
  · rw [getUserrolesByProjectText]
    cases role.filter (· != "") <;> dsimp only [Option.elim, Option.all]
    · rw [lex_pyFormat_iff hbp (by simp) (by rw [hlbp]; rfl)]
      simp [self_eq_escapeStr]
    · rw [lex_pyFormat_iff hbpr (by simp) (by rw [hlbpr]; rfl)]
      simp [self_eq_escapeStr]

set_option maxRecDepth 10000 in
/-- `add_userrole("p1", "eve','admin','x','y','z'),('global','eve", "admin", "r", "b")`: the user
name closes its literal, and the database reads an insert of two rows, not the template, the second
row making `eve` an admin of the `global` scope. -/
theorem addUserrole_injected :
    ∃ toks, (addUserroleText sampleBase "2024-01-01 00:00:00.000000" "p1"
        "eve','admin','x','y','z'),('global','eve" "admin" "r" "b").bind (lex .outside) = some toks ∧
      matchTemplate (template addUserroleQuery) toks = none ∧
      literals toks = ["p1", "eve", "admin", "x", "y", "z", "global", "eve", "admin", "b", "r",
        "2024-01-01 00:00:00.000000"] :=
  ⟨_, rfl, rfl, rfl⟩

end FeathrRegistry
