import FeathrRegistry.Rbac.Sql

/-!
# FeathrRegistry.Rbac.UserRoles

The `userroles` table of the access-control service, and the calls of `DbRBAC`
(`rbac/db_rbac.py`) that read and write it.

`_init_admin` writes through the ORM. Every other call builds its statement as text with `%`
from a format string (copied below from the source, character for character) and sends it to the
database. The database runs what it reads (`readStmt`): a text that reads as the template of one
of the two inserts or of the update, with values in its holes, runs that statement with those
values. The service connects to SQLite when it is given no connection string, and there `=`
compares text exactly.

The texts go through `sa.text`, which raises on a text in which it reads a bind parameter
(`runUpdate`, `runProjectQuery`). Of the values a call writes as they are, those with a `:name`
make it raise; the equations of the calls below say when.

`models/base.py` of the service is not in the repository. What `DbRBAC` reads of it is a
parameter (`Base`): the value of `RoleType.ADMIN`, `SUPER_ADMIN_SCOPE`, and the access types a
role grants. So is what it relies on of Python's text handling (`PyText`): `str.lower()`,
`str.casefold()` and the class `\w` of `re`, which follow Unicode's tables. Every result holds for
each choice.
-/

namespace FeathrRegistry

/-- `str.lower()` of an ASCII string: each letter lowered as `Char.toLower` lowers it. -/
def asciiLower (s : String) : String := ⟨s.data.map Char.toLower⟩

/-- A string with no quote character. -/
def quoteFree (s : String) : Bool := !s.data.contains '\''

/-- What `DbRBAC` relies on of Python's text handling, with the laws the proofs use; each is a
property of Python's own. -/
structure PyText where
  /-- `str.lower()`. -/
  lower : String → String
  /-- `str.casefold()`, by which `init_userrole` compares a project with the super-admin scope. -/
  casefold : String → String
  /-- The word characters `\w` of `re`, by which `sa.text` reads bind parameters. -/
  word : Char → Bool
  lower_lower : ∀ s, lower (lower s) = lower s
  quoteFree_lower : ∀ s, quoteFree (lower s) = quoteFree s
  lower_ascii : ∀ s, (s.data.all fun c => c.toNat < 128) = true → lower s = asciiLower s
  word_quote : word '\'' = false

attribute [simp] PyText.lower_lower PyText.quoteFree_lower

/-- `sa.text` reads no bind parameter in a value `DbRBAC` writes as it is between quotes. -/
def PyText.bindFree (T : PyText) (v : String) : Bool :=
  !bindParam T.word (some '\'') (v.data ++ ['\''])

theorem PyText.bindFree_of_not_mem (T : PyText) {v : String} (h : ':' ∉ v.data) :
    T.bindFree v = true := by
  rw [PyText.bindFree, bindParam_of_not_mem _ (by simpa using h)]
  rfl

theorem PyText.lower_global (T : PyText) : T.lower "global" = "global" :=
  (T.lower_ascii _ (by decide)).trans (by decide)

/-- What `DbRBAC` reads that the repository does not give: Python's text handling, and the
values of the missing `models/base.py`. -/
structure Base extends PyText where
  /-- `RoleType.ADMIN.value`. -/
  admin : String
  /-- `SUPER_ADMIN_SCOPE`. -/
  superAdminScope : String
  /-- `UserRole.access`: the access types a role grants. -/
  access : String → List String

/-- A row of `userroles`. `record_id`, an autoincrement key no call compares, is left out. -/
structure UserRole where
  project_name : String
  user_name : String
  role_name : String
  create_by : Option String
  create_reason : Option String
  create_time : Option String
  delete_by : Option String
  delete_reason : Option String
  delete_time : Option String
  deriving DecidableEq, Repr

/-- `delete_reason is null`. -/
def UserRole.active (r : UserRole) : Bool := r.delete_reason.isNone

/-- `_get_userroles`: the active records. Its text holds no value. -/
def getUserroles (t : List UserRole) : List UserRole := t.filter UserRole.active

/-! ## The statement texts -/

/-- The insert of `add_userrole`. -/
def addUserroleQuery : String :=
  "insert into userroles (project_name, user_name, role_name, create_by, create_reason, " ++
  "create_time)\n            values ('%s','%s','%s','%s' ,'%s', '%s')"

/-- The update of `delete_userrole`. -/
def deleteUserroleQuery : String :=
  "UPDATE userroles SET\n            [delete_by] = '%s',\n            [delete_reason] = '%s',\n" ++
  "            [delete_time] = '%s'\n            WHERE [user_name] = '%s' and " ++
  "[project_name] = '%s' and [role_name] = '%s'\n            and [delete_time] is null"

/-- The select of `init_userrole`. -/
def initUserroleQuery : String :=
  "select project_name, user_name, role_name, create_by, create_reason, create_time, " ++
  "delete_reason, delete_time\n                from userroles\n                " ++
  "where delete_reason is null and project_name ='%s'"

/-- The insert of `init_project_admin`. -/
def initProjectAdminQuery : String :=
  "insert into userroles (project_name, user_name, role_name, create_by, create_reason, " ++
  "create_time)\n            values ('%s','%s','%s','%s','%s','%s')"

/-- The select of `get_userroles_by_user`. -/
def getUserrolesByUserQuery : String :=
  "select record_id, project_name, user_name, role_name, create_by, create_reason, " ++
  "create_time, delete_by, delete_reason, delete_time\n            from userroles\n" ++
  "            where delete_reason is null and user_name ='%s'"

/-- The select of `get_userroles_by_project`. -/
def getUserrolesByProjectQuery : String :=
  "select record_id, project_name, user_name, role_name, create_by, create_reason, " ++
  "create_time, delete_reason, delete_time\n            from userroles\n" ++
  "            where delete_reason is null and project_name ='%s'"

/-- The clause both selects append for a role. -/
def roleClause : String := "and role_name = '%s'"

/-! ## What the database runs -/

/-- A statement of `DbRBAC` that writes, as the database reads it. -/
inductive Stmt
  /-- `insert into userroles (...) values (...)`. -/
  | insert (project_name user_name role_name create_by create_reason create_time : String)
  /-- `UPDATE userroles SET ... WHERE ... and [delete_time] is null`. -/
  | revoke (delete_by delete_reason delete_time user_name project_name role_name : String)
  deriving DecidableEq, Repr

/-- How the database reads the tokens of a statement text: as the template of an insert or of the
update with values in its holes. The model runs no other statement. -/
def readToks (toks : List Tok) : Option Stmt :=
  match matchTemplate (template addUserroleQuery) toks with
  | some [p, u, r, b, c, t] => some (.insert p u r b c t)
  | _ =>
    match matchTemplate (template initProjectAdminQuery) toks with
    | some [p, u, r, b, c, t] => some (.insert p u r b c t)
    | _ =>
      match matchTemplate (template deleteUserroleQuery) toks with
      | some [b, c, t, u, p, r] => some (.revoke b c t u p r)
      | _ => none

/-- How the database reads a statement text. -/
def readStmt (text : List Char) : Option Stmt := (lex .outside text).bind readToks

/-- The update of `delete_userrole` on one record. -/
def UserRole.revoke (b c t u p r : String) (x : UserRole) : UserRole :=
  if x.user_name = u ∧ x.project_name = p ∧ x.role_name = r ∧ x.delete_time = none then
    { x with delete_by := some b, delete_reason := some c, delete_time := some t }
  else x

section Revoke

variable {b c t u p r : String} {x : UserRole}

@[simp] theorem UserRole.revoke_project_name : (x.revoke b c t u p r).project_name = x.project_name := by
  unfold UserRole.revoke; split <;> rfl

@[simp] theorem UserRole.revoke_user_name : (x.revoke b c t u p r).user_name = x.user_name := by
  unfold UserRole.revoke; split <;> rfl

@[simp] theorem UserRole.revoke_role_name : (x.revoke b c t u p r).role_name = x.role_name := by
  unfold UserRole.revoke; split <;> rfl

@[simp] theorem UserRole.revoke_create_reason :
    (x.revoke b c t u p r).create_reason = x.create_reason := by
  unfold UserRole.revoke; split <;> rfl

/-- The update sets `delete_reason` and `delete_time` together. -/
theorem UserRole.revoke_paired (h : x.delete_reason = none ↔ x.delete_time = none) :
    (x.revoke b c t u p r).delete_reason = none ↔ (x.revoke b c t u p r).delete_time = none := by
  unfold UserRole.revoke; split <;> simp [h]

/-- A record active after the update was active before, and the update did not match it. -/
theorem UserRole.active_of_revoke (h : (x.revoke b c t u p r).active = true) :
    x.active = true ∧ ¬(x.user_name = u ∧ x.project_name = p ∧ x.role_name = r ∧
      x.delete_time = none) ∧ x.revoke b c t u p r = x := by
  unfold UserRole.revoke at h ⊢
  split at h
  · simp [UserRole.active] at h
  · exact ⟨h, ‹_›, if_neg ‹_›⟩

end Revoke

/-- What a statement does to the table. -/
def Stmt.run : Stmt → List UserRole → List UserRole
  | .insert p u r b c t, rs => rs ++ [⟨p, u, r, some b, some c, some t, none, none, none⟩]
  | .revoke b c t u p r, rs => rs.map (UserRole.revoke b c t u p r)

/-- How a `DbRBAC` call ends without a table. -/
inductive RbacErr
  /-- `BadRequest(detail)`, HTTP 400. -/
  | badRequest (detail : String)
  /-- `sa.text` read a bind parameter in the text, and `execute` raises for want of its value. -/
  | unboundParam
  /-- A format with the wrong number of values, or a text the model does not read. -/
  | unread
  deriving DecidableEq, Repr

/-- `db_conn.update(text)`, through `sa.text` (`word` the class `\w`). -/
def runUpdate (word : Char → Bool) (text : Option (List Char)) (t : List UserRole) :
    Except RbacErr (List UserRole) :=
  if text.any (bindParam word none) then .error .unboundParam else
  match text.bind readStmt with
  | some st => .ok (st.run t)
  | none => .error .unread

/-- `db_conn.query` of the select of `init_userrole`, through `sa.text`: the active records of the
project. -/
def runProjectQuery (word : Char → Bool) (text : Option (List Char)) (t : List UserRole) :
    Except RbacErr (List UserRole) :=
  if text.any (bindParam word none) then .error .unboundParam else
  match (text.bind (lex .outside)).bind (matchTemplate (template initUserroleQuery)) with
  | some [p] => .ok ((getUserroles t).filter (·.project_name == p))
  | _ => .error .unread

/-! ## Texts of quote-free arguments -/

theorem toNat_ofNat_lt {n : Nat} (h : n < 0xd800) : (Char.ofNat n).toNat = n := by
  have hv : n.isValidChar := Or.inl h
  simp [Char.ofNat, hv, Char.ofNatAux, Char.toNat, UInt32.toNat]

theorem toLower_eq_quote {c : Char} (h : c.toLower = '\'') : c = '\'' := by
  simp only [Char.toLower] at h
  split at h
  · have := congrArg Char.toNat h
    rw [toNat_ofNat_lt (by omega)] at this
    simp at this; omega
  · exact h

theorem toLower_toLower (c : Char) : c.toLower.toLower = c.toLower := by
  by_cases h : c.toNat ≥ 65 ∧ c.toNat ≤ 90
  · have hn : ¬ ((Char.ofNat (c.toNat + 32)).toNat ≥ 65 ∧ (Char.ofNat (c.toNat + 32)).toNat ≤ 90) := by
      rw [toNat_ofNat_lt (by omega)]; omega
    simp only [Char.toLower, if_pos h, if_neg hn]
  · simp only [Char.toLower, if_neg h]

theorem asciiLower_asciiLower (s : String) : asciiLower (asciiLower s) = asciiLower s := by
  simp [asciiLower, Function.comp_def, toLower_toLower]

theorem quoteFree_asciiLower (s : String) : quoteFree (asciiLower s) = quoteFree s := by
  simp only [quoteFree, asciiLower, List.contains, List.elem_eq_mem, List.mem_map]
  congr 2
  exact propext ⟨fun ⟨c, hc, he⟩ => toLower_eq_quote he ▸ hc, fun h => ⟨_, h, rfl⟩⟩

/-- Python's text handling on ASCII text: ASCII lowering for `str.lower()` and `str.casefold()`,
and letters, digits and `_` for `\w`. Python's own agree with it on the ASCII strings of the
examples. -/
def asciiText : PyText where
  lower := asciiLower
  casefold := asciiLower
  word c := c.isAlphanum || c == '_'
  lower_lower := asciiLower_asciiLower
  quoteFree_lower := quoteFree_asciiLower
  lower_ascii _ _ := rfl
  word_quote := rfl

theorem escapeStr_of_quoteFree {s : String} (h : quoteFree s = true) : escapeStr s = s := by
  simp only [quoteFree, List.contains, List.elem_eq_mem, Bool.not_eq_true',
    decide_eq_false_iff_not] at h
  rw [escapeStr, sqlEscape_of_not_mem h]

set_option maxRecDepth 20000 in
/-- The format strings of `DbRBAC` are well formed, with the numbers of holes the calls fill. -/
theorem queries_wellFormed :
    wellFormedQuery addUserroleQuery = true ∧ wellFormedQuery initProjectAdminQuery = true ∧
    wellFormedQuery deleteUserroleQuery = true ∧ wellFormedQuery initUserroleQuery = true ∧
    wellFormedQuery getUserrolesByUserQuery = true ∧
    wellFormedQuery getUserrolesByProjectQuery = true ∧
    wellFormedQuery (getUserrolesByUserQuery ++ roleClause) = true ∧
    wellFormedQuery (getUserrolesByProjectQuery ++ roleClause) = true ∧
    holes (template addUserroleQuery) = 6 ∧ holes (template initProjectAdminQuery) = 6 ∧
    holes (template deleteUserroleQuery) = 6 ∧ holes (template initUserroleQuery) = 1 ∧
    holes (template getUserrolesByUserQuery) = 1 ∧ holes (template getUserrolesByProjectQuery) = 1 ∧
    holes (template (getUserrolesByUserQuery ++ roleClause)) = 2 ∧
    holes (template (getUserrolesByProjectQuery ++ roleClause)) = 2 := by
  decide

set_option maxRecDepth 20000 in
/-- No two of the write templates match each other's skeleton. -/
theorem templates_distinct :
    matchTemplate (template addUserroleQuery) (template initProjectAdminQuery) = none ∧
    matchTemplate (template addUserroleQuery) (template deleteUserroleQuery) = none ∧
    matchTemplate (template initProjectAdminQuery) (template deleteUserroleQuery) = none := by
  decide

/-- A format string filled by `%` with values, of which those written as they are hold no quote,
reads back as its template with the values in its holes. -/
theorem lex_pyFormat_of {fmt : String} (hf : wellFormedQuery fmt = true) {args vals : List String}
    (hargs : args = vals.map escapeStr) (hl : vals.length = holes (template fmt)) :
    (pyFormat fmt.data args).bind (lex .outside) = some (fill (template fmt) vals) :=
  hargs ▸ lex_pyFormat hf hl

/-- The format strings of `DbRBAC` hold no `:` outside their holes. -/
theorem queries_colonFree :
    ((template addUserroleQuery).all (· != .chr ':')) = true ∧
    ((template initProjectAdminQuery).all (· != .chr ':')) = true ∧
    ((template deleteUserroleQuery).all (· != .chr ':')) = true ∧
    ((template initUserroleQuery).all (· != .chr ':')) = true ∧
    ((template getUserrolesByUserQuery).all (· != .chr ':')) = true ∧
    ((template getUserrolesByProjectQuery).all (· != .chr ':')) = true ∧
    ((template (getUserrolesByUserQuery ++ roleClause)).all (· != .chr ':')) = true ∧
    ((template (getUserrolesByProjectQuery ++ roleClause)).all (· != .chr ':')) = true := by
  obtain ⟨h1, h2, h3, h4, h5, h6, h7, h8, -⟩ := queries_wellFormed
  exact ⟨template_all_ne h1 (by decide), template_all_ne h2 (by decide),
    template_all_ne h3 (by decide), template_all_ne h4 (by decide),
    template_all_ne h5 (by decide), template_all_ne h6 (by decide),
    template_all_ne h7 (by decide), template_all_ne h8 (by decide)⟩

/-- A format string of `DbRBAC` filled by `%`: `sa.text` reads a bind parameter in it exactly when
it reads one in a value. -/
theorem bindParam_query (T : PyText) {fmt : String} (hf : wellFormedQuery fmt = true)
    (hc : ((template fmt).all (· != .chr ':')) = true) {args : List String}
    (hl : args.length = holes (template fmt)) :
    (pyFormat fmt.data args).any (bindParam T.word none) = !(args.all T.bindFree) := by
  rw [bindParam_pyFormat T.word_quote hf hc hl]
  simp [PyText.bindFree, List.all_eq_not_any_not]

theorem ok_of_guard {α : Type} {g : Bool} {r : Except RbacErr α} {y : α} {e : RbacErr}
    (h : (if g then r else .error e) = .ok y) : g = true ∧ r = .ok y := by
  cases g
  · cases h
  · exact ⟨rfl, h⟩

/-! ## The calls -/

section Calls

variable (base : Base) (utc : String)

/-- `_init_admin`, through the ORM, with `RBAC_DEFAULT_ADMIN` as configured. -/
def initAdmin (default_admin : String) (t : List UserRole) : List UserRole :=
  if default_admin ∈ (getUserroles t).map (·.user_name) then t
  else t ++ [⟨"global", default_admin, base.admin, some "system",
    some "Initialize First Global Admin", some utc, none, none, none⟩]

/-- The text `add_userrole` sends. -/
def addUserroleText (project_name user_name role_name create_reason by_user : String) :
    Option (List Char) :=
  pyFormat addUserroleQuery.data [base.lower project_name, base.lower user_name,
    base.lower role_name, by_user, escapeStr create_reason, utc]

/-- `add_userrole`. The check compares the role as given; the insert stores it lowered. -/
def addUserrole (project_name user_name role_name create_reason by_user : String)
    (t : List UserRole) : Except RbacErr (List UserRole) :=
  if (getUserroles t).any fun u => u.project_name == base.lower project_name &&
      u.user_name == base.lower user_name && u.role_name == role_name then .ok t
  else runUpdate base.word
    (addUserroleText base utc project_name user_name role_name create_reason by_user) t

/-- The text `delete_userrole` sends. -/
def deleteUserroleText (project_name user_name role_name delete_reason by_user : String) :
    Option (List Char) :=
  pyFormat deleteUserroleQuery.data [by_user, escapeStr delete_reason, utc, base.lower user_name,
    base.lower project_name, base.lower role_name]

/-- `delete_userrole`. -/
def deleteUserrole (project_name user_name role_name delete_reason by_user : String)
    (t : List UserRole) : Except RbacErr (List UserRole) :=
  runUpdate base.word
    (deleteUserroleText base utc project_name user_name role_name delete_reason by_user) t

/-- The text `init_project_admin` sends. -/
def initProjectAdminText (creator_name project_name : String) : Option (List Char) :=
  pyFormat initProjectAdminQuery.data [base.lower project_name, base.lower creator_name,
    base.admin, "system", "creator of project, get admin by default.", utc]

/-- `init_project_admin`. -/
def initProjectAdmin (creator_name project_name : String) (t : List UserRole) :
    Except RbacErr (List UserRole) :=
  runUpdate base.word (initProjectAdminText base utc creator_name project_name) t

/-- The text of the select `init_userrole` sends. -/
def initUserroleText (project_name : String) : Option (List Char) :=
  pyFormat initUserroleQuery.data [base.lower project_name]

/-- `init_userrole`: refuses the super-admin scope's name, and makes the creator the admin of a
project no active record names. -/
def initUserrole (creator_name project_name : String) (t : List UserRole) :
    Except RbacErr (List UserRole) :=
  if base.casefold project_name = base.casefold base.superAdminScope then
    .error (.badRequest (base.superAdminScope ++
      " is keyword for Global Admin (admin of all projects), please try other project name."))
  else do
    let rows ← runProjectQuery base.word (initUserroleText base project_name) t
    if rows.length > 0 then pure t else initProjectAdmin base utc creator_name project_name t

/-- `validate_project_access_users`. -/
def validateProjectAccessUsers (t : List UserRole) (project user access : String) : Bool :=
  (getUserroles t).any fun u => u.user_name == base.lower user &&
    [base.lower project, base.superAdminScope].contains u.project_name &&
      (base.access u.role_name).contains access

/-- The text `get_userroles_by_user` sends; `if role_name:` appends the role clause. -/
def getUserrolesByUserText (user_name : String) (role_name : Option String) :
    Option (List Char) :=
  match role_name.filter (· != "") with
  | some r =>
    pyFormat (getUserrolesByUserQuery ++ roleClause).data [base.lower user_name, base.lower r]
  | none => pyFormat getUserrolesByUserQuery.data [base.lower user_name]

/-- The text `get_userroles_by_project` sends. -/
def getUserrolesByProjectText (project_name : String) (role_name : Option String) :
    Option (List Char) :=
  match role_name.filter (· != "") with
  | some r =>
    pyFormat (getUserrolesByProjectQuery ++ roleClause).data [base.lower project_name, base.lower r]
  | none => pyFormat getUserrolesByProjectQuery.data [base.lower project_name]

end Calls

/-! ## What the calls run, for quote-free arguments -/

theorem readStmt_of_lex {text : Option (List Char)} {toks : List Tok}
    (h : text.bind (lex .outside) = some toks) : text.bind readStmt = readToks toks := by
  cases text <;> simp_all [readStmt]

theorem runUpdate_read {word : Char → Bool} {text : Option (List Char)} {st : Stmt}
    (h : text.bind readStmt = some st) (t : List UserRole) :
    runUpdate word text t =
      if !text.any (bindParam word none) then .ok (st.run t) else .error .unboundParam := by
  unfold runUpdate
  rw [h]
  cases text.any (bindParam word none) <;> rfl

theorem readToks_add (p u r b c t : String) :
    readToks (fill (template addUserroleQuery) [p, u, r, b, c, t]) = some (.insert p u r b c t) := by
  obtain ⟨ha, -, -, -, -, -, -, -, hl, -⟩ := queries_wellFormed
  unfold readToks
  rw [matchTemplate_fill (isTemplate_of_wellFormed ha)
    (show [p, u, r, b, c, t].length = _ by rw [hl]; rfl)]

theorem readToks_initProjectAdmin (p u r b c t : String) :
    readToks (fill (template initProjectAdminQuery) [p, u, r, b, c, t]) =
      some (.insert p u r b c t) := by
  obtain ⟨-, hi, -, -, -, -, -, -, -, hl, -⟩ := queries_wellFormed
  obtain ⟨hd, -, -⟩ := templates_distinct
  unfold readToks
  rw [matchTemplate_fill_eq_none hd, matchTemplate_fill (isTemplate_of_wellFormed hi)
    (show [p, u, r, b, c, t].length = _ by rw [hl]; rfl)]

theorem readToks_delete (b c t u p r : String) :
    readToks (fill (template deleteUserroleQuery) [b, c, t, u, p, r]) =
      some (.revoke b c t u p r) := by
  obtain ⟨-, -, hd, -, -, -, -, -, -, -, hl, -⟩ := queries_wellFormed
  obtain ⟨-, h1, h2⟩ := templates_distinct
  unfold readToks
  rw [matchTemplate_fill_eq_none h1, matchTemplate_fill_eq_none h2,
    matchTemplate_fill (isTemplate_of_wellFormed hd)
      (show [b, c, t, u, p, r].length = _ by rw [hl]; rfl)]

section Quoteless

variable {base : Base} {utc : String} (hutc : quoteFree utc = true)

include hutc in
/-- With quote-free arguments, the text of `add_userrole` reads back as its template with the
lowered project, user and role, the requester, the reason and the time in its holes. -/
theorem addUserroleText_lex {p u r c b : String} (hp : quoteFree p = true)
    (hu : quoteFree u = true) (hr : quoteFree r = true) (hb : quoteFree b = true) :
    (addUserroleText base utc p u r c b).bind (lex .outside) = some (fill (template addUserroleQuery)
      [base.lower p, base.lower u, base.lower r, b, c, utc]) := by
  obtain ⟨ha, -, -, -, -, -, -, -, hl, -⟩ := queries_wellFormed
  exact lex_pyFormat_of ha (by simp [escapeStr_of_quoteFree, *]) (by rw [hl]; rfl)

include hutc in
theorem deleteUserroleText_lex {p u r c b : String} (hp : quoteFree p = true)
    (hu : quoteFree u = true) (hr : quoteFree r = true) (hb : quoteFree b = true) :
    (deleteUserroleText base utc p u r c b).bind (lex .outside) =
      some (fill (template deleteUserroleQuery)
        [b, c, utc, base.lower u, base.lower p, base.lower r]) := by
  obtain ⟨-, -, hd, -, -, -, -, -, -, -, hl, -⟩ := queries_wellFormed
  exact lex_pyFormat_of hd (by simp [escapeStr_of_quoteFree, *]) (by rw [hl]; rfl)

include hutc in
theorem initProjectAdminText_lex (hadmin : quoteFree base.admin = true) {cr p : String}
    (hcr : quoteFree cr = true) (hp : quoteFree p = true) :
    (initProjectAdminText base utc cr p).bind (lex .outside) =
      some (fill (template initProjectAdminQuery) [base.lower p, base.lower cr, base.admin,
        "system", "creator of project, get admin by default.", utc]) := by
  obtain ⟨-, hi, -, -, -, -, -, -, -, hl, -⟩ := queries_wellFormed
  exact lex_pyFormat_of hi (by simp [escapeStr_of_quoteFree, *]; decide) (by rw [hl]; rfl)

theorem initUserroleText_lex {p : String} (hp : quoteFree p = true) :
    (initUserroleText base p).bind (lex .outside) =
      some (fill (template initUserroleQuery) [base.lower p]) := by
  obtain ⟨-, -, -, hi, -, -, -, -, -, -, -, hl, -⟩ := queries_wellFormed
  exact lex_pyFormat_of hi (by simp [escapeStr_of_quoteFree, *]) (by rw [hl]; rfl)

/-! The calls, for quote-free arguments: one equation each, used in place of the definitions. -/

include hutc in
/-- `add_userrole`: nothing when an active record holds the lowered project and user with the
role as given; else the insert of the lowered key, unless `sa.text` reads a bind parameter in a
value the text holds. -/
theorem addUserrole_eq {p u r c b : String} (hp : quoteFree p = true) (hu : quoteFree u = true)
    (hr : quoteFree r = true) (hb : quoteFree b = true) (t : List UserRole) :
    addUserrole base utc p u r c b t =
      if (getUserroles t).any (fun x => x.project_name == base.lower p &&
        x.user_name == base.lower u && x.role_name == r) then .ok t
      else if [base.lower p, base.lower u, base.lower r, b, escapeStr c, utc].all base.bindFree then
        .ok ((Stmt.insert (base.lower p) (base.lower u) (base.lower r) b c utc).run t)
      else .error .unboundParam := by
  obtain ⟨ha, -, -, -, -, -, -, -, hl, -⟩ := queries_wellFormed
  rw [addUserrole, runUpdate_read ((readStmt_of_lex (addUserroleText_lex hutc hp hu hr hb)).trans
    (readToks_add ..)), addUserroleText, bindParam_query _ ha queries_colonFree.1 (by rw [hl]; rfl),
    Bool.not_not]

include hutc in
/-- `delete_userrole`: the update of the lowered key, unless `sa.text` reads a bind parameter in a
value the text holds. -/
theorem deleteUserrole_eq {p u r c b : String} (hp : quoteFree p = true)
    (hu : quoteFree u = true) (hr : quoteFree r = true) (hb : quoteFree b = true)
    (t : List UserRole) :
    deleteUserrole base utc p u r c b t =
      if [b, escapeStr c, utc, base.lower u, base.lower p, base.lower r].all base.bindFree then
        .ok ((Stmt.revoke b c utc (base.lower u) (base.lower p) (base.lower r)).run t)
      else .error .unboundParam := by
  obtain ⟨-, -, hd, -, -, -, -, -, -, -, hl, -⟩ := queries_wellFormed
  rw [deleteUserrole, runUpdate_read ((readStmt_of_lex (deleteUserroleText_lex hutc hp hu hr hb)).trans
    (readToks_delete ..)), deleteUserroleText,
    bindParam_query _ hd queries_colonFree.2.2.1 (by rw [hl]; rfl), Bool.not_not]

include hutc in
/-- `init_project_admin`: the insert of the creator as the project's admin, unless `sa.text` reads
a bind parameter in a value the text holds. -/
theorem initProjectAdmin_eq (hadmin : quoteFree base.admin = true) {cr p : String}
    (hcr : quoteFree cr = true) (hp : quoteFree p = true) (t : List UserRole) :
    initProjectAdmin base utc cr p t =
      if [base.lower p, base.lower cr, base.admin, utc].all base.bindFree then
        .ok ((Stmt.insert (base.lower p) (base.lower cr) base.admin "system"
          "creator of project, get admin by default." utc).run t)
      else .error .unboundParam := by
  obtain ⟨-, hi, -, -, -, -, -, -, -, hl, -⟩ := queries_wellFormed
  have hsys : base.bindFree "system" = true := base.bindFree_of_not_mem (by decide)
  have hmsg : base.bindFree "creator of project, get admin by default." = true :=
    base.bindFree_of_not_mem (by decide)
  rw [initProjectAdmin, runUpdate_read ((readStmt_of_lex
    (initProjectAdminText_lex hutc hadmin hcr hp)).trans (readToks_initProjectAdmin ..)),
    initProjectAdminText, bindParam_query _ hi queries_colonFree.2.1 (by rw [hl]; rfl),
    Bool.not_not]
  simp only [List.all_cons, List.all_nil, hsys, hmsg, Bool.true_and]

/-- The select of `init_userrole`: the active records of the lowered project, unless `sa.text`
reads a bind parameter in it. -/
theorem runProjectQuery_eq {p : String} (hp : quoteFree p = true) (t : List UserRole) :
    runProjectQuery base.word (initUserroleText base p) t =
      if base.bindFree (base.lower p) then
        .ok ((getUserroles t).filter (·.project_name == base.lower p))
      else .error .unboundParam := by
  obtain ⟨-, -, -, hi, -, -, -, -, -, -, -, hl, -⟩ := queries_wellFormed
  have hb : (initUserroleText base p).any (bindParam base.word none) =
      !([base.lower p].all base.bindFree) :=
    bindParam_query base.toPyText hi queries_colonFree.2.2.2.1 (by rw [hl]; rfl)
  simp only [List.all_cons, List.all_nil, Bool.and_true] at hb
  rw [runProjectQuery, hb, initUserroleText_lex hp, Option.some_bind,
    matchTemplate_fill (isTemplate_of_wellFormed hi) (by rw [hl]; rfl)]
  cases base.bindFree (base.lower p) <;> rfl

/-- `init_userrole` of a name other than the super-admin scope: nothing when an active record
names the lowered project, else `init_project_admin`, unless `sa.text` reads a bind parameter in
its select. -/
theorem initUserrole_eq {cr p : String} (hp : quoteFree p = true)
    (hs : base.casefold p ≠ base.casefold base.superAdminScope) (t : List UserRole) :
    initUserrole base utc cr p t =
      if base.bindFree (base.lower p) then
        if (getUserroles t).any (·.project_name == base.lower p) then .ok t
        else initProjectAdmin base utc cr p t
      else .error .unboundParam := by
  have hrows : ((getUserroles t).filter (·.project_name == base.lower p)).length > 0 ↔
      (getUserroles t).any (·.project_name == base.lower p) = true := by
    simp [List.length_pos_iff_exists_mem]
  rw [initUserrole, if_neg hs, runProjectQuery_eq hp]
  split <;> simp only [bind, Except.bind, pure, Except.pure, hrows]

include hutc in
/-- What an `init_userrole` that returns leaves: the table as it was when an active record names
the lowered project, else the table with the creator as the project's admin. -/
theorem initUserrole_ok (hadmin : quoteFree base.admin = true) {cr p : String}
    (hcr : quoteFree cr = true) (hp : quoteFree p = true) {t t' : List UserRole}
    (h : initUserrole base utc cr p t = .ok t') :
    t' = if (getUserroles t).any (·.project_name == base.lower p) then t
      else (Stmt.insert (base.lower p) (base.lower cr) base.admin "system"
        "creator of project, get admin by default." utc).run t := by
  by_cases hs : base.casefold p = base.casefold base.superAdminScope
  · simp [initUserrole, hs] at h
  rw [initUserrole_eq hp hs] at h
  have h := (ok_of_guard h).2
  split at h <;> rename_i hany
  · rw [if_pos hany]; exact (Except.ok.inj h).symm
  · rw [initProjectAdmin_eq hutc hadmin hcr hp] at h
    rw [if_neg hany]; exact (Except.ok.inj (ok_of_guard h).2).symm

end Quoteless

/-! ## Sequences of calls -/

/-- A call of `DbRBAC` that writes. -/
inductive RbacCall
  | initAdmin (default_admin : String)
  | addUserrole (project_name user_name role_name create_reason by_user : String)
  | deleteUserrole (project_name user_name role_name delete_reason by_user : String)
  | initUserrole (creator_name project_name : String)
  deriving DecidableEq, Repr

/-- A call run at the time `utc`. -/
def RbacCall.run (base : Base) (utc : String) : RbacCall → List UserRole →
    Except RbacErr (List UserRole)
  | .initAdmin a, t => .ok (FeathrRegistry.initAdmin base utc a t)
  | .addUserrole p u r c b, t => FeathrRegistry.addUserrole base utc p u r c b t
  | .deleteUserrole p u r c b, t => FeathrRegistry.deleteUserrole base utc p u r c b t
  | .initUserrole c p, t => FeathrRegistry.initUserrole base utc c p t

/-- Calls run one after another at the time `utc`; the first that raises ends the run. -/
def RbacCall.runAll (base : Base) (utc : String) : List RbacCall → List UserRole →
    Except RbacErr (List UserRole)
  | [], t => .ok t
  | c :: cs, t => c.run base utc t >>= RbacCall.runAll base utc cs

/-- The arguments a call writes into a statement text as they are, without doubling quotes. -/
def RbacCall.textArgs : RbacCall → List String
  | .initAdmin _ => []
  | .addUserrole p u r _ b => [p, u, r, b]
  | .deleteUserrole p u r _ b => [p, u, r, b]
  | .initUserrole c p => [c, p]

/-- The tables a sequence of calls leaves, from the empty table `_create_tables` makes. Each call
runs at a time `str(datetime.utcnow())` (which holds no quote) with quote-free text arguments; a
call that raises leaves the table as it was. -/
inductive RbacReachable (base : Base) : List UserRole → Prop
  | empty : RbacReachable base []
  | step {t t' : List UserRole} (c : RbacCall) (utc : String) :
      RbacReachable base t → quoteFree utc = true → (c.textArgs.all quoteFree) = true →
        c.run base utc t = .ok t' → RbacReachable base t'

end FeathrRegistry
