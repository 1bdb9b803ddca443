import Mathlib.Data.List.DropRight
import Mathlib.Data.List.Basic

/-!
# FeathrRegistry.Db.ConnStr

`MssqlConnection.parse_conn_str` of `feathr_handlers/db/databases.py`: the parser of the connection
strings both services pass to `pymssql.connect`.

```
parts = dict([p.strip().split("=", 1) for p in s.split(";") if len(p.strip()) > 0])
server = parts["Server"].split(":")[1].split(",")[0]
```

It splits on every `;`, strips each part, splits it at its first `=`, and looks up four keys; the
host is what stands between the first `:` of `Server` and the next `:` or `,`. So whatever string
it is given, it never returns a value with a `;` or with white space at its end, nor a host with a
`:` or a `,` (`parseConnStr_values`). For the strings of the form
`Server=tcp:<host>,1433;Initial Catalog=<database>;User ID=<user>;Password=<password>;` these are
the only values lost: the parser gives back the four values exactly when none of them is such a
value (`parseConnStr_connStr_iff`). A password with a `;`, which SQL Server accepts in braces, cannot
be passed.
-/

namespace FeathrRegistry

/-! ## Python's string operations -/

/-- Python's `str.isspace` on one character. -/
def pyIsSpace (c : Char) : Bool :=
  let n := c.toNat
  (9 ≤ n && n ≤ 13) || (28 ≤ n && n ≤ 32) || n == 0x85 || n == 0xa0 || n == 0x1680 ||
    (0x2000 ≤ n && n ≤ 0x200a) || n == 0x2028 || n == 0x2029 || n == 0x202f || n == 0x205f ||
    n == 0x3000

/-- Python's `str.strip()`. -/
def pyStrip (s : List Char) : List Char := (s.dropWhile pyIsSpace).rdropWhile pyIsSpace

/-- Python's `s.split(sep, 1)`: the text before the first `sep` and the text after it, or the text
when it has no `sep`. -/
def pySplitOnce (sep : Char) (s : List Char) : List (List Char) :=
  match s.span (· != sep) with
  | (a, []) => [a]
  | (a, _ :: b) => [a, b]

/-- The exceptions `parse_conn_str` raises, with Python's messages. -/
inductive PyError
  | valueError (msg : String)
  | keyError (key : String)
  | indexError (msg : String)
  deriving DecidableEq, Repr

/-- `dict(seq)` from element `i` of `seq` on: each element must have two items, a key and its
value. -/
def pyDict : Nat → List (List (List Char)) → Except PyError (List (List Char × List Char))
  | _, [] => .ok []
  | i, [k, v] :: ps => ((k, v) :: ·) <$> pyDict (i + 1) ps
  | i, p :: _ => .error (.valueError ("dictionary update sequence element #" ++ toString i ++
      " has length " ++ toString p.length ++ "; 2 is required"))

/-- `d[key]` of the dict built from `ps`: the value of the last pair with the key. -/
def dictGet (ps : List (List Char × List Char)) (key : String) : Except PyError (List Char) :=
  match ps.reverse.find? (·.1 == key.data) with
  | some (_, v) => .ok v
  | none => .error (.keyError key)

/-! ## The parser -/

/-- What `parse_conn_str` returns: the keyword arguments of `pymssql.connect`. -/
structure ConnParams where
  host : String
  database : String
  user : String
  password : String
  autocommit : Bool
  deriving DecidableEq, Repr

/-- The parts of `s` the parser keeps, each split at its first `=`. -/
def connParts (s : String) : List (List (List Char)) :=
  ((s.data.splitOn ';').filter fun p => (pyStrip p).length > 0).map
    fun p => pySplitOnce '=' (pyStrip p)

/-- `server.split(":")[1].split(",")[0]`. -/
def serverHost (server : List Char) : Except PyError (List Char) :=
  match server.splitOn ':' with
  | _ :: h :: _ => .ok ((h.splitOn ',').headD [])
  | _ => .error (.indexError "list index out of range")

/-- `MssqlConnection.parse_conn_str` of a connection made with `autocommit`. -/
def parseConnStr (autocommit : Bool) (s : String) : Except PyError ConnParams := do
  let parts ← pyDict 0 (connParts s)
  let server ← dictGet parts "Server"
  let host ← serverHost server
  let database ← dictGet parts "Initial Catalog"
  let user ← dictGet parts "User ID"
  let password ← dictGet parts "Password"
  pure ⟨⟨host⟩, ⟨database⟩, ⟨user⟩, ⟨password⟩, autocommit⟩

/-- A value the parser gives back as written: no `;`, and no white space at its end. -/
def connValue (v : String) : Bool := !v.data.contains ';' && !(v.data.getLast?.any pyIsSpace)

/-- A host the parser gives back as written: no `;`, `:` or `,`. -/
def connHost (h : String) : Bool := !h.data.any fun c => c == ';' || c == ':' || c == ','

/-- A connection string of the form SQL Server gives, with the four keys the parser reads. -/
def connStr (host database user password : String) : String :=
  "Server=tcp:" ++ host ++ ",1433;Initial Catalog=" ++ database ++ ";User ID=" ++ user ++
    ";Password=" ++ password ++ ";"

/-! ## What the parser can return -/

theorem mem_of_mem_splitOnP {α : Type} {p : α → Bool} {c : α} :
    ∀ {xs l : List α}, l ∈ xs.splitOnP p → c ∈ l → c ∈ xs ∧ p c = false
  | [], l, hl, hc => by simp_all
  | y :: ys, l, hl, hc => by
    rw [List.splitOnP_cons] at hl
    split at hl
    · rcases List.mem_cons.1 hl with rfl | hl
      · simp at hc
      · exact (mem_of_mem_splitOnP hl hc).imp (List.mem_cons_of_mem y) id
    · obtain ⟨h, t, ht⟩ := List.exists_cons_of_ne_nil (List.splitOnP_ne_nil p ys)
      rw [ht, List.modifyHead_cons] at hl
      have hmem : ∀ {l}, l ∈ h :: t → c ∈ l → c ∈ y :: ys ∧ p c = false := fun hl' hc' =>
        (mem_of_mem_splitOnP (ht ▸ hl') hc').imp (List.mem_cons_of_mem y) id
      rcases List.mem_cons.1 hl with rfl | hl
      · rcases List.mem_cons.1 hc with rfl | hc
        · exact ⟨List.mem_cons_self _ _, by simpa using ‹¬p c = true›⟩
        · exact hmem (List.mem_cons_self h t) hc
      · exact hmem (List.mem_cons_of_mem h hl) hc

theorem mem_of_mem_pyStrip {s : List Char} {c : Char} (h : c ∈ pyStrip s) : c ∈ s :=
  (List.dropWhile_suffix pyIsSpace).subset ((List.rdropWhile_prefix _ _).subset h)

theorem getLast_pyStrip {s : List Char} : ∀ c ∈ (pyStrip s).getLast?, pyIsSpace c = false := by
  intro c hc
  obtain ⟨hne, rfl⟩ := List.mem_getLast?_eq_getLast hc
  simpa using List.rdropWhile_last_not _ _ hne

theorem suffix_of_pySplitOnce {sep : Char} {s k v : List Char} (h : pySplitOnce sep s = [k, v]) :
    v <:+ s := by
  unfold pySplitOnce at h
  rw [List.span_eq_take_drop] at h
  split at h
  · simp at h
  · rename_i b hd
    simp only [List.cons.injEq, and_true] at h
    simp only [Prod.mk.injEq] at hd
    rw [← h.2]
    exact (List.suffix_cons _ b).trans (hd.2 ▸ List.dropWhile_suffix _)

theorem pyDict_mem : ∀ {i : Nat} {ps : List (List (List Char))} {d : List (List Char × List Char)},
    pyDict i ps = .ok d → ∀ kv ∈ d, [kv.1, kv.2] ∈ ps
  | _, [], _, h => by cases h; simp
  | i, [k, v] :: ps, d, h => by
    simp only [pyDict] at h
    cases hd : pyDict (i + 1) ps with
    | error e => simp [hd, Functor.map, Except.map] at h
    | ok d' =>
      simp only [hd, Functor.map, Except.map, Except.ok.injEq] at h
      subst h
      rintro kv (_ | ⟨_, hkv⟩)
      · exact List.mem_cons_self _ _
      · exact List.mem_cons_of_mem _ (pyDict_mem hd kv hkv)
  | _, [] :: _, _, h | _, [_] :: _, _, h | _, (_ :: _ :: _ :: _) :: _, _, h => by
    simp [pyDict] at h

theorem dictGet_mem {d : List (List Char × List Char)} {key : String} {v : List Char}
    (h : dictGet d key = .ok v) : ∃ k, (k, v) ∈ d := by
  unfold dictGet at h
  split at h
  · cases h
    exact ⟨_, List.mem_reverse.1 (List.mem_of_find?_eq_some ‹_›)⟩
  · cases h

theorem exceptBind_eq_ok {ε α β : Type} {x : Except ε α} {f : α → Except ε β} {r : β}
    (h : x >>= f = .ok r) : ∃ a, x = .ok a ∧ f a = .ok r := by
  cases x with
  | error e => cases h
  | ok a => exact ⟨a, rfl, h⟩

/-- Every value of the dict the parser builds has no `;` and no white space at its end. -/
theorem connParts_value {s : String} {d : List (List Char × List Char)}
    (hd : pyDict 0 (connParts s) = .ok d) {k v : List Char} (hkv : (k, v) ∈ d) :
    ';' ∉ v ∧ ∀ c ∈ v.getLast?, pyIsSpace c = false := by
  have hmem := pyDict_mem hd _ hkv
  simp only [connParts, List.mem_map, List.mem_filter] at hmem
  obtain ⟨p, ⟨hp, -⟩, hsplit⟩ := hmem
  have hsuf := suffix_of_pySplitOnce hsplit
  refine ⟨fun hc => ?_, fun c hc => ?_⟩
  · simpa using (mem_of_mem_splitOnP hp (mem_of_mem_pyStrip (hsuf.subset hc))).2
  · obtain ⟨w, hw⟩ := hsuf
    exact getLast_pyStrip c (hw ▸ List.mem_getLast?_append_of_mem_getLast? hc)

theorem connValue_iff {v : List Char} :
    connValue ⟨v⟩ = true ↔ ';' ∉ v ∧ ∀ c ∈ v.getLast?, pyIsSpace c = false := by
  cases hl : v.getLast? <;> simp [connValue, hl]

theorem connHost_of {h : List Char} (hc : ∀ c ∈ h, c ≠ ';' ∧ c ≠ ':' ∧ c ≠ ',') :
    connHost ⟨h⟩ = true := by
  simp only [connHost, Bool.not_eq_true', List.any_eq_false, Bool.or_eq_true, beq_iff_eq]
  intro c hm
  have := hc c hm
  tauto

/-- Whatever string it is given, the parser returns no value with a `;` or with white space at
its end, and no host with a `;`, `:` or `,`. -/
theorem parseConnStr_values {a : Bool} {s : String} {r : ConnParams}
    (h : parseConnStr a s = .ok r) :
    connHost r.host = true ∧ connValue r.database = true ∧ connValue r.user = true ∧
      connValue r.password = true ∧ r.autocommit = a := by
  obtain ⟨d, hd, h⟩ := exceptBind_eq_ok h
  obtain ⟨server, hs, h⟩ := exceptBind_eq_ok h
  obtain ⟨host, hh, h⟩ := exceptBind_eq_ok h
  obtain ⟨db, hdb, h⟩ := exceptBind_eq_ok h
  obtain ⟨u, hu, h⟩ := exceptBind_eq_ok h
  obtain ⟨pw, hpw, h⟩ := exceptBind_eq_ok h
  cases h
  have hval : ∀ {key v}, dictGet d key = .ok v → ';' ∉ v ∧ ∀ c ∈ v.getLast?, pyIsSpace c = false :=
    fun hv => let ⟨_, hkv⟩ := dictGet_mem hv; connParts_value hd hkv
  refine ⟨?_, connValue_iff.2 (hval hdb), connValue_iff.2 (hval hu), connValue_iff.2 (hval hpw),
    rfl⟩
  unfold serverHost at hh
  split at hh
  · rename_i hsplit
    cases hh
    obtain ⟨x, t, hx⟩ := List.exists_cons_of_ne_nil (List.splitOnP_ne_nil (· == ',') ‹List Char›)
    refine connHost_of fun c hc => ?_
    have hcx : c ∈ x := by simpa [List.splitOn, hx] using hc
    obtain ⟨hch, hcomma⟩ := mem_of_mem_splitOnP (hx ▸ List.mem_cons_self x t) hcx
    obtain ⟨hcs, hcolon⟩ :=
      mem_of_mem_splitOnP (hsplit ▸ List.mem_cons_of_mem _ (List.mem_cons_self _ _)) hch
    refine ⟨fun he => (hval hs).1 (he ▸ hcs), ?_, ?_⟩ <;> rintro rfl <;> simp_all
  · cases hh

/-! ## The strings the parser reads back -/

theorem pyStrip_eq_self {s : List Char} (h1 : ∀ c ∈ s.head?, pyIsSpace c = false)
    (h2 : ∀ c ∈ s.getLast?, pyIsSpace c = false) : pyStrip s = s := by
  have hd : s.dropWhile pyIsSpace = s := by
    cases s with
    | nil => rfl
    | cons x xs => simp [List.dropWhile_cons, h1 x rfl]
  rw [pyStrip, hd, List.rdropWhile_eq_self_iff]
  exact fun hne => by simp [h2 _ (List.getLast?_eq_getLast s hne)]

theorem pySplitOnce_append {sep : Char} {k : List Char} (hk : sep ∉ k) (v : List Char) :
    pySplitOnce sep (k ++ sep :: v) = [k, v] := by
  induction k with
  | nil => simp [pySplitOnce]
  | cons x k ih =>
    have hx : x ≠ sep := fun h => hk (h ▸ List.mem_cons_self x k)
    have ih := ih fun h => hk (List.mem_cons_of_mem x h)
    unfold pySplitOnce at ih ⊢
    rw [List.span_eq_take_drop] at ih ⊢
    simp only [List.cons_append, List.takeWhile_cons, List.dropWhile_cons, bne_iff_ne, ne_eq, hx,
      not_false_eq_true, decide_True, if_true] at ih ⊢
    split at ih <;> simp_all

/-- A key and its value as the string holds them: `key=value`. -/
def connPart (kv : List Char × List Char) : List Char := kv.1 ++ '=' :: kv.2

/-- A key the parser reads back: not empty, with no `;` or `=`, and no white space at its start. -/
def ConnKey (k : List Char) : Prop :=
  k ≠ [] ∧ (∀ c ∈ k, c ≠ ';' ∧ c ≠ '=') ∧ ∀ c ∈ k.head?, pyIsSpace c = false

theorem pyDict_pairs : ∀ (i : Nat) (kvs : List (List Char × List Char)),
    pyDict i (kvs.map fun kv => [kv.1, kv.2]) = .ok kvs
  | _, [] => rfl
  | i, (k, v) :: kvs => by
    simp only [List.map_cons, pyDict, pyDict_pairs (i + 1) kvs]
    rfl

/-- Key-value parts joined by `;`, with a `;` at the end, parse back as the same pairs. -/
theorem pyDict_connParts {kvs : List (List Char × List Char)} (hk : ∀ kv ∈ kvs, ConnKey kv.1)
    (hv : ∀ kv ∈ kvs, ';' ∉ kv.2 ∧ ∀ c ∈ kv.2.getLast?, pyIsSpace c = false) :
    pyDict 0 (connParts ⟨[';'].intercalate (kvs.map connPart ++ [[]])⟩) = .ok kvs := by
  have hsemi : ∀ kv ∈ kvs, ';' ∉ connPart kv := fun kv hkv hc => by
    simp only [connPart, List.mem_append, List.mem_cons] at hc
    rcases hc with hc | hc | hc
    · exact ((hk kv hkv).2.1 _ hc).1 rfl
    · exact absurd hc (by decide)
    · exact (hv kv hkv).1 hc
  have hstrip : ∀ kv ∈ kvs, pyStrip (connPart kv) = connPart kv := fun kv hkv => by
    obtain ⟨hne, -, hhead⟩ := hk kv hkv
    obtain ⟨x, k, hx⟩ := List.exists_cons_of_ne_nil hne
    refine pyStrip_eq_self (by simpa [connPart, hx] using hhead) fun c hc => ?_
    simp only [connPart, List.getLast?_append, List.getLast?_cons, Option.mem_def] at hc
    cases hl : kv.2.getLast? with
    | none =>
      rw [hl] at hc
      obtain rfl := Option.some_inj.1 hc
      rfl
    | some l => exact (hv kv hkv).2 c (by simp_all)
  rw [connParts, List.splitOn_intercalate]
  · rw [List.filter_append, List.filter_eq_self.2, List.map_append, List.map_map]
    · rw [List.map_congr_left fun kv hkv => by
        rw [Function.comp_apply, hstrip kv hkv, connPart,
          pySplitOnce_append fun h => ((hk kv hkv).2.1 _ h).2 rfl]]
      simpa [pyStrip] using pyDict_pairs 0 kvs
    · intro p hp
      obtain ⟨kv, hkv, rfl⟩ := List.mem_map.1 hp
      rw [hstrip kv hkv]
      simp only [connPart, List.length_append, List.length_cons, decide_eq_true_eq]
      omega
  · simp only [List.mem_append, List.mem_map, List.mem_singleton]
    rintro l (⟨kv, hkv, rfl⟩ | rfl)
    · exact hsemi kv hkv
    · simp
  · simp

/-- The pairs `connStr` writes. -/
def connPairs (host database user password : String) : List (List Char × List Char) :=
  [("Server".data, "tcp".data ++ ':' :: (host.data ++ ',' :: "1433".data)),
    ("Initial Catalog".data, database.data), ("User ID".data, user.data),
    ("Password".data, password.data)]

theorem connStr_eq (host database user password : String) :
    connStr host database user password =
      ⟨[';'].intercalate ((connPairs host database user password).map connPart ++ [[]])⟩ := by
  apply String.ext
  simp [connStr, connPairs, connPart, List.intercalate]

theorem serverHost_connPairs {host : String} (h : connHost host = true) :
    serverHost ("tcp".data ++ ':' :: (host.data ++ ',' :: "1433".data)) = .ok host.data := by
  have hh : ∀ c ∈ host.data, ¬(c == ':') = true ∧ ¬(c == ',') = true := fun c hc => by
    simp only [connHost, Bool.not_eq_true', List.any_eq_false, Bool.or_eq_true, beq_iff_eq] at h
    simp only [beq_iff_eq]
    exact ⟨fun he => h c hc (.inl (.inr he)), fun he => h c hc (.inr he)⟩
  have hrest : ∀ x ∈ host.data ++ ',' :: "1433".data, ¬(x == ':') = true := fun x hx => by
    rcases List.mem_append.1 hx with hx | hx
    · exact (hh x hx).1
    · exact (by decide : ∀ y ∈ ',' :: "1433".data, ¬(y == ':') = true) x hx
  have h1 : ("tcp".data ++ ':' :: (host.data ++ ',' :: "1433".data)).splitOn ':' =
      ["tcp".data, host.data ++ ',' :: "1433".data] := by
    rw [List.splitOn, List.splitOnP_first _ _ (by decide) _ (by decide),
      List.splitOnP_eq_single _ _ hrest]
  have h2 : (host.data ++ ',' :: "1433".data).splitOn ',' = host.data :: "1433".data.splitOn ',' :=
    List.splitOnP_first _ _ (fun x hx => (hh x hx).2) _ (by decide) _
  unfold serverHost
  rw [h1]
  dsimp only
  rw [h2]
  rfl

theorem connPairs_keys (host database user password : String) :
    ∀ kv ∈ connPairs host database user password, ConnKey kv.1 := by
  simp only [connPairs, List.mem_cons, List.mem_singleton, List.not_mem_nil, or_false]
  rintro kv (rfl | rfl | rfl | rfl) <;> dsimp only <;> exact ⟨by decide, by decide, by decide⟩

/-- The dict the parser builds from a connection string of SQL Server's form whose values it
gives back as written. -/
theorem pyDict_connStr {host database user password : String} (h1 : connHost host = true)
    (h2 : connValue database = true) (h3 : connValue user = true)
    (h4 : connValue password = true) :
    pyDict 0 (connParts (connStr host database user password)) =
      .ok (connPairs host database user password) := by
  rw [connStr_eq]
  refine pyDict_connParts (connPairs_keys _ _ _ _) ?_
  simp only [connPairs, List.mem_cons, List.mem_singleton, List.not_mem_nil, or_false]
  rintro kv (rfl | rfl | rfl | rfl)
  · have hh : ';' ∉ host.data := fun hc => by
      simp only [connHost, Bool.not_eq_true', List.any_eq_false, Bool.or_eq_true,
        beq_iff_eq] at h1
      exact h1 _ hc (.inl (.inl rfl))
    refine ⟨by simp [hh], fun c hc => ?_⟩
    simp [List.getLast?_cons] at hc
    subst hc
    rfl
  · exact connValue_iff.1 h2
  · exact connValue_iff.1 h3
  · exact connValue_iff.1 h4

/-- A connection string of SQL Server's form parses back to its host, database, user and
password exactly when none of them is a value the parser changes: a host with a `;`, `:` or `,`,
or another value with a `;` or with white space at its end. -/
theorem parseConnStr_connStr_iff (a : Bool) (host database user password : String) :
    parseConnStr a (connStr host database user password) =
        .ok ⟨host, database, user, password, a⟩ ↔
      connHost host = true ∧ connValue database = true ∧ connValue user = true ∧
        connValue password = true := by
  refine ⟨fun h => let ⟨h1, h2, h3, h4, _⟩ := parseConnStr_values h; ⟨h1, h2, h3, h4⟩, ?_⟩
  rintro ⟨h1, h2, h3, h4⟩
  have hS : dictGet (connPairs host database user password) "Server" =
      .ok ("tcp".data ++ ':' :: (host.data ++ ',' :: "1433".data)) := rfl
  have hI : dictGet (connPairs host database user password) "Initial Catalog" =
      .ok database.data := rfl
  have hU : dictGet (connPairs host database user password) "User ID" = .ok user.data := rfl
  have hP : dictGet (connPairs host database user password) "Password" = .ok password.data :=
    rfl
  simp only [parseConnStr, pyDict_connStr h1 h2 h3 h4, hS, hI, hU, hP, serverHost_connPairs h1,
    bind, Except.bind, pure, Except.pure]

end FeathrRegistry
