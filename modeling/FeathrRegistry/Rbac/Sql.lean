import Mathlib.Data.List.Basic
import Mathlib.Data.List.Forall2

/-!
# FeathrRegistry.Rbac.Sql

The SQL texts `DbRBAC` builds, and how the database reads them back.

`DbRBAC` writes each statement as a Python format string whose values stand in `'%s'` holes, and
fills it with `%`. It doubles the quotes of the reasons (`replace("'", "''")`) and of nothing
else. The database reads the text with SQL's string-literal rules: outside a literal each
character stands for itself; a quote opens a literal, in which two quotes stand for one and a
lone quote closes it.

A text is modelled by its tokens (`Tok`): characters of the statement, and literal values.
`render` writes tokens as text, doubling the quotes in literals, and `lex` reads text back
(`lex_render`). The template of a format string is how the database reads the format string
itself, its `'%s'` literals being the holes. Formatting a well-formed format string with values
whose quotes are doubled gives a text that reads back as the template with the values in its
holes (`lex_pyFormat`). A value with no quote is its own doubling. A value with a quote,
formatted as it is, closes its literal early, and the database reads what follows the quote as
statement.

On the SQLAlchemy path a text first goes through `sa.text`, which reads a `:name` as a bind
parameter (`bindParam`); executed with no values, such a text raises. The format strings hold no
`:`, so a filled one holds a bind parameter exactly when one of its values does, read between its
quotes (`bindParam_pyFormat`).
-/

namespace FeathrRegistry

/-- A token of SQL text: a character of the statement, or the value of a string literal. -/
inductive Tok
  | chr (c : Char)
  | lit (v : String)
  deriving DecidableEq, Repr

/-- `v.replace("'", "''")`. -/
def sqlEscape : List Char → List Char
  | [] => []
  | c :: cs => if c = '\'' then '\'' :: '\'' :: sqlEscape cs else c :: sqlEscape cs

/-- Tokens written as SQL text: a literal between quotes, with its quotes doubled. -/
def render : List Tok → List Char
  | [] => []
  | .chr c :: ts => c :: render ts
  | .lit v :: ts => '\'' :: (sqlEscape v.data ++ '\'' :: render ts)

/-- Where the database is in a text: outside a literal, inside one (its characters so far, last
first), or inside one just after a quote, which either doubles a quote or closes the literal. -/
inductive LexMode
  | outside
  | inside (acc : List Char)
  | quoted (acc : List Char)

/-- How the database reads SQL text. `none`: the text ends inside a literal. -/
def lex : LexMode → List Char → Option (List Tok)
  | .outside, [] => some []
  | .outside, c :: cs => if c = '\'' then lex (.inside []) cs else (lex .outside cs).map (.chr c :: ·)
  | .inside _, [] => none
  | .inside acc, c :: cs => if c = '\'' then lex (.quoted acc) cs else lex (.inside (c :: acc)) cs
  | .quoted acc, [] => some [.lit ⟨acc.reverse⟩]
  | .quoted acc, c :: cs =>
    if c = '\'' then lex (.inside ('\'' :: acc)) cs
    else (lex .outside cs).map (.lit ⟨acc.reverse⟩ :: .chr c :: ·)

/-- Python's `fmt % args` for a format string whose only conversion is `%s`. `none`: the
numbers of conversions and of arguments differ, for which Python raises `TypeError`. -/
def pyFormat : List Char → List String → Option (List Char)
  | [], [] => some []
  | [], _ :: _ => none
  | '%' :: 's' :: cs, a :: as => (pyFormat cs as).map (a.data ++ ·)
  | '%' :: 's' :: _, [] => none
  | c :: cs, as => (pyFormat cs as).map (c :: ·)

theorem pyFormat_cons {c : Char} (hc : c ≠ '%') (cs : List Char) (as : List String) :
    pyFormat (c :: cs) as = (pyFormat cs as).map (c :: ·) := by
  rw [pyFormat.eq_def]
  split <;> simp_all

/-! ## Reading a rendered text back -/

/-- A token list `render` writes so that `lex` reads it back: no statement character is a quote,
and no literal directly follows another (the two would read as one). -/
def lexable : List Tok → Bool
  | [] => true
  | .chr c :: ts => c != '\'' && lexable ts
  | .lit _ :: .lit _ :: _ => false
  | .lit _ :: ts => lexable ts

theorem sqlEscape_append (a b : List Char) : sqlEscape (a ++ b) = sqlEscape a ++ sqlEscape b := by
  induction a with
  | nil => rfl
  | cons c a ih =>
    rw [List.cons_append]
    by_cases hc : c = '\'' <;> simp [sqlEscape, hc, ih]

theorem sqlEscape_of_not_mem {v : List Char} (h : '\'' ∉ v) : sqlEscape v = v := by
  induction v with
  | nil => rfl
  | cons c v ih =>
    have hc : c ≠ '\'' := fun hc => h (hc ▸ List.mem_cons_self c v)
    rw [sqlEscape, if_neg hc, ih fun hv => h (List.mem_cons_of_mem c hv)]

theorem lex_escape (rest : List Char) (hr : rest.head? ≠ some '\'') :
    ∀ (v acc : List Char), lex (.inside acc) (sqlEscape v ++ '\'' :: rest) =
      (lex .outside rest).map (.lit ⟨acc.reverse ++ v⟩ :: ·)
  | [], acc => by
    cases rest with
    | nil => simp [sqlEscape, lex]
    | cons d rest =>
      have hd : d ≠ '\'' := fun h => hr (by rw [h]; rfl)
      simp [sqlEscape, lex, hd, Option.map_map, Function.comp_def]
  | c :: v, acc => by
    by_cases hc : c = '\''
    · subst hc
      simp [sqlEscape, lex, lex_escape rest hr v]
    · simp [sqlEscape, hc, lex, lex_escape rest hr v]

/-- `lex` reads back what `render` writes. -/
theorem lex_render : ∀ {ts : List Tok}, lexable ts = true → lex .outside (render ts) = some ts
  | [], _ => rfl
  | .chr c :: ts, h => by
    simp only [lexable, Bool.and_eq_true, bne_iff_ne] at h
    simp [render, lex, h.1, lex_render h.2]
  | .lit v :: ts, h => by
    have hts : lexable ts = true := by
      cases ts with
      | nil => rfl
      | cons t ts => cases t <;> simp_all [lexable]
    have hhead : (render ts).head? ≠ some '\'' := by
      cases ts with
      | nil => simp [render]
      | cons t ts =>
        cases t with
        | chr c => simp_all [lexable, render]
        | lit w => simp [lexable] at h
    simp [render, lex, lex_escape _ hhead, lex_render hts]

/-- What `lex` has read in a mode, written back: nothing outside a literal; the opening quote and
the characters so far inside one, and the quote just read in the quoted mode. -/
def LexMode.text : LexMode → List Char
  | .outside => []
  | .inside acc => '\'' :: sqlEscape acc.reverse
  | .quoted acc => '\'' :: (sqlEscape acc.reverse ++ ['\''])

/-- `render` writes back what `lex` reads: the reading of a text is the only one that writes it. -/
theorem render_lex : ∀ (m : LexMode) (x : List Char) {ts : List Tok}, lex m x = some ts →
    render ts = m.text ++ x
  | .outside, [], ts, h => by cases h; rfl
  | .outside, c :: cs, ts, h => by
    by_cases hc : c = '\''
    · rw [lex, if_pos hc] at h
      simpa [LexMode.text, sqlEscape, hc] using render_lex _ cs h
    · rw [lex, if_neg hc] at h
      obtain ⟨ts', h', rfl⟩ := Option.map_eq_some'.mp h
      simp [render, render_lex _ cs h', LexMode.text]
  | .inside _, [], _, h => by cases h
  | .inside acc, c :: cs, ts, h => by
    by_cases hc : c = '\''
    · rw [lex, if_pos hc] at h
      simpa [LexMode.text, hc] using render_lex _ cs h
    · rw [lex, if_neg hc] at h
      simpa [LexMode.text, sqlEscape_append, sqlEscape, hc] using render_lex _ cs h
  | .quoted acc, [], ts, h => by cases h; simp [render, LexMode.text]
  | .quoted acc, c :: cs, ts, h => by
    by_cases hc : c = '\''
    · rw [lex, if_pos hc] at h
      simpa [LexMode.text, sqlEscape_append, sqlEscape, hc] using render_lex _ cs h
    · rw [lex, if_neg hc] at h
      obtain ⟨ts', h', rfl⟩ := Option.map_eq_some'.mp h
      simp [render, render_lex _ cs h', LexMode.text]

/-! ## Filling a template -/

/-- A template's hole: a `'%s'` literal. -/
def hole : Tok := .lit "%s"

/-- A template: statement characters other than `%`, and holes. -/
def isTemplate : List Tok → Bool
  | [] => true
  | .chr c :: ts => c != '%' && isTemplate ts
  | .lit v :: ts => v == "%s" && isTemplate ts

/-- The number of holes of a template. -/
def holes (ts : List Tok) : Nat := ts.countP (· == hole)

/-- The template with `vals` in its holes, in order. -/
def fill : List Tok → List String → List Tok
  | [], _ => []
  | .chr c :: ts, vs => .chr c :: fill ts vs
  | .lit _ :: ts, v :: vs => .lit v :: fill ts vs
  | .lit l :: ts, [] => .lit l :: fill ts []

/-- The values in the holes, when `toks` is the template `ts` with values in its holes. -/
def matchTemplate : List Tok → List Tok → Option (List String)
  | [], [] => some []
  | .chr c :: ts, .chr d :: us => if c = d then matchTemplate ts us else none
  | .lit _ :: ts, .lit v :: us => (matchTemplate ts us).map (v :: ·)
  | _, _ => none

/-- A value written in a literal by `DbRBAC`: its quotes doubled when the code doubles them. -/
def escapeStr (v : String) : String := ⟨sqlEscape v.data⟩

/-- A template written as text with `args` in its holes as they are: what `%` writes when it
fills the rendered template. -/
def renderRaw : List Tok → List String → List Char
  | [], _ => []
  | .chr c :: ts, as => c :: renderRaw ts as
  | .lit _ :: ts, a :: as => '\'' :: (a.data ++ '\'' :: renderRaw ts as)
  | .lit v :: ts, [] => '\'' :: (sqlEscape v.data ++ '\'' :: renderRaw ts [])

/-- `%` writes the values of a rendered template as they are. -/
theorem pyFormat_renderRaw : ∀ {ts : List Tok}, isTemplate ts = true → ∀ {args : List String},
    args.length = holes ts → pyFormat (render ts) args = some (renderRaw ts args)
  | [], _, args, hl => by
    cases args with
    | nil => rfl
    | cons => simp [holes] at hl
  | .chr c :: ts, ht, args, hl => by
    simp only [isTemplate, Bool.and_eq_true, bne_iff_ne] at ht
    have hl' : args.length = holes ts := by simpa [holes, hole] using hl
    simp [render, renderRaw, pyFormat_cons ht.1, pyFormat_renderRaw ht.2 hl']
  | .lit v :: ts, ht, args, hl => by
    simp only [isTemplate, Bool.and_eq_true, beq_iff_eq] at ht
    obtain ⟨rfl, ht⟩ := ht
    cases args with
    | nil => simp [holes, hole] at hl
    | cons a args =>
      have hl' : args.length = holes ts := by simpa [holes, hole] using hl
      simp [render, sqlEscape, pyFormat, renderRaw, pyFormat_renderRaw ht hl']

/-- Values with their quotes doubled, written as they are, render the filled template. -/
theorem renderRaw_escape : ∀ (ts : List Tok) (vals : List String),
    renderRaw ts (vals.map escapeStr) = render (fill ts vals)
  | [], _ => rfl
  | .chr c :: ts, vals => by simp [renderRaw, fill, render, renderRaw_escape ts vals]
  | .lit _ :: ts, [] => by simpa [renderRaw, fill, render] using renderRaw_escape ts []
  | .lit _ :: ts, v :: vals => by
    simp [renderRaw, fill, render, escapeStr, renderRaw_escape ts vals]

/-- Formatting a rendered template with values whose quotes are doubled renders the template with
the values in its holes. -/
theorem pyFormat_render {ts : List Tok} (ht : isTemplate ts = true) {vals : List String}
    (hl : vals.length = holes ts) :
    pyFormat (render ts) (vals.map escapeStr) = some (render (fill ts vals)) := by
  rw [pyFormat_renderRaw ht (by rw [List.length_map, hl]), renderRaw_escape]

theorem lexable_fill : ∀ {ts : List Tok}, lexable ts = true → ∀ vals, lexable (fill ts vals) = true
  | [], _, _ => rfl
  | .chr c :: ts, h, vals => by
    simp only [lexable, Bool.and_eq_true] at h
    simp [fill, lexable, h.1, lexable_fill h.2]
  | .lit _ :: [], _, vals => by cases vals <;> rfl
  | .lit _ :: .chr c :: ts, h, vals => by
    have h' : lexable (.chr c :: ts) = true := h
    cases vals <;> exact lexable_fill h' _
  | .lit _ :: .lit _ :: _, h, _ => by simp [lexable] at h

theorem matchTemplate_fill : ∀ {ts : List Tok}, isTemplate ts = true → ∀ {vals : List String},
    vals.length = holes ts → matchTemplate ts (fill ts vals) = some vals
  | [], _, vals, hl => by
    cases vals with
    | nil => rfl
    | cons => simp [holes] at hl
  | .chr c :: ts, ht, vals, hl => by
    simp only [isTemplate, Bool.and_eq_true] at ht
    have hl' : vals.length = holes ts := by simpa [holes, hole] using hl
    simp [fill, matchTemplate, matchTemplate_fill ht.2 hl']
  | .lit v :: ts, ht, vals, hl => by
    simp only [isTemplate, Bool.and_eq_true, beq_iff_eq] at ht
    obtain ⟨rfl, ht⟩ := ht
    cases vals with
    | nil => simp [holes, hole] at hl
    | cons w vals =>
      have hl' : vals.length = holes ts := by simpa [holes, hole] using hl
      simp [fill, matchTemplate, matchTemplate_fill ht hl']

/-- A text whose skeleton a template does not match is not matched once values fill it. -/
theorem matchTemplate_fill_eq_none : ∀ {ts us : List Tok}, matchTemplate ts us = none →
    ∀ vals, matchTemplate ts (fill us vals) = none
  | [], [], h, _ => by simp [matchTemplate] at h
  | [], u :: _, _, vals => by cases u <;> cases vals <;> simp [fill, matchTemplate]
  | _ :: _, [], _, _ => by simp [fill, matchTemplate]
  | .chr c :: ts, .chr d :: us, h, vals => by
    simp only [matchTemplate] at h
    split at h
    · simp [fill, matchTemplate, *, matchTemplate_fill_eq_none h vals]
    · simp [fill, matchTemplate, *]
  | .chr _ :: _, .lit _ :: _, _, vals => by cases vals <;> simp [fill, matchTemplate]
  | .lit _ :: _, .chr _ :: _, _, _ => by simp [fill, matchTemplate]
  | .lit _ :: ts, .lit _ :: us, h, vals => by
    simp only [matchTemplate, Option.map_eq_none'] at h
    cases vals <;> simp [fill, matchTemplate, matchTemplate_fill_eq_none h]

/-! ## Format strings -/

/-- The template of a format string: how the database reads the format string itself. -/
def template (fmt : String) : List Tok := (lex .outside fmt.data).getD []

/-- A format string whose reading is a template that `render` writes back as the format
string, and `lex` reads back. -/
def wellFormedQuery (fmt : String) : Bool :=
  render (template fmt) == fmt.data && isTemplate (template fmt) && lexable (template fmt)

theorem isTemplate_of_wellFormed {fmt : String} (hf : wellFormedQuery fmt = true) :
    isTemplate (template fmt) = true := by
  simp only [wellFormedQuery, Bool.and_eq_true] at hf
  exact hf.1.2

/-- A well-formed format string, filled by `%` with values whose quotes are doubled, reads back
as its template with the values in its holes. -/
theorem lex_pyFormat {fmt : String} (hf : wellFormedQuery fmt = true) {vals : List String}
    (hl : vals.length = holes (template fmt)) :
    (pyFormat fmt.data (vals.map escapeStr)).bind (lex .outside) = some (fill (template fmt) vals) := by
  simp only [wellFormedQuery, Bool.and_eq_true, beq_iff_eq] at hf
  obtain ⟨⟨hr, ht⟩, hx⟩ := hf
  rw [← hr, pyFormat_render ht hl, Option.some_bind, lex_render (lexable_fill hx vals)]

/-! ## Values written as they are -/

theorem length_sqlEscape (v : List Char) : (sqlEscape v).length = v.length + v.count '\'' := by
  induction v with
  | nil => rfl
  | cons c v ih => by_cases hc : c = '\'' <;> simp [sqlEscape, hc, ih, List.count_cons] <;> omega

/-- A value is its own doubling exactly when it holds no quote. -/
theorem sqlEscape_eq_self {v : List Char} : sqlEscape v = v ↔ '\'' ∉ v := by
  refine ⟨fun h => List.count_eq_zero.mp ?_, sqlEscape_of_not_mem⟩
  have := congrArg List.length h
  rw [length_sqlEscape] at this
  omega

/-- The characters a list of values takes. -/
def valuesLength : List String → Nat
  | [] => 0
  | a :: as => a.data.length + valuesLength as

/-- Two ways of filling the same holes differ in length by what the values do. -/
theorem length_renderRaw : ∀ {ts : List Tok}, isTemplate ts = true → ∀ {as bs : List String},
    as.length = holes ts → bs.length = holes ts →
    (renderRaw ts as).length + valuesLength bs = (renderRaw ts bs).length + valuesLength as
  | [], _, as, bs, ha, hb => by
    rw [List.length_eq_zero.mp (ha.trans rfl), List.length_eq_zero.mp (hb.trans rfl)]
  | .chr c :: ts, ht, as, bs, ha, hb => by
    simp only [isTemplate, Bool.and_eq_true] at ht
    have ha' : as.length = holes ts := by simpa [holes, hole] using ha
    have hb' : bs.length = holes ts := by simpa [holes, hole] using hb
    have := length_renderRaw ht.2 ha' hb'
    simp only [renderRaw, List.length_cons]
    omega
  | .lit v :: ts, ht, as, bs, ha, hb => by
    simp only [isTemplate, Bool.and_eq_true, beq_iff_eq] at ht
    obtain ⟨rfl, ht⟩ := ht
    match as, bs, ha, hb with
    | [], _, ha, _ | _, [], _, hb => simp [holes, hole] at ha hb
    | a :: as, b :: bs, ha, hb =>
      have ha' : as.length = holes ts := by simpa [holes, hole] using ha
      have hb' : bs.length = holes ts := by simpa [holes, hole] using hb
      have := length_renderRaw ht ha' hb'
      simp only [renderRaw, List.length_cons, List.length_append, valuesLength]
      omega

section Raw

variable {args vals : List String}

theorem length_le_escape {a v : String} (h : a = v ∨ a = escapeStr v) :
    a.data.length ≤ (escapeStr v).data.length := by
  rcases h with rfl | rfl
  · simp [escapeStr, length_sqlEscape]
  · exact le_rfl

theorem valuesLength_le_escape
    (h : List.Forall₂ (fun a v => a = v ∨ a = escapeStr v) args vals) :
    valuesLength args ≤ valuesLength (vals.map escapeStr) := by
  induction h with
  | nil => exact le_rfl
  | cons hav _ ih => simp only [List.map_cons, valuesLength]; have := length_le_escape hav; omega

/-- Values each written as it is or doubled are all doubled when they take as many characters as
their doublings. -/
theorem escape_of_length (h : List.Forall₂ (fun a v => a = v ∨ a = escapeStr v) args vals)
    (hle : valuesLength (vals.map escapeStr) ≤ valuesLength args) :
    args = vals.map escapeStr := by
  induction h with
  | nil => rfl
  | @cons a v args vals hav hrest ih =>
    simp only [List.map_cons, valuesLength] at hle
    have h1 := length_le_escape hav
    have h2 := valuesLength_le_escape hrest
    rw [List.map_cons, ih (by omega)]
    congr 1
    rcases hav with hav | hav
    · rw [hav] at h1 hle ⊢
      have hcount : v.data.count '\'' = 0 := by
        simp only [escapeStr, length_sqlEscape] at h1 hle; omega
      rw [escapeStr, sqlEscape_of_not_mem (List.count_eq_zero.mp hcount)]
    · exact hav

end Raw

/-- A well-formed format string, filled by `%` with values each written as it is or with its
quotes doubled, reads back as its template with the values in its holes exactly when the values
written as they are hold no quote. -/
theorem lex_pyFormat_iff {fmt : String} (hf : wellFormedQuery fmt = true) {args vals : List String}
    (hrel : List.Forall₂ (fun a v => a = v ∨ a = escapeStr v) args vals)
    (hl : vals.length = holes (template fmt)) :
    (pyFormat fmt.data args).bind (lex .outside) = some (fill (template fmt) vals) ↔
      args = vals.map escapeStr := by
  refine ⟨fun h => ?_, fun h => h ▸ lex_pyFormat hf hl⟩
  simp only [wellFormedQuery, Bool.and_eq_true, beq_iff_eq] at hf
  obtain ⟨⟨hr, ht⟩, -⟩ := hf
  have hal : args.length = holes (template fmt) := hrel.length_eq.trans hl
  rw [← hr, pyFormat_renderRaw ht hal, Option.some_bind] at h
  have htext := render_lex .outside _ h
  have hlen := length_renderRaw ht hal
    (by rw [List.length_map, hl] : (vals.map escapeStr).length = holes (template fmt))
  rw [renderRaw_escape, htext] at hlen
  exact escape_of_length hrel (by simp only [LexMode.text, List.nil_append] at hlen; omega)

/-! ## Bind parameters of `sa.text` -/

theorem chr_mem_render {c : Char} : ∀ {ts : List Tok}, .chr c ∈ ts → c ∈ render ts
  | .chr _ :: _, .head _ => .head _
  | .chr _ :: _, .tail _ h => .tail _ (chr_mem_render h)
  | .lit _ :: _, .tail _ h => by simp [render, chr_mem_render h]

/-- A character a well-formed format string lacks is no character of its template. -/
theorem template_all_ne {fmt : String} (hf : wellFormedQuery fmt = true) {c : Char}
    (h : c ∉ fmt.data) : (template fmt).all (· != .chr c) = true := by
  simp only [wellFormedQuery, Bool.and_eq_true, beq_iff_eq] at hf
  simp only [List.all_eq_true, bne_iff_ne, ne_eq]
  rintro _ ht rfl
  exact h (hf.1.1 ▸ chr_mem_render ht)

section Bind

variable (word : Char → Bool)

/-- `(\w+)(?!:)` at the start of `cs`, `word` the class `\w`: a run of word characters that a
backtracking match can end before something other than `:`. -/
def nameAhead : List Char → Bool
  | [] => false
  | c :: cs => word c && (cs.head? != some ':' || nameAhead cs)

theorem nameAhead_cons (c : Char) (cs : List Char) :
    nameAhead word (c :: cs) = (word c && (cs.head? != some ':' || nameAhead word cs)) := rfl

/-- Whether `sa.text` reads a bind parameter in `cs` by its pattern `(?<![:\w\x5c]):(\w+)(?!:)`,
`prev` the character before `cs`: a `:` after no word character, `:` or backslash, then a name. -/
def bindParam : Option Char → List Char → Bool
  | _, [] => false
  | prev, c :: cs =>
    (c == ':' && !(prev.any fun p => p == ':' || p == '\\' || word p) && nameAhead word cs) ||
      bindParam (some c) cs

theorem bindParam_cons (prev : Option Char) (c : Char) (cs : List Char) :
    bindParam word prev (c :: cs) =
      ((c == ':' && !(prev.any fun p => p == ':' || p == '\\' || word p) && nameAhead word cs) ||
        bindParam word (some c) cs) := rfl

theorem bindParam_of_not_mem : ∀ {cs : List Char}, ':' ∉ cs → ∀ prev, bindParam word prev cs = false
  | [], _, _ => rfl
  | c :: cs, h, prev => by
    rw [List.mem_cons, not_or] at h
    rw [bindParam_cons, bindParam_of_not_mem h.2, beq_false_of_ne (Ne.symm h.1)]
    rfl

variable {word} (hq : word '\'' = false)

include hq in
theorem nameAhead_append : ∀ {zs : List Char}, zs.getLast? = some '\'' → ∀ ys,
    nameAhead word (zs ++ ys) = nameAhead word zs
  | [], h, _ => by simp at h
  | [_], h, _ => by
    obtain rfl : _ = '\'' := Option.some.inj h
    simp [nameAhead, hq]
  | c :: c' :: zs, h, ys => by
    rw [List.getLast?_cons_cons] at h
    rw [List.cons_append, nameAhead_cons, nameAhead_cons, nameAhead_append h, List.cons_append,
      List.head?_cons, List.head?_cons]

include hq in
theorem bindParam_append : ∀ {xs : List Char}, xs.getLast? = some '\'' → ∀ prev ys,
    bindParam word prev (xs ++ ys) = (bindParam word prev xs || bindParam word (some '\'') ys)
  | [], h, _, _ => by simp at h
  | [_], h, _, _ => by
    obtain rfl : _ = '\'' := Option.some.inj h
    rfl
  | c :: c' :: xs, h, prev, ys => by
    rw [List.getLast?_cons_cons] at h
    rw [List.cons_append, bindParam_cons, bindParam_cons, nameAhead_append hq h,
      bindParam_append h, Bool.or_assoc]

include hq in
theorem bindParam_renderRaw : ∀ {ts : List Tok}, isTemplate ts = true →
    (ts.all (· != .chr ':')) = true → ∀ {args : List String}, args.length = holes ts → ∀ prev,
      bindParam word prev (renderRaw ts args) =
        args.any fun a => bindParam word (some '\'') (a.data ++ ['\''])
  | [], _, _, args, hl, _ => by
    cases args with
    | nil => rfl
    | cons => simp [holes] at hl
  | .chr c :: ts, ht, hc, args, hl, prev => by
    simp only [isTemplate, List.all_cons, Bool.and_eq_true] at ht hc
    have hl' : args.length = holes ts := by simpa [holes, hole] using hl
    have hc' : c ≠ ':' := fun h => by simp [h] at hc
    rw [renderRaw, bindParam_cons, bindParam_renderRaw ht.2 hc.2 hl', beq_false_of_ne hc']
    rfl
  | .lit v :: ts, ht, hc, args, hl, prev => by
    simp only [isTemplate, List.all_cons, Bool.and_eq_true, beq_iff_eq] at ht hc
    obtain ⟨rfl, ht⟩ := ht
    cases args with
    | nil => simp [holes, hole] at hl
    | cons a args =>
      have hl' : args.length = holes ts := by simpa [holes, hole] using hl
      rw [renderRaw, bindParam_cons, ← List.singleton_append, ← List.append_assoc,
        bindParam_append hq (List.getLast?_concat _), bindParam_renderRaw ht hc.2 hl',
        List.any_cons]
      rfl

include hq in
/-- A well-formed format string with no `:`, filled by `%`, holds a bind parameter exactly when
one of its values does, read between its quotes. -/
theorem bindParam_pyFormat {fmt : String} (hf : wellFormedQuery fmt = true)
    (hc : ((template fmt).all (· != .chr ':')) = true) {args : List String}
    (hl : args.length = holes (template fmt)) :
    (pyFormat fmt.data args).any (bindParam word none) =
      args.any fun a => bindParam word (some '\'') (a.data ++ ['\'']) := by
  simp only [wellFormedQuery, Bool.and_eq_true, beq_iff_eq] at hf
  rw [← hf.1.1, pyFormat_renderRaw hf.1.2 hl, Option.any_some, bindParam_renderRaw hq hf.1.2 hc hl]

end Bind

end FeathrRegistry
