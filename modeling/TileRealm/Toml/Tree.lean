import TileRealm.Toml

/-!
# Growing tables

The tables of a document grow line by line, and whether a line may add to a table depends on how the
table came about.  A table is opened by at most one header; paths of keys only lead through tables
that no header has opened, and end in tables that such paths have made.

* `plant`: adds a value at the end of a path of keys.
* `openTable`, `addTable`: what a header does.
* `Node.toValue`: the value that has grown.
-/

set_option autoImplicit false

namespace TileRealm.Toml

open Text

/-- How a table came about. -/
inductive Origin where
  /-- By its own header. -/
  | opened
  /-- On the way to the table of a header. -/
  | passed
  /-- On the way to the value of a path of keys. -/
  | dotted
deriving DecidableEq

/-- A part of a document, with the place where it stands; tables that were only passed or made by
paths of keys stand nowhere. -/
inductive Node where
  | leaf (span : Span) (v : Value)
  | table (origin : Origin) (span : Option Span) (entries : List (Key × Node))
  /-- The tables of an array of tables, the latest first. -/
  | tables (latestFirst : List (Span × List (Key × Node)))

/-- The entries of a table that grows. -/
abbrev Entries : Type :=
  List (Key × Node)

namespace Entries

/-- The entry of a key. -/
def get? (es : Entries) (k : Key) : Option Node :=
  (es.find? (·.1.name = k.name)).map (·.2)

/-- The entries with another one in place of the entry of a key. -/
def replace (es : Entries) (k : Key) (n : Node) : Entries :=
  es.map fun e => if e.1.name = k.name then (e.1, n) else e

/-- The entries without that of a key. -/
def without (es : Entries) (k : Key) : Entries :=
  es.filter (·.1.name != k.name)

end Entries

/-! ## Clashes -/

/-- Why a line cannot add to a document. -/
inductive Clash where
  /-- The table has the key already. -/
  | taken (key : Key)
  /-- The table of the key is complete. -/
  | closed (key : Key)
  /-- What stands behind a path of keys is no table but of another kind. -/
  | noTable (path : List Key) (kind : String)

namespace Clash

/-- A path of keys as it is written for a reader. -/
def pathText (path : List Key) : String :=
  ".".intercalate (path.map (·.name))

/-- The text that tells a reader why, in the table of the given header. -/
def message (header : List Key) : Clash → String
  | taken k =>
    "duplicate key `" ++ k.name ++ "` in " ++
      if header.isEmpty then "document root" else "table `" ++ pathText header ++ "`"
  | closed k => "duplicate key `" ++ k.name ++ "`"
  | noTable path kind =>
    "dotted key `" ++ pathText path ++ "` attempted to extend non-table type (" ++ kind ++ ")"

/-- The text for a reader of an inline table, whose tables are all complete. -/
def inlineMessage : Clash → String
  | taken k => (closed k).message []
  | noTable path kind =>
    match path.getLast?, decide (kind = "inline table") with
    | some k, true => (closed k).message []
    | _, _ => (noTable path kind).message []
  | clash => clash.message []

/-- The clash as it is seen from one table further out. -/
def below (p : Key) : Clash → Clash
  | noTable path kind => noTable (p :: path) kind
  | clash => clash

end Clash

/-! ## Paths of keys -/

/-- A value under a path of keys. -/
structure Pair where
  /-- How many characters of the document are in front of it. -/
  place : Nat
  path : List Key
  span : Span
  value : Value

/-- Adds a value under a key at the end of a path of keys. -/
def plant (k : Key) (leaf : Node) : List Key → Entries → Except Clash Entries
  | [], es => if (es.get? k).isSome then .error (.taken k) else .ok (es ++ [(k, leaf)])
  | p :: path, es =>
    let into (below : Entries) (node : Entries → Node) : Except Clash Entries :=
      match plant k leaf path below with
      | .ok below => .ok (es.replace p (node below))
      | .error clash => .error (clash.below p)
    match es.get? p with
    | none =>
      match plant k leaf path [] with
      | .ok below => .ok (es ++ [(p, .table .dotted none below)])
      | .error clash => .error (clash.below p)
    | some (.table .opened _ _) => .error (.closed p)
    | some (.table .passed span below) =>
      if path.isEmpty then .error (.closed k) else into below (.table .passed span)
    | some (.table .dotted span below) => into below (.table .dotted span)
    | some (.tables ((span, latest) :: older)) =>
      if path.isEmpty then .error (.closed k)
      else into latest fun latest => .tables ((span, latest) :: older)
    | some (.tables []) => .error (.noTable [p] "array of tables")
    | some (.leaf _ v) => .error (.noTable [p] v.kind)

/-- Adds the values of paths of keys, one after the other, or tells which of them clashes. -/
def plantAll : List Pair → Entries → Except (Pair × Clash) Entries
  | [], es => .ok es
  | pair :: pairs, es =>
    match pair.path.getLast? with
    | none => plantAll pairs es
    | some k =>
      match plant k (.leaf pair.span pair.value) pair.path.dropLast es with
      | .ok es => plantAll pairs es
      | .error clash => .error (pair, clash)

/-! ## Headers -/

/-- A header with the pairs behind it. -/
structure Section where
  /-- Whether the header adds a table to an array of tables. -/
  isItem : Bool
  path : List Key
  /-- Where the header stands. -/
  header : Span
  pairs : List Pair

/-- Where the table of a header stands: from the header to the end of the last value. -/
def Section.span (s : Section) : Span :=
  ⟨s.header.start, ((s.pairs.getLast?.map (·.span.stop)).getD s.header.stop)⟩

/-- What is wrong with a section: its header, or one of its pairs. -/
abbrev Section.Clash : Type :=
  Option Pair × Toml.Clash

/-- Changes the table at the end of the path of a header; missing tables are made on the way, and
of an array of tables the latest is meant. -/
def within (change : Entries → Except Section.Clash Entries) :
    List Key → Entries → Except Section.Clash Entries
  | [], es => change es
  | p :: path, es =>
    let into (below : Entries) (node : Entries → Node) : Except Section.Clash Entries :=
      match within change path below with
      | .ok below => .ok (es.replace p (node below))
      | .error (pair?, clash) => .error (pair?, if pair?.isSome then clash else clash.below p)
    match es.get? p with
    | none =>
      match within change path [] with
      | .ok below => .ok (es ++ [(p, .table .passed none below)])
      | .error clash => .error clash
    | some (.table origin span below) => into below (.table origin span)
    | some (.tables ((span, latest) :: older)) =>
      into latest fun latest => .tables ((span, latest) :: older)
    | some (.tables []) => .error (none, .noTable [p] "array of tables")
    | some (.leaf _ v) => .error (none, .noTable [p] v.kind)

/-- Fills the table of a section. -/
def Section.fill (s : Section) (es : Entries) : Except Section.Clash Entries :=
  (plantAll s.pairs es).mapError fun (pair, clash) => (some pair, clash)

/-- Opens the table of a header and fills it; it may have been passed before. -/
def openTable (k : Key) (s : Section) (es : Entries) : Except Section.Clash Entries :=
  match es.get? k with
  | none => do return es ++ [(k, .table .opened s.span (← s.fill []))]
  | some (.table .passed _ below) => do
    return es.without k ++ [(k, .table .opened s.span (← s.fill below))]
  | some _ => .error (none, .taken k)

/-- Adds a table to an array of tables and fills it. -/
def addTable (k : Key) (s : Section) (es : Entries) : Except Section.Clash Entries :=
  match es.get? k with
  | none => do return es ++ [(k, .tables [(s.span, ← s.fill [])])]
  | some (.tables older) => do return es.replace k (.tables ((s.span, ← s.fill []) :: older))
  | some _ => .error (none, .taken k)

/-- Adds a section. -/
def addSection (es : Entries) (s : Section) : Except Section.Clash Entries :=
  match s.path.getLast? with
  | none => .ok es
  | some k => within ((if s.isItem then addTable else openTable) k s) s.path.dropLast es

/-! ## Values -/

/-- Where an array of tables stands: from its first table to its last. -/
def tablesSpan (latestFirst : List (Span × Entries)) : Option Span := do
  return ⟨(← latestFirst.getLast?).1.start, (← latestFirst.head?).1.stop⟩

mutual

/-- The value that has grown, with its place. -/
def Node.toValue : Node → Option Span × Value
  | .leaf span v => (some span, v)
  | .table _ span entries => (span, .table (entriesToTable entries))
  | .tables latestFirst => (tablesSpan latestFirst, .tables (tablesToValues latestFirst).reverse)

/-- The entries as a table of values. -/
def entriesToTable : List (Key × Node) → Table
  | [] => []
  | (k, n) :: rest => (k, n.toValue) :: entriesToTable rest

/-- Tables as values, in their order. -/
def tablesToValues : List (Span × List (Key × Node)) → List (Span × Value)
  | [] => []
  | (span, es) :: rest => (span, .table (entriesToTable es)) :: tablesToValues rest

end

end TileRealm.Toml
