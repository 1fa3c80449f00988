import Gaze.Toml.Lexical
/-!
TOML documents.

A document is read line by line into a tree of tables. A table header `[a.b]` opens a table,
making the tables on its path as it goes; an array header `[[a.b]]` appends a fresh table to an
array of tables. A key-value line defines a key in the open table; a dotted key `x.y = v` makes
or extends the tables `x` and `x.y` on the way.

No key may be defined twice. A table may be named by one header only, and not after dotted keys
made it; dotted keys may only extend tables that dotted keys made; values, arrays written in
brackets and inline tables are complete where they are written. While the document is read each
table remembers whether it was made on the way to another (implicitly) and whether dotted keys
made it.

Nesting is bounded: arrays and inline tables nest fewer than `nestingLimit` deep, and a key,
whether of a header or of a key-value pair, has fewer than `nestingLimit` parts.
-/

namespace Gaze.Toml

/-- A table of the tree that is being built. -/
inductive Node where
  /-- A complete value: a scalar, an array in brackets or an inline table. -/
  | value (v : Value)
  /-- A table, with how it was made and its entries. -/
  | table (implicit dotted : Bool) (entries : List (String × Node))
  /-- An array of tables, each its entries; the last is the one that is open. -/
  | tables (items : List (List (String × Node)))

/-- Entries of a table being built. -/
abbrev Entries := List (String × Node)

/-- The node under a key. -/
def find? (es : Entries) (key : String) : Option Node :=
  (es.find? (·.1 == key)).map (·.2)

/-- The entries with the node under a key replaced. -/
def replace (es : Entries) (key : String) (n : Node) : Entries :=
  es.map fun e => if e.1 == key then (key, n) else e

/-- The entries of the last table of an array of tables, changed by `f`. -/
def onLast (items : List Entries) (f : Entries → Option Entries) : Option (List Entries) :=
  match items.getLast? with
  | some last => (f last).map fun l => items.dropLast ++ [l]
  | none => none

/-- Defines a dotted key `p₁.….pₙ.key = v` in a table: the tables on the way are made as
dotted tables, or must be tables that were made implicitly, the last of them by dotted keys. -/
def putDotted (v : Value) : List String → Entries → Option Entries
  | [], _ => none
  | [key], es => if (find? es key).isSome then none else some (es ++ [(key, .value v)])
  | p :: k :: ks, es =>
    let last := ks.isEmpty
    match find? es p with
    | none => (putDotted v (k :: ks) []).map fun child => es ++ [(p, .table true true child)]
    | some (.table implicit dotted child) =>
      if !implicit || (last && !dotted) then none
      else (putDotted v (k :: ks) child).map fun c => replace es p (.table implicit dotted c)
    | some (.tables items) =>
      if last then none
      else (onLast items (putDotted v (k :: ks))).map fun i => replace es p (.tables i)
    | some (.value _) => none

/-- The entries after `f` changed the table at a path of existing tables; in an array of
tables the last one is taken. -/
def modifyAt (f : Entries → Option Entries) : List String → Entries → Option Entries
  | [], es => f es
  | p :: ps, es =>
    match find? es p with
    | some (.table implicit dotted child) =>
      (modifyAt f ps child).map fun c => replace es p (.table implicit dotted c)
    | some (.tables items) => (onLast items (modifyAt f ps)).map fun i => replace es p (.tables i)
    | _ => none

/-- The entries after `f` changed the table at the end of a header's path, with the tables
before the last key made implicitly where missing. -/
def alongHeader (f : String → Entries → Option Entries) :
    List String → Entries → Option Entries
  | [], _ => none
  | [k], es => f k es
  | p :: ps, es =>
    match find? es p with
    | none => (alongHeader f ps []).map fun child => es ++ [(p, .table true false child)]
    | some (.table implicit dotted child) =>
      (alongHeader f ps child).map fun c => replace es p (.table implicit dotted c)
    | some (.tables items) =>
      (onLast items (alongHeader f ps)).map fun i => replace es p (.tables i)
    | some (.value _) => none

/-- Opens the table named by a header: a new one, or one that was only made on the way to
another header. -/
def openTable (key : String) (es : Entries) : Option Entries :=
  match find? es key with
  | none => some (es ++ [(key, .table false false [])])
  | some (.table true false child) => some (replace es key (.table false false child))
  | some _ => none

/-- Appends a fresh table to the array of tables of an array header. -/
def appendTable (key : String) (es : Entries) : Option Entries :=
  match find? es key with
  | none => some (es ++ [(key, .tables [[]])])
  | some (.tables items) => some (replace es key (.tables (items ++ [[]])))
  | some _ => none

mutual

/-- The finished value of a node. -/
def Node.toValue : Node → Value
  | .value v => v
  | .table _ _ es => .table (entriesToValue es)
  | .tables items => .array (tablesToValue items)

/-- The finished entries of a table. -/
def entriesToValue : Entries → List (String × Value)
  | [] => []
  | (k, n) :: rest => (k, n.toValue) :: entriesToValue rest

/-- The finished tables of an array of tables. -/
def tablesToValue : List Entries → List Value
  | [] => []
  | es :: rest => .table (entriesToValue es) :: tablesToValue rest

end

/-- The bound on the depth of arrays and inline tables and on the parts of a key. -/
def nestingLimit : Nat := 80

/-- A dotted key with fewer parts than `nestingLimit`. -/
def keyPath (n : Nat) (cs : List Char) : Option (List String × List Char) := do
  let (keys, r) ← dottedKey n cs
  if keys.length < nestingLimit then pure (keys, r) else none

theorem length_lt_of_keyPath {n : Nat} {cs : List Char} {ks : List String} {r : List Char}
    (h : keyPath n cs = some (ks, r)) : ks.length < nestingLimit := by
  unfold keyPath at h
  cases hd : dottedKey n cs with
  | none => simp [hd] at h
  | some p =>
    simp only [hd, Option.bind_eq_bind, Option.bind_some] at h
    split at h
    · simp_all
    · simp at h

mutual

/-- A value at the front of the text, inside `depth` arrays and inline tables; `fuel` bounds
the recursion. -/
def value : Nat → Nat → List Char → Option (Value × List Char)
  | 0, _, _ => none
  | n + 1, depth, cs =>
    match cs with
    | '"' :: '"' :: '"' :: r =>
      (mlBasicString .plain (dropFirstLineEnd r) []).map fun (s, r) => (.string s, r)
    | '"' :: r => (basicString r []).map fun (s, r) => (.string s, r)
    | '\'' :: '\'' :: '\'' :: r =>
      (mlLiteralString (dropFirstLineEnd r) []).map fun (s, r) => (.string s, r)
    | '\'' :: r => (literalString r []).map fun (s, r) => (.string s, r)
    | '[' :: r => if depth + 1 < nestingLimit then arrayItems n (depth + 1) [] r else none
    | '\x7b' :: r =>
      if depth + 1 < nestingLimit then inlineTable n (depth + 1) [] true (skipSpaces r) else none
    | _ =>
      let (tok, rest) := scalarToken cs
      (scalarValue tok).map fun v => (v, rest)

/-- The items of an array at depth `depth` after its opening bracket or after a comma; `acc`
holds the items read, reversed. -/
def arrayItems : Nat → Nat → List Value → List Char → Option (Value × List Char)
  | 0, _, _, _ => none
  | n + 1, depth, acc, cs => do
    let cs ← skipBlankLines false cs
    match cs with
    | ']' :: r => pure (.array acc.reverse, r)
    | _ =>
      let (v, r) ← value n depth cs
      let r ← skipBlankLines false r
      match r with
      | ',' :: r => arrayItems n depth (v :: acc) r
      | ']' :: r => pure (.array (v :: acc).reverse, r)
      | _ => none

/-- The pairs of an inline table at depth `depth` after its opening brace or after a comma;
`first` is set before the first pair, where the table may also close at once. -/
def inlineTable : Nat → Nat → Entries → Bool → List Char → Option (Value × List Char)
  | 0, _, _, _, _ => none
  | n + 1, depth, es, first, cs =>
    match cs with
    | '\x7d' :: r => if first then pure (.table [], r) else none
    | _ => do
      let (keys, r) ← keyPath n cs
      let r ← match skipSpaces r with
        | '=' :: r => some (skipSpaces r)
        | _ => none
      let (v, r) ← value n depth r
      let es ← putDotted v keys es
      match skipSpaces r with
      | ',' :: r => inlineTable n depth es false (skipSpaces r)
      | '\x7d' :: r => pure (.table (entriesToValue es), r)
      | _ => none

end

/-- A document being read: the tree and the path of the open table. -/
structure Reading where
  /-- The entries of the root table. -/
  root : Entries
  /-- The header path of the open table; empty for the root. -/
  current : List String

/-- The rest of a header line after its key: the closing brackets, then the line end. -/
def closeHeader (brackets : Nat) (cs : List Char) : Option (List Char) :=
  match brackets, skipSpaces cs with
  | 1, ']' :: r => restOfLine r
  | 2, ']' :: ']' :: r => restOfLine r
  | _, _ => none

/-- Reads the lines of a document; `fuel` bounds the number of lines. -/
def lines : Nat → Reading → List Char → Option Reading
  | 0, _, _ => none
  | n + 1, st, cs =>
    match skipSpaces cs with
    | [] => some st
    | '\n' :: r => lines n st r
    | '\r' :: '\n' :: r => lines n st r
    | '#' :: r => (lineEnd (r.dropWhile isCommentChar)).bind (lines n st)
    | '[' :: '[' :: r => do
      let (path, r) ← keyPath n (skipSpaces r)
      let r ← closeHeader 2 r
      let root ← alongHeader appendTable path st.root
      lines n ⟨root, path⟩ r
    | '[' :: r => do
      let (path, r) ← keyPath n (skipSpaces r)
      let r ← closeHeader 1 r
      let root ← alongHeader openTable path st.root
      lines n ⟨root, path⟩ r
    | cs => do
      let (keys, r) ← keyPath n cs
      let r ← match skipSpaces r with
        | '=' :: r => some (skipSpaces r)
        | _ => none
      let (v, r) ← value n 0 r
      let r ← restOfLine r
      let root ← modifyAt (putDotted v keys) st.current st.root
      lines n ⟨root, st.current⟩ r

/-- The root table of a TOML document, or nothing when the text is not TOML. -/
def parse (text : String) : Option (List (String × Value)) :=
  let cs := match text.toList with
    | '﻿' :: r => r
    | r => r
  (lines (2 * cs.length + 2) ⟨[], []⟩ cs).map fun st => entriesToValue st.root

end Gaze.Toml
