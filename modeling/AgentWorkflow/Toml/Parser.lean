import AgentWorkflow.Toml.Moment
import AgentWorkflow.Toml.Number
import AgentWorkflow.Toml.Table

/-!
# Reading TOML

A text is a list of statements: a header in brackets, a header in double
brackets, or a key with its value. The statements behind a header, up to the
next one, say what its table holds. What the whole text says becomes a document
of the same kind that JSON texts become, so that one reader takes records out
of both.

TOML has one kind of value that JSON lacks, the moment; in a document it is an
object with the moment's text as its only member.
-/

namespace AgentWorkflow.Toml

/-! ## Values -/

/-- The member that holds a moment's text. -/
def momentMember : String := "$__toml_private_datetime"

/-- The moment or number that begins here, and what follows it. -/
def scalar? (s : List Char) : Option (Document × List Char) :=
  match Moment.read? s with
  | some (m, r) => some (.obj [(momentMember, .str m.text)], r)
  | none => (number? s).map fun (n, r) => (.num n, r)

/-- The elements of an array, up to its bracket, and what follows that. -/
def elements? (value? : List Char → Option (Document × List Char)) (s : List Char) :
    Option (List Document × List Char) :=
  match skipSpace s with
  | ']' :: r => some ([], r)
  | r =>
    (value? r).bind fun (d, r) =>
      match skipSpace r with
      | ']' :: r => some ([d], r)
      | ',' :: r =>
        if r.length < s.length then (elements? value? r).map fun (ds, t) => (d :: ds, t) else none
      | _ => none
termination_by s.length

/-- A key and its value, and what follows them on this line. -/
def pair? (value? : List Char → Option (Document × List Char)) (s : List Char) :
    Option ((Key × Document) × List Char) := do
  let (key, r) ← key? s
  let r ← Moment.after? '=' r
  let (d, r) ← value? (skipBlanks r)
  return ((key, d), skipBlanks r)

/-- The pairs of a table in braces, up to its brace, and what follows that. -/
def pairs? (value? : List Char → Option (Document × List Char)) (s : List Char) :
    Option (List (Key × Document) × List Char) :=
  (pair? value? s).bind fun (p, r) =>
    match r with
    | '\x7d' :: r => some ([p], r)
    | ',' :: r =>
      if r.length < s.length then (pairs? value? r).map fun (ps, t) => (p :: ps, t) else none
    | _ => none
termination_by s.length

/-- The table in braces that begins here behind its brace, and what follows
it. -/
def inlineTable? (value? : List Char → Option (Document × List Char)) (s : List Char) :
    Option (Document × List Char) :=
  match skipBlanks s with
  | '\x7d' :: r => some (.obj [], r)
  | r => do
    let (pairs, r) ← pairs? value? r
    let members ← Members.addAll [] pairs
    return (.obj members.toDocuments, r)

/-- **The value that begins here**, and what follows it. Values nest at most so
deep. -/
def value? (depth : Nat) (s : List Char) : Option (Document × List Char) :=
  match depth, s with
  | depth + 1, '[' :: r => (elements? (value? depth) r).map fun (ds, t) => (.arr ds, t)
  | depth + 1, '\x7b' :: r => inlineTable? (value? depth) r
  | _, 't' :: 'r' :: 'u' :: 'e' :: r => some (.bool true, r)
  | _, 'f' :: 'a' :: 'l' :: 's' :: 'e' :: r => some (.bool false, r)
  | _, '\x22' :: _ | _, '\'' :: _ =>
    (quoted? s).map fun (t, r) => (.str (String.ofList t), r)
  | _, _ => scalar? s

/-! ## Statements -/

/-- A statement. -/
inductive Statement where
  /-- A header that names a table. -/
  | table (key : Key)
  /-- A header that names an array of tables. -/
  | element (key : Key)
  /-- A key and its value. -/
  | pair (key : Key) (value : Document)

/-- The statement that begins here, and what follows it on this line. -/
def statement? (s : List Char) : Option (Statement × List Char) :=
  match s with
  | '[' :: '[' :: r => do
    let (key, r) ← key? r
    return (.element key, ← Moment.after? ']' (← Moment.after? ']' r))
  | '[' :: r => do
    let (key, r) ← key? r
    return (.table key, ← Moment.after? ']' r)
  | _ => (pair? (value? (depthLimit - 1)) s).map fun ((key, d), r) => (.pair key d, r)

/-- All statements of a text. -/
def statements? (s : List Char) : Option (List Statement) :=
  match _ : skipSpace s with
  | [] => some []
  | c :: cs => do
    let (statement, r) ← statement? (c :: cs)
    let r ← finishLine? r
    if r.length < s.length then return statement :: (← statements? r) else none
termination_by s.length

/-- The pairs in front of the first header, and each header with the pairs
behind it. -/
def sections (statements : List Statement) :
    List (Key × Document) × List (Bool × Key × List (Key × Document)) :=
  statements.foldr (fun statement (pairs, done) =>
    match statement with
    | .pair key d => ((key, d) :: pairs, done)
    | .table key => ([], (false, key, pairs) :: done)
    | .element key => ([], (true, key, pairs) :: done)) ([], [])

/-- The table that a list of statements describes. -/
def Members.ofStatements? (statements : List Statement) : Option Members := do
  let (pairs, headed) := sections statements
  headed.foldlM (fun t (inArray, key, pairs) =>
    if inArray then t.addElement key pairs else t.addTable key pairs) (← addAll [] pairs)

/-- **The document that a text describes.** A byte order mark in front does not
matter. -/
def parse? (text : String) : Option Document := do
  let s := match text.toList with
    | '\uFEFF' :: r => r
    | r => r
  let members ← Members.ofStatements? (← statements? s)
  return .obj members.toDocuments

end AgentWorkflow.Toml
