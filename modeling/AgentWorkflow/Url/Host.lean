import AgentWorkflow.Percent
import AgentWorkflow.Utf8

/-!
# Hosts in addresses

A host is a name, or a number of thirty-two or of a hundred and twenty-eight
bits. One host can be spelled in many ways: names ignore case, numbers of the
short kind may be given in one to four parts and in three bases, and long ones
may leave out zeros. A host is read into what it means and written back in one
way only.

Names are assumed to be ASCII. A name with other characters has a spelling in
ASCII, which begins with `xn--`; it is not worked out here, and a name that begins
so is taken as it stands.
-/

namespace AgentWorkflow.Url

/-- Where a server is. -/
inductive Host where
  /-- A name. -/
  | name (text : String)
  /-- A number of thirty-two bits. -/
  | short (address : Nat)
  /-- A number of eight pieces of sixteen bits. -/
  | long (pieces : List Nat)
  deriving DecidableEq

namespace Host

/-! ## Short numbers -/

/-- One part of a short number, in base sixteen, eight or ten. -/
def part? : List Char → Option Nat
  | '0' :: c :: r =>
    if c = 'x' ∨ c = 'X' then if r.isEmpty then some 0 else Text.readDigits? 16 r
    else Text.readDigits? 8 (c :: r)
  | ds => Text.readDigits? 10 ds

/-- The parts of a name; a dot at its end does not matter. -/
def parts (s : List Char) : List (List Char) :=
  let ps := s.splitOn '.'
  if 1 < ps.length ∧ ps.getLast? = some [] then ps.dropLast else ps

/-- Whether a name looks like a short number. -/
def endsInNumber (s : List Char) : Bool :=
  match (parts s).getLast? with
  | some p => !p.isEmpty && (p.all Char.isDigit || (part? p).isSome)
  | none => false

/-- A short number. All parts but the last are bytes, and the last fills what
they leave. -/
def short? (s : List Char) : Option Nat := do
  let ns ← (parts s).mapM part?
  let last ← ns.getLast?
  let front := ns.dropLast
  if 4 < ns.length ∨ front.any (255 < ·) ∨ Nat.pow 256 (5 - ns.length) ≤ last then none
  return front.foldl (fun a n => 256 * a + n) 0 * Nat.pow 256 (4 - front.length) + last

/-! ## Long numbers -/

/-- What stands before and behind the first two colons in a row. -/
def splitGap : List Char → Option (List Char × List Char)
  | ':' :: ':' :: r => some ([], r)
  | c :: r => (splitGap r).map fun (a, b) => (c :: a, b)
  | [] => none

/-- A byte in decimal, without zeros in front. -/
def byte? (ds : List Char) : Option Nat :=
  if 1 < ds.length ∧ ds.head? = some '0' then none
  else (Text.readDigits? 10 ds).filter (· ≤ 255)

/-- One or two pieces: four hexadecimal digits at most, or four bytes at the
end. -/
def piece? (isLast : Bool) (s : List Char) : Option (List Nat) :=
  if isLast ∧ s.contains '.' then do
    match ← (s.splitOn '.').mapM byte? with
    | [a, b, c, d] => return [256 * a + b, 256 * c + d]
    | _ => none
  else if s.length ≤ 4 then (Text.readDigits? 16 s).map ([·])
  else none

/-- Pieces with colons between them. -/
def pieces? (isLast : Bool) (s : List Char) : Option (List Nat) :=
  if s.isEmpty then some []
  else
    let ps := s.splitOn ':'
    (ps.zipIdx.mapM fun (p, i) => piece? (isLast && i + 1 = ps.length) p).map List.flatten

/-- A long number; two colons in a row stand for as many zeros as are
missing. -/
def long? (s : List Char) : Option (List Nat) :=
  match splitGap s with
  | none => (pieces? true s).filter (·.length = 8)
  | some (before, behind) => do
    let a ← pieces? false before
    let b ← pieces? true behind
    if a.length + b.length ≤ 7 then
      return a ++ List.replicate (8 - a.length - b.length) 0 ++ b
    else none

/-! ## Hosts -/

/-- The characters that no name holds. -/
def isForbidden (c : Char) : Bool :=
  c.toNat ≤ 0x20 || 0x7F ≤ c.toNat || "#/:<>?@[\\]^|%".toList.contains c

/-- **Reads a host** of an address that leads to a server. A name that is not ASCII is
refused, and one that claims to stand for such a name is not looked into. -/
def parse? (s : List Char) : Option Host :=
  match s with
  | '[' :: r =>
    if r.getLast? = some ']' then (long? r.dropLast).map .long else none
  | _ => do
    let text ← Utf8.text? (Percent.decode s)
    let text := text.toList.map Char.toLower
    if text.isEmpty ∨ text.any isForbidden then none
    else if endsInNumber text then (short? text).map .short
    else some (.name (String.ofList text))

/-- The longest run of zeros that is at least two long: how many pieces there
are before it, and how many in it. -/
def zeros (pieces : List Nat) : Nat × Nat :=
  let runs := pieces.zipIdx.map fun (_, i) => (i, ((pieces.drop i).takeWhile (· = 0)).length)
  runs.foldl (fun best run => if best.2 < run.2 ∧ 2 ≤ run.2 then run else best) (0, 0)

/-- Pieces in words. -/
def piecesText (pieces : List Nat) : String :=
  String.intercalate ":" (pieces.map fun n => String.ofList (Nat.toDigits 16 n))

/-- **The one way in which a host is written.** -/
def text : Host → String
  | name s => s
  | short n =>
    String.intercalate "."
      ([0x1000000, 0x10000, 0x100, 1].map fun place => toString (n / place % 256))
  | long pieces =>
    match zeros pieces with
    | (_, 0) => "[" ++ piecesText pieces ++ "]"
    | (before, run) =>
      "[" ++ piecesText (pieces.take before) ++ "::"
        ++ piecesText (pieces.drop (before + run)) ++ "]"

end Host

end AgentWorkflow.Url
