import AgentWorkflow.Http

/-!
# Requests and answers as bytes

How a request travels to a server, and how its answer travels back, in the
first version of the protocol that keeps connections open. Each connection here
carries one request, so an answer ends where the server says that it does or
where the connection ends.

Bytes that are no whole answer are no answer at all.
-/

namespace AgentWorkflow.Http

/-- The bytes of a text. -/
def bytes (s : String) : List UInt8 := s.toUTF8.toList

/-- The host and the port that an address names. -/
def authority (u : Url) : String :=
  (u.host.map Url.Host.text).getD "" ++ (u.port.map fun n => ":" ++ toString n).getD ""

/-- **A request as bytes.** -/
def Request.wire (r : Request) : List UInt8 :=
  let body := r.body.map bytes
  let headers := [("Host", authority r.url), ("Accept", "*/*"), ("Connection", "close")]
    ++ (r.authorization.map fun a => ("Authorization", a)).toList
    ++ (body.map fun b =>
      [("Content-Type", "application/json"), ("Content-Length", toString b.length)]).getD []
  bytes (r.method.name ++ " " ++ r.url.target ++ " HTTP/1.1\r\n"
    ++ String.join (headers.map fun h => h.1 ++ ": " ++ h.2 ++ "\r\n") ++ "\r\n") ++ body.getD []

/-- What stands before the end of a line, and what stands behind it. -/
def line? : List UInt8 → Option (List UInt8 × List UInt8)
  | 13 :: 10 :: r => some ([], r)
  | b :: r => (line? r).map fun (before, behind) => (b :: before, behind)
  | [] => none

theorem length_line_lt {s before behind : List UInt8} (h : line? s = some (before, behind)) :
    behind.length < s.length := by
  fun_induction line? s generalizing before with
  | case1 r =>
    simp only [Option.some.injEq, Prod.mk.injEq] at h
    simp only [← h.2, List.length_cons]
    omega
  | case2 b r _ ih =>
    obtain ⟨⟨x, y⟩, hx, hy⟩ := Option.map_eq_some_iff.1 h
    simp only [Prod.mk.injEq] at hy
    have := ih (hy.2 ▸ hx)
    simp only [List.length_cons]
    omega
  | case3 => simp at h

/-- The lines up to an empty one, and what follows that. -/
def head? (s : List UInt8) : Option (List String × List UInt8) :=
  match _ : line? s with
  | none => none
  | some ([], r) => some ([], r)
  | some (b :: before, r) =>
    (head? r).map fun (lines, body) => (String.ofList (Utf8.shown (b :: before)) :: lines, body)
termination_by s.length
decreasing_by exact length_line_lt ‹_›

/-- What a header says, blanks around it dropped. Names ignore case. -/
def header? (name : String) (lines : List String) : Option String :=
  lines.findSome? fun line =>
    let (before, behind) := Url.upTo (· = ':') line.toList
    if String.ofList (before.map Char.toLower) = name then
      let trim (s : List Char) := s.dropWhile fun c => c = ' ' || c = '\t'
      some (String.ofList (trim (trim (behind.drop 1)).reverse).reverse)
    else none

/-- A body that comes in pieces, each behind a line with its length. -/
def pieces? (s : List UInt8) : Option (List UInt8) :=
  match _ : line? s with
  | none => none
  | some (size, r) =>
    match Text.readDigits? 16 ((Utf8.shown size).takeWhile fun c => (Text.hexValue? c).isSome) with
    | none => none
    | some 0 => some []
    | some n =>
      if n + 2 ≤ r.length then (pieces? (r.drop (n + 2))).map (r.take n ++ ·) else none
termination_by s.length
decreasing_by
  have := length_line_lt ‹_›
  simp only [List.length_drop]
  omega

/-- The status that the first line of an answer tells. -/
def status? (line : String) : Option Nat :=
  match line.toList.splitOn ' ' with
  | _ :: code :: _ => Text.readDigits? 10 code
  | _ => none

/-- **The answer that bytes spell**, when the connection has ended. -/
def Answer.ofWire (s : List UInt8) : Answer :=
  let answer : Option Answer := do
    let (lines, rest) ← head? s
    let status ← status? (← lines.head?)
    let body ←
      if header? "transfer-encoding" lines = some "chunked" then pieces? rest
      else
        match (header? "content-length" lines).bind fun n => Text.readDigits? 10 n.toList with
        | some n => if n ≤ rest.length then some (rest.take n) else none
        | none => some rest
    return .response status body
  answer.getD .lost

end AgentWorkflow.Http
