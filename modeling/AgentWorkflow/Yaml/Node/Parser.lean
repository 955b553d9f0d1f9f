import AgentWorkflow.Yaml.Node
import AgentWorkflow.Yaml.Token

/-!
# From tokens to nodes

The grammar of YAML, by recursive descent. Every function takes the tokens that
are left and gives a part of the document and the tokens behind it, with the
reason why these are not more (`Parsed`). What may be left out, and in a YAML
document nearly everything may, is an empty scalar.

A text may hold several documents; here it holds at most one, and an empty text
holds an empty scalar.
-/

namespace AgentWorkflow.Yaml

namespace Node

/-- The tag handles of a document, and what they stand for, as bytes. -/
abbrev Handles := List (String × List UInt8)

/-- The handles every document has, unless it says otherwise. -/
def Handles.standard : Handles :=
  [("!", "!".toUTF8.toList), ("!!", "tag:yaml.org,2002:".toUTF8.toList)]

/-- The bytes of a tag. The empty handle stands for nothing. -/
def Handles.expand? (handles : Handles) (handle : String) (suffix : List UInt8) :
    Option (List UInt8) :=
  if handle = "" then some suffix else (handles.lookup handle).map (· ++ suffix)

/-- What is written in front of a node: its name and the bytes of its tag. -/
structure Properties where
  /-- The name. -/
  anchor : Option String := none
  /-- The tag. -/
  tag : Option (List UInt8) := none

namespace Properties

/-- Whether anything is written there. -/
def any (p : Properties) : Bool := p.anchor.isSome || p.tag.isSome

/-- What the tag says. -/
def tag? (p : Properties) : Option Tag := p.tag.bind Tag.ofBytes

/-- A scalar with these properties. A lone exclamation mark is no tag. -/
def scalar (p : Properties) (text : String) (plain : Bool) : Node String :=
  let tag := if p.tag = some "!".toUTF8.toList then none else p.tag?
  .scalar p.anchor ⟨tag, plain, text⟩

/-- A scalar with these properties and nothing else. -/
def emptyScalar (p : Properties) : Node String := .scalar p.anchor { tag := p.tag? }

end Properties

/-- Something that was read, and the tokens behind it. Reading never adds
tokens, which is why the readers below come to an end. -/
structure Parsed (α : Type) (ts : List Token) where
  /-- What was read. -/
  value : α
  /-- The tokens behind it. -/
  rest : List Token
  /-- They are not more than there were. -/
  length_le : rest.length ≤ ts.length

namespace Parsed

variable {α β γ : Type} {ts : List Token} {t : Token}

/-- What can be told without reading. -/
def here (a : α) : Parsed α ts := ⟨a, ts, Nat.le_refl _⟩

/-- Looks at what was read in another way. -/
def map (f : α → β) (p : Parsed α ts) : Parsed β ts := ⟨f p.value, p.rest, p.length_le⟩

/-- What can be told by passing over a token, if one is left. -/
def passing (a : α) : Parsed α ts := ⟨a, ts.drop 1, by rw [List.length_drop]; exact Nat.sub_le _ _⟩

/-- What was read behind a token. -/
def behind (p : Parsed α ts) : Parsed α (t :: ts) :=
  ⟨p.value, p.rest, Nat.le_succ_of_le p.length_le⟩

/-- Puts together what was read one after the other. -/
def join (f : α → β → γ) (p : Parsed α ts) (q : Parsed β p.rest) : Parsed γ ts :=
  ⟨f p.value q.value, q.rest, Nat.le_trans q.length_le p.length_le⟩

end Parsed

/-- The properties in front of a node: a name and a tag, in either order. -/
def properties? (handles : Handles) (ts : List Token) : Option (Parsed Properties ts) :=
  match ts with
  | .anchor name :: .tag handle suffix :: _ | .tag handle suffix :: .anchor name :: _ =>
    (handles.expand? handle suffix).map fun tag => (Parsed.here ⟨some name, some tag⟩).behind.behind
  | .anchor name :: _ => some (Parsed.here ⟨some name, none⟩).behind
  | .tag handle suffix :: _ =>
    (handles.expand? handle suffix).map fun tag => (Parsed.here ⟨none, some tag⟩).behind
  | _ => some (.here {})

/-- A node of which nothing but its properties is written; there must be some. -/
def Properties.bare? (p : Properties) (ts : List Token) : Option (Parsed (Node String) ts) :=
  if p.any then some (.here p.emptyScalar) else none

/-- Whether no value can begin at a token of an indented mapping. -/
def endsBlockMember : List Token → Bool
  | .key :: _ | .value :: _ | .blockEnd :: _ => true
  | _ => false

/-- Whether no entry can begin at a token of an indented sequence. -/
def endsBlockEntry : List Token → Bool
  | .blockEntry :: _ | .blockEnd :: _ => true
  | _ => false

/-- Whether no entry can begin at a token of a sequence without indentation. -/
def endsIndentlessEntry (ts : List Token) : Bool := endsBlockEntry ts || endsBlockMember ts

/-- Whether no value can begin at a token inside brackets that end so. -/
def endsFlowValue (close : Token) : List Token → Bool
  | .flowEntry :: _ => true
  | t :: _ => t = close
  | [] => false

/-- Whether no key can begin at a token inside brackets that end so. -/
def endsFlowKey (close : Token) : List Token → Bool
  | .value :: _ => true
  | ts => endsFlowValue close ts

mutual

/-- A node: a reference, or properties and content. `block` tells whether
indented collections are allowed, `indentless` whether a sequence may begin
without indentation. -/
def parse? (handles : Handles) (block indentless : Bool) (ts : List Token) :
    Option (Parsed (Node String) ts) :=
  match ts with
  | .repetition name :: _ => some (Parsed.here (.repetition name)).behind
  | ts =>
    match properties? handles ts with
    | none => none
    | some p =>
      have := p.length_le
      (content? handles block indentless p.value p.rest).map (p.join fun _ n => n)
termination_by 6 * ts.length + 2
decreasing_by omega

/-- The content of a node; it may be missing behind properties. -/
def content? (handles : Handles) (block indentless : Bool) (p : Properties) (ts : List Token) :
    Option (Parsed (Node String) ts) :=
  match ts with
  | .scalar text plain :: _ => some (Parsed.here (p.scalar text plain)).behind
  | .flowSequenceStart :: ts =>
    (flowItems? handles ts).map fun r => (r.map (.sequence p.anchor p.tag?)).behind
  | .flowMappingStart :: ts =>
    (flowMembers? handles ts).map fun r => (r.map (.mapping p.anchor p.tag?)).behind
  | .blockEntry :: ts =>
    if indentless then
      (indentlessItems? handles (.blockEntry :: ts)).map fun r =>
        r.map (.sequence p.anchor p.tag?)
    else p.bare? _
  | .blockSequenceStart :: ts =>
    if block then
      (blockItems? handles ts).map fun r => (r.map (.sequence p.anchor p.tag?)).behind
    else p.bare? _
  | .blockMappingStart :: ts =>
    if block then
      (blockMembers? handles ts).map fun r => (r.map (.mapping p.anchor p.tag?)).behind
    else p.bare? _
  | _ => p.bare? _
termination_by 6 * ts.length + 1
decreasing_by all_goals (simp only [List.length_cons]; omega)

/-- A node, or nothing where something else is seen to follow. -/
def parseUnless? (handles : Handles) (block indentless : Bool) (absent : Bool)
    (ts : List Token) : Option (Parsed (Node String) ts) :=
  if absent then some (.here empty) else parse? handles block indentless ts
termination_by 6 * ts.length + 3
decreasing_by omega

/-- The entries of an indented sequence. -/
def blockItems? (handles : Handles) (ts : List Token) :
    Option (Parsed (List (Node String)) ts) :=
  match ts with
  | .blockEnd :: _ => some (Parsed.here []).behind
  | .blockEntry :: ts =>
    match parseUnless? handles true false (endsBlockEntry ts) ts with
    | none => none
    | some n =>
      have := n.length_le
      (blockItems? handles n.rest).map fun ns => (n.join List.cons ns).behind
  | _ => none
termination_by 6 * ts.length + 0
decreasing_by all_goals (simp only [List.length_cons]; omega)

/-- The entries of a sequence without indentation; it ends where no dash
follows. -/
def indentlessItems? (handles : Handles) (ts : List Token) :
    Option (Parsed (List (Node String)) ts) :=
  match ts with
  | .blockEntry :: ts =>
    match parseUnless? handles true false (endsIndentlessEntry ts) ts with
    | none => none
    | some n =>
      have := n.length_le
      (indentlessItems? handles n.rest).map fun ns => (n.join List.cons ns).behind
  | _ => some (.here [])
termination_by 6 * ts.length + 0
decreasing_by all_goals (simp only [List.length_cons]; omega)

/-- The members of an indented mapping. -/
def blockMembers? (handles : Handles) (ts : List Token) :
    Option (Parsed (List (Node String × Node String)) ts) :=
  match ts with
  | .blockEnd :: _ => some (Parsed.here []).behind
  | .key :: ts =>
    match parseUnless? handles true true (endsBlockMember ts) ts with
    | none => none
    | some k =>
      have := k.length_le
      match blockValue? handles k.rest with
      | none => none
      | some v =>
        have := v.length_le
        (blockMembers? handles v.rest).map fun ms =>
          ((k.join Prod.mk v).join List.cons ms).behind
  | _ => none
termination_by 6 * ts.length + 0
decreasing_by all_goals (simp only [List.length_cons]; omega)

/-- The value of a member of an indented mapping; it may be missing. -/
def blockValue? (handles : Handles) (ts : List Token) : Option (Parsed (Node String) ts) :=
  match ts with
  | .value :: ts =>
    (parseUnless? handles true true (endsBlockMember ts) ts).map Parsed.behind
  | _ => some (.here empty)
termination_by 6 * ts.length + 0
decreasing_by all_goals (simp only [List.length_cons]; omega)

/-- The entries of a sequence in brackets, separated by commas. -/
def flowItems? (handles : Handles) (ts : List Token) :
    Option (Parsed (List (Node String)) ts) :=
  match ts with
  | .flowSequenceEnd :: _ => some (Parsed.here []).behind
  | ts =>
    match flowItem? handles ts with
    | none => none
    | some n =>
      have := n.length_le
      (laterFlowItems? handles n.rest).map (n.join List.cons)
termination_by 6 * ts.length + 5
decreasing_by all_goals omega

/-- The entries behind the first one, each with its comma; a comma may also
stand behind the last. -/
def laterFlowItems? (handles : Handles) (ts : List Token) :
    Option (Parsed (List (Node String)) ts) :=
  match ts with
  | .flowSequenceEnd :: _ => some (Parsed.here []).behind
  | .flowEntry :: .flowSequenceEnd :: _ => some (Parsed.here []).behind.behind
  | .flowEntry :: ts =>
    match flowItem? handles ts with
    | none => none
    | some n =>
      have := n.length_le
      (laterFlowItems? handles n.rest).map fun ns => (n.join List.cons ns).behind
  | _ => none
termination_by 6 * ts.length + 0
decreasing_by all_goals (simp only [List.length_cons]; omega)

/-- An entry of a sequence in brackets. One that begins like a key is a mapping
of one member. When such a key is missing, the token that shows it is passed
over. -/
def flowItem? (handles : Handles) (ts : List Token) : Option (Parsed (Node String) ts) :=
  match ts with
  | .key :: ts =>
    let key :=
      if endsFlowKey .flowSequenceEnd ts then some (.passing empty)
      else parse? handles false false ts
    match key with
    | none => none
    | some k =>
      have := k.length_le
      (flowValue? handles .flowSequenceEnd k.rest).map fun v =>
        (k.join (fun k v => .mapping none none [(k, v)]) v).behind
  | ts => parse? handles false false ts
termination_by 6 * ts.length + 4
decreasing_by all_goals (try simp only [List.length_cons]); omega

/-- The value of a member inside brackets that end so; it may be missing. -/
def flowValue? (handles : Handles) (close : Token) (ts : List Token) :
    Option (Parsed (Node String) ts) :=
  match ts with
  | .value :: ts =>
    (parseUnless? handles false false (endsFlowValue close ts) ts).map Parsed.behind
  | _ => some (.here empty)
termination_by 6 * ts.length + 0
decreasing_by all_goals (simp only [List.length_cons]; omega)

/-- The members of a mapping in braces, separated by commas. -/
def flowMembers? (handles : Handles) (ts : List Token) :
    Option (Parsed (List (Node String × Node String)) ts) :=
  match ts with
  | .flowMappingEnd :: _ => some (Parsed.here []).behind
  | ts =>
    match flowMember? handles ts with
    | none => none
    | some m =>
      have := m.length_le
      (laterFlowMembers? handles m.rest).map (m.join List.cons)
termination_by 6 * ts.length + 5
decreasing_by all_goals omega

/-- The members behind the first one, each with its comma; a comma may also
stand behind the last. -/
def laterFlowMembers? (handles : Handles) (ts : List Token) :
    Option (Parsed (List (Node String × Node String)) ts) :=
  match ts with
  | .flowMappingEnd :: _ => some (Parsed.here []).behind
  | .flowEntry :: .flowMappingEnd :: _ => some (Parsed.here []).behind.behind
  | .flowEntry :: ts =>
    match flowMember? handles ts with
    | none => none
    | some m =>
      have := m.length_le
      (laterFlowMembers? handles m.rest).map fun ms => (m.join List.cons ms).behind
  | _ => none
termination_by 6 * ts.length + 0
decreasing_by all_goals (simp only [List.length_cons]; omega)

/-- A member of a mapping in braces. What does not begin like a key is a key
without a value. -/
def flowMember? (handles : Handles) (ts : List Token) :
    Option (Parsed (Node String × Node String) ts) :=
  match ts with
  | .key :: ts =>
    match parseUnless? handles false false (endsFlowKey .flowMappingEnd ts) ts with
    | none => none
    | some k =>
      have := k.length_le
      (flowValue? handles .flowMappingEnd k.rest).map fun v => (k.join Prod.mk v).behind
  | ts => (parse? handles false false ts).map fun k => k.map fun n => (n, empty)
termination_by 6 * ts.length + 4
decreasing_by all_goals (try simp only [List.length_cons]); omega

end

/-! ## Documents -/

/-- The directives in front of a document: the handles they declare, and the
tokens behind them. There is at most one version, and no handle is declared
twice. -/
def directives? (version : Option Nat) (handles : Handles) :
    List Token → Option (Handles × List Token)
  | .versionDirective major minor :: ts =>
    if version.isNone && major = 1 && (minor = 1 || minor = 2) then
      directives? (some minor) handles ts
    else none
  | .tagDirective handle expansion :: ts =>
    if (handles.lookup handle).isSome then none
    else directives? version (handles ++ [(handle, expansion)]) ts
  | ts => some (handles ++ Handles.standard, ts)

/-- Whether a document can have no content because of what follows. -/
def endsDocument : List Token → Bool
  | [] => true
  | .versionDirective .. :: _ | .tagDirective .. :: _ | .documentStart :: _
  | .documentEnd :: _ => true
  | _ => false

/-- The document that tokens write, and the tokens behind it. -/
def document? (ts : List Token) : Option (Node String × List Token) :=
  let content (handles : Handles) (ts : List Token) : Option (Node String × List Token) :=
    (parse? handles true false ts).map fun p => (p.value, p.rest)
  match ts with
  | [] => some (empty, [])
  | .versionDirective .. :: _ | .tagDirective .. :: _ | .documentStart :: _ =>
    match directives? none [] ts with
    | some (handles, .documentStart :: rest) =>
      if endsDocument rest then some (empty, rest) else content handles rest
    | _ => none
  | ts => content Handles.standard ts

/-- **The node of a text of one document**; none if it holds more, or anything
else behind it. -/
def ofTokens? (ts : List Token) : Option (Node String) :=
  match document? ts with
  | some (n, rest) => if rest.all (· = .documentEnd) then some n else none
  | none => none

end Node

end AgentWorkflow.Yaml
