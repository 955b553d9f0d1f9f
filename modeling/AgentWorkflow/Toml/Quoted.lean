import AgentWorkflow.Text
import AgentWorkflow.Toml.Line

/-!
# Quoted texts in TOML

There are four ways to quote. Double quotes allow escapes and single quotes do
not; three quotes instead of one allow breaks. A break directly behind the
opening three does not belong to the text, and every break that does is a line
feed.

A run of quotes inside three of the same kind is text as long as it is shorter
than three. A longer run ends the text, and up to two quotes of it in front of
the last three still belong to it.
-/

namespace AgentWorkflow.Toml

/-- The character with a code of so many hexadecimal digits, and what follows
it. -/
def code? (width : Nat) (s : List Char) : Option (Char × List Char) :=
  if (s.take width).length = width then
    (Text.readDigits? 16 (s.take width)).bind fun n =>
      if n < 0xD800 ∨ 0xE000 ≤ n ∧ n < 0x110000 then some (Char.ofNat n, s.drop width) else none
  else none

/-- The character that one letter behind a backslash stands for. -/
def letter? : Char → Option Char
  | 'b' => some (Char.ofNat 8)
  | 't' => some '\t'
  | 'n' => some '\n'
  | 'f' => some (Char.ofNat 12)
  | 'r' => some '\r'
  | '\x22' => some '\x22'
  | '\\' => some '\\'
  | _ => none

/-- The character that an escape stands for, and what follows it; the backslash
has been read. -/
def escape? : List Char → Option (Char × List Char)
  | 'u' :: r => code? 4 r
  | 'U' :: r => code? 8 r
  | c :: r => (letter? c).map (·, r)
  | [] => none

theorem length_code_le {width : Nat} {s r : List Char} {c : Char}
    (h : code? width s = some (c, r)) : r.length ≤ s.length := by
  simp only [code?] at h
  split at h
  · obtain ⟨n, -, h⟩ := Option.bind_eq_some_iff.1 h
    split at h <;> simp_all
    rw [← h.2]
    simp
  · simp at h

theorem length_escape_lt {s r : List Char} {c : Char} (h : escape? s = some (c, r)) :
    r.length < s.length := by
  unfold escape? at h
  split at h
  · exact Nat.lt_succ_of_le (length_code_le h)
  · exact Nat.lt_succ_of_le (length_code_le h)
  · obtain ⟨_, -, h⟩ := Option.map_eq_some_iff.1 h
    simp_all
  · simp at h

/-- The text up to a double quote, and what follows that. -/
def basic? : List Char → Option (List Char × List Char)
  | [] => none
  | c :: r =>
    if c = '\x22' then some ([], r)
    else if c = '\\' then
      match _ : escape? r with
      | some (e, r') => (basic? r').map fun (s, t) => (e :: s, t)
      | none => none
    else if isPrintable c then (basic? r).map fun (s, t) => (c :: s, t)
    else none
termination_by s => s.length
decreasing_by
  · have := length_escape_lt ‹_›
    simp only [List.length_cons]
    omega
  · simp

/-- The text up to a single quote, and what follows that. -/
def literal? (s : List Char) : Option (List Char × List Char) :=
  let inside (c : Char) := isPrintable c && c ≠ '\''
  match s.dropWhile inside with
  | '\'' :: r => some (s.takeWhile inside, r)
  | _ => none

/-- The text up to three quotes, and what follows them. -/
def lines? (quote : Char) : List Char → Option (List Char × List Char)
  | [] => none
  | c :: r =>
    if c = quote then
      let run := (r.takeWhile (· = quote)).length + 1
      if run < 3 then (lines? quote r).map fun (s, t) => (c :: s, t)
      else
        let kept := min (run - 3) 2
        some (List.replicate kept quote, r.drop (kept + 2))
    else if c = '\\' ∧ quote = '\x22' then
      match _ : escape? r with
      | some (e, r') => (lines? quote r').map fun (s, t) => (e :: s, t)
      | none =>
        -- A backslash at the end of a line joins it to the next text.
        if (afterBreak? (skipBlanks r)).isSome ∧ (skipLines r).length ≤ r.length then
          lines? quote (skipLines r)
        else none
    else
      match _ : afterBreak? (c :: r) with
      | some r' => (lines? quote r').map fun (s, t) => ('\n' :: s, t)
      | none =>
        if isPrintable c then (lines? quote r).map fun (s, t) => (c :: s, t) else none
termination_by s => s.length
decreasing_by
  · simp
  · have := length_escape_lt ‹_›
    simp only [List.length_cons]
    omega
  · simp only [List.length_cons]
    omega
  · exact length_afterBreak_lt ‹_›
  · simp

/-- What follows a break, if one is here. -/
def dropBreak (s : List Char) : List Char := (afterBreak? s).getD s

/-- **The quoted text that begins here**, and what follows it. -/
def quoted? : List Char → Option (List Char × List Char)
  | '\x22' :: '\x22' :: '\x22' :: r => lines? '\x22' (dropBreak r)
  | '\'' :: '\'' :: '\'' :: r => lines? '\'' (dropBreak r)
  | '\x22' :: r => basic? r
  | '\'' :: r => literal? r
  | _ => none

end AgentWorkflow.Toml
