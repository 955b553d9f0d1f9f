/-!
# Bytes as text

Texts travel as bytes in UTF-8. Bytes from elsewhere need not be text. Where
only texts are of use, `Utf8.text?` refuses the others. Where something has to
be shown in any case, `Utf8.shown` puts the replacement character in the place
of each part that is none, a part being as much of a character as is there, and
one byte at least.
-/

namespace AgentWorkflow.Utf8

/-- The text that bytes spell, if they spell one. -/
def text? (bytes : List UInt8) : Option String :=
  String.fromUTF8? (ByteArray.mk bytes.toArray)

/-- What the first byte of a character of several bytes says: its share of the
code, the range of the byte behind it, and how many bytes there are behind
it. -/
def lead? (b : Nat) : Option (Nat × Nat × Nat × Nat) :=
  if 0xC2 ≤ b ∧ b ≤ 0xDF then some (b - 0xC0, 0x80, 0xBF, 1)
  else if 0xE0 ≤ b ∧ b ≤ 0xEF then
    some (b - 0xE0, if b = 0xE0 then 0xA0 else 0x80, if b = 0xED then 0x9F else 0xBF, 2)
  else if 0xF0 ≤ b ∧ b ≤ 0xF4 then
    some (b - 0xF0, if b = 0xF0 then 0x90 else 0x80, if b = 0xF4 then 0x8F else 0xBF, 3)
  else none

/-- Reads so many more bytes of a character, the next of them from a range; its
code if they are all there, and the bytes behind them. -/
def follow (low high : Nat) : Nat → Nat → List UInt8 → Option Nat × List UInt8
  | 0, code, r => (some code, r)
  | _ + 1, _, [] => (none, [])
  | n + 1, code, b :: r =>
    if low ≤ b.toNat ∧ b.toNat ≤ high then
      follow 0x80 0xBF n (64 * code + (b.toNat - 0x80)) r
    else (none, b :: r)

theorem length_follow_le (low high n code : Nat) (r : List UInt8) :
    (follow low high n code r).2.length ≤ r.length := by
  fun_induction follow low high n code r with
  | case1 => exact Nat.le_refl _
  | case2 => exact Nat.le_refl _
  | case3 low high n code b r _ ih => exact Nat.le_succ_of_le ih
  | case4 => exact Nat.le_refl _

/-- **What bytes look like as text.** -/
def shown : List UInt8 → List Char
  | [] => []
  | b :: r =>
    if b.toNat < 0x80 then Char.ofNat b.toNat :: shown r
    else
      match lead? b.toNat with
      | none => '\uFFFD' :: shown r
      | some (code, low, high, n) =>
        ((follow low high n code r).1.elim '\uFFFD' Char.ofNat)
          :: shown (follow low high n code r).2
termination_by bytes => bytes.length
decreasing_by
  · simp
  · simp
  · have := length_follow_le low high n code r
    simp only [List.length_cons]
    omega

end AgentWorkflow.Utf8
