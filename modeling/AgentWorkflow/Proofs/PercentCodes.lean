import AgentWorkflow.Percent
import AgentWorkflow.Utf8

/-!
# Percent-encoding is undone

A text that was percent-encoded stands for its own bytes, whatever characters were kept,
as long as the percent sign was not (`Percent.decode_encode`). So two texts never come to
the same code. And bytes that came from a text spell that text and no other
(`Utf8.text?_flatMap`).

What a code is made of is known too: characters that were kept, percent signs, and digits
(`Percent.of_mem_encode`). A text that holds nothing else can stand inside a larger one that
gives other characters a meaning.
-/

namespace AgentWorkflow

/-- **Bytes that came from a text spell it.** -/
theorem Utf8.text?_flatMap (s : String) :
    Utf8.text? (s.toList.flatMap String.utf8EncodeChar) = some s := by
  have bytes : ByteArray.mk (s.toList.flatMap String.utf8EncodeChar).toArray = s.toByteArray := by
    rw [← String.utf8Encode_toList, List.utf8Encode]
    exact ByteArray.ext List.data_toByteArray.symm
  rw [Utf8.text?, bytes, String.fromUTF8?, dif_pos s.isValidUTF8]
  rfl

namespace Percent

theorem hexValue?_hexDigit {n : Nat} (small : n < 16) :
    Text.hexValue? (Text.hexDigit n) = some n := by
  have all : ∀ n < 16, Text.hexValue? (Text.hexDigit n) = some n := by decide
  exact all n small

theorem encodeByte_eq (b : UInt8) :
    encodeByte b = ['%', Text.hexDigit (b.toNat / 16), Text.hexDigit (b.toNat % 16)] := by
  have small : b.toNat / 16 % 16 = b.toNat / 16 := by
    have := b.toNat_lt
    omega
  rw [encodeByte, Text.hex, Text.hex, Text.hex, small]
  rfl

/-- **A byte that was encoded is read.** -/
theorem decode_encodeByte (b : UInt8) (rest : List Char) :
    decode (encodeByte b ++ rest) = b :: decode rest := by
  have small := b.toNat_lt
  have high : Text.hexValue? (Text.hexDigit (b.toNat / 16)) = some (b.toNat / 16) :=
    hexValue?_hexDigit (by omega)
  have low : Text.hexValue? (Text.hexDigit (b.toNat % 16)) = some (b.toNat % 16) :=
    hexValue?_hexDigit (Nat.mod_lt _ (by decide))
  rw [encodeByte_eq]
  show decode ('%' :: _ :: _ :: rest) = _
  rw [decode, high, low]
  dsimp only
  rw [Nat.div_add_mod]
  exact congrArg (· :: decode rest) UInt8.ofNat_toNat

theorem decode_flatMap_encodeByte (bytes : List UInt8) (rest : List Char) :
    decode (bytes.flatMap encodeByte ++ rest) = bytes ++ decode rest := by
  induction bytes with
  | nil => rfl
  | cons b bytes ih =>
    rw [List.flatMap_cons, List.append_assoc, decode_encodeByte, ih, List.cons_append]

theorem decode_cons_of_ne {c : Char} (other : c ≠ '%') (rest : List Char) :
    decode (c :: rest) = String.utf8EncodeChar c ++ decode rest := by
  rw [decode]
  rintro a b r rfl
  exact fun _ => other rfl

variable {keep : Char → Bool} {s : List Char}

/-- **A text that was encoded stands for its bytes.** -/
theorem decode_encode (keeps : keep '%' = false) (s : List Char) :
    decode (encode keep s) = s.flatMap String.utf8EncodeChar := by
  induction s with
  | nil => rfl
  | cons c s ih =>
    have split : encode keep (c :: s) = (if keep c then [c] else encodeChar c) ++ encode keep s :=
      List.flatMap_cons
    rw [split, List.flatMap_cons, ← ih]
    split
    · next kept =>
      have other : c ≠ '%' := by
        rintro rfl
        rw [keeps] at kept
        cases kept
      exact decode_cons_of_ne other _
    · exact decode_flatMap_encodeByte _ _

/-- A text all of whose characters are kept is left as it is. -/
theorem encode_eq_self (kept : ∀ c ∈ s, keep c = true) : encode keep s = s := by
  induction s with
  | nil => rfl
  | cons c s ih =>
    have split : encode keep (c :: s) = (if keep c then [c] else encodeChar c) ++ encode keep s :=
      List.flatMap_cons
    rw [split, if_pos (kept c List.mem_cons_self),
      ih fun d hd => kept d (List.mem_cons_of_mem c hd)]
    rfl

/-- **A code is made of** characters that were kept, percent signs, and digits. -/
theorem of_mem_encode {c : Char} (hc : c ∈ encode keep s) :
    keep c = true ∨ c = '%' ∨ ∃ n < 16, c = Text.hexDigit n := by
  obtain ⟨d, -, hc⟩ := List.mem_flatMap.mp hc
  split at hc
  · next kept =>
    obtain rfl := List.mem_singleton.mp hc
    exact Or.inl kept
  · obtain ⟨b, -, hc⟩ := List.mem_flatMap.mp hc
    have small := b.toNat_lt
    rw [encodeByte_eq] at hc
    rcases List.mem_cons.mp hc with rfl | hc
    · exact Or.inr (Or.inl rfl)
    · rcases List.mem_cons.mp hc with rfl | hc
      · exact Or.inr (Or.inr ⟨_, by omega, rfl⟩)
      · obtain rfl := List.mem_singleton.mp hc
        exact Or.inr (Or.inr ⟨_, Nat.mod_lt _ (by decide), rfl⟩)

end Percent

end AgentWorkflow
