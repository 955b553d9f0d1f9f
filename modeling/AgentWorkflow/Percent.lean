import AgentWorkflow.Text

/-!
# Percent-encoding

A text that stands inside a larger one must not hold the characters that give
the larger one its shape. Percent-encoding writes each byte of such a character
as a percent sign and two hexadecimal digits. Which characters may stay is for
the larger text to say; the percent sign never may where the text is to be read
back.
-/

namespace AgentWorkflow.Percent

/-- One byte, encoded. -/
def encodeByte (b : UInt8) : List Char := '%' :: Text.hex 2 b.toNat

/-- One character, encoded byte by byte. -/
def encodeChar (c : Char) : List Char := (String.utf8EncodeChar c).flatMap encodeByte

/-- **Encodes all characters but the ones to keep.** -/
def encode (keep : Char → Bool) (s : List Char) : List Char :=
  s.flatMap fun c => if keep c then [c] else encodeChar c

/-- The characters that mean nothing in any address. -/
def isUnreserved (c : Char) : Bool :=
  c.isAlphanum || c = '-' || c = '_' || c = '.' || c = '~'

/-- **The bytes that an encoded text stands for.** A percent sign without two
digits behind it stands for itself. -/
def decode : List Char → List UInt8
  | '%' :: a :: b :: r =>
    match Text.hexValue? a, Text.hexValue? b with
    | some high, some low => (16 * high + low).toUInt8 :: decode r
    | _, _ => String.utf8EncodeChar '%' ++ decode (a :: b :: r)
  | c :: r => String.utf8EncodeChar c ++ decode r
  | [] => []

@[simp] theorem encode_nil (keep : Char → Bool) : encode keep [] = [] := rfl

@[simp] theorem encode_append (keep : Char → Bool) (s t : List Char) :
    encode keep (s ++ t) = encode keep s ++ encode keep t := List.flatMap_append

end AgentWorkflow.Percent
