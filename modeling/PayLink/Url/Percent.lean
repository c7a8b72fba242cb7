import PayLink.Text.Hex
import PayLink.Text.Utf8
/-!
# Percent escapes

A byte written as `%` and two hexadecimal digits. Which characters are escaped depends on the part
of the link they stand in; reading takes every well-formed escape and leaves everything else as it
is.
-/

namespace PayLink.Url.Percent

open PayLink.Text

/-- The escape of a byte. -/
def escape (b : UInt8) : List Char :=
  ['%', Hex.upper (b.toNat / 16), Hex.upper (b.toNat % 16)]

/-- The escapes of the bytes of a character. -/
def escapeChar (c : Char) : List Char :=
  (String.utf8EncodeChar c).flatMap escape

/-- Escapes the characters that `p` selects. -/
def encode (p : Char → Bool) (cs : List Char) : List Char :=
  cs.flatMap fun c => if p c then escapeChar c else [c]

/-- A text is escaped part by part. -/
@[simp] theorem encode_append (p : Char → Bool) (a b : List Char) :
    encode p (a ++ b) = encode p a ++ encode p b := by
  simp [encode]

/-- A text in which nothing is selected stays as it is. -/
theorem encode_eq_self {p : Char → Bool} {cs : List Char} (h : ∀ c ∈ cs, p c = false) :
    encode p cs = cs := by
  induction cs with
  | nil => rfl
  | cons c cs ih =>
    have hc := h c (by simp)
    have hs := ih fun d hd => h d (by simp [hd])
    simp only [encode] at hs ⊢
    simp [hc, hs]

/-- The bytes that a text with escapes denotes. -/
def decode : List Char → List UInt8
  | [] => []
  | '%' :: a :: b :: rest =>
    match Hex.digit? a, Hex.digit? b with
    | some x, some y => UInt8.ofNat (x * 16 + y) :: decode rest
    | _, _ => 0x25 :: decode (a :: b :: rest)
  | c :: rest => String.utf8EncodeChar c ++ decode rest

/-- Controls, and all that is not ASCII: these are escaped everywhere. -/
def isControl (c : Char) : Bool :=
  c.toNat < 0x20 || 0x7F ≤ c.toNat

/-- What is escaped in a fragment. -/
def inFragment (c : Char) : Bool :=
  isControl c || " \"<>\x60".toList.contains c

/-- What is escaped in a query. -/
def inQuery (c : Char) : Bool :=
  isControl c || " \"#<>".toList.contains c

/-- What is escaped in the query of a link to a host. -/
def inSpecialQuery (c : Char) : Bool :=
  inQuery c || c = '\''

/-- What is escaped in a segment of a path. -/
def inPath (c : Char) : Bool :=
  isControl c || " \"#<>?\x60{}".toList.contains c

/-- What is escaped in a user name or a password. -/
def inUserinfo (c : Char) : Bool :=
  inPath c || "/:;=@[\\]^|".toList.contains c

end PayLink.Url.Percent
