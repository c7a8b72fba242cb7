/-!
# UTF-8

Characters as bytes and bytes as characters. Reading is total: it cuts the bytes into *pieces*, each
of which is a character, a malformed sequence that ends before the first byte that cannot continue
it, or a sequence that the end of the bytes leaves unfinished. The strict reader reports the first
piece that is no character, with its place and width; the lenient reader writes U+FFFD for it.
-/

namespace PayLink.Text.Utf8

/-- The bytes of a character list. -/
def encode (cs : List Char) : List UInt8 :=
  cs.flatMap String.utf8EncodeChar

/-- No characters have no bytes. -/
@[simp] theorem encode_nil : encode [] = [] := rfl

/-- A part of a byte sequence, as a reader of UTF-8 sees it. -/
inductive Piece
  /-- A well-formed character. -/
  | scalar (c : Char)
  /-- `width` bytes that begin a character and are followed by a byte that cannot continue it. -/
  | malformed (width : Nat)
  /-- `width` bytes that begin a character at the end of the bytes. -/
  | unfinished (width : Nat)
  deriving DecidableEq, Repr

/-- What a first byte announces: its payload, how many bytes follow it, and the range of the byte
that comes next. -/
structure Lead where
  /-- The bits of the first byte that belong to the character. -/
  payload : Nat
  /-- The number of bytes that follow. -/
  more : Nat
  /-- The least next byte. -/
  low : Nat
  /-- The greatest next byte. -/
  high : Nat
  deriving DecidableEq, Repr

/-- The meaning of a first byte; `none` for a byte that begins no character. The ranges leave out
overlong forms, surrogates and numbers above U+10FFFF. -/
def lead? (b : Nat) : Option Lead :=
  if b < 0x80 then some ⟨b, 0, 0, 0⟩
  else if b < 0xC2 then none
  else if b < 0xE0 then some ⟨b - 0xC0, 1, 0x80, 0xBF⟩
  else if b = 0xE0 then some ⟨0, 2, 0xA0, 0xBF⟩
  else if b = 0xED then some ⟨0xD, 2, 0x80, 0x9F⟩
  else if b < 0xF0 then some ⟨b - 0xE0, 2, 0x80, 0xBF⟩
  else if b = 0xF0 then some ⟨0, 3, 0x90, 0xBF⟩
  else if b < 0xF4 then some ⟨b - 0xF0, 3, 0x80, 0xBF⟩
  else if b = 0xF4 then some ⟨4, 3, 0x80, 0x8F⟩
  else none

/-- Reads `more` following bytes, of which the first lies in `low … high`. `payload` holds the bits
read so far and `width` the number of bytes. The second part is what is left to read. -/
def finish : (more payload width low high : Nat) → List UInt8 → Piece × List UInt8
  | 0, payload, _, _, _, bs => (.scalar (Char.ofNat payload), bs)
  | _ + 1, _, width, _, _, [] => (.unfinished width, [])
  | more + 1, payload, width, low, high, b :: bs =>
    if low ≤ b.toNat ∧ b.toNat ≤ high then
      finish more (payload * 64 + (b.toNat - 0x80)) (width + 1) 0x80 0xBF bs
    else (.malformed width, b :: bs)

/-- Reading further bytes never gives bytes back. -/
theorem length_finish_le (more payload width low high : Nat) (bs : List UInt8) :
    (finish more payload width low high bs).2.length ≤ bs.length := by
  induction more generalizing payload width low high bs with
  | zero => simp [finish]
  | succ n ih =>
    cases bs with
    | nil => simp [finish]
    | cons b bs =>
      simp only [finish]
      split
      · exact Nat.le_succ_of_le (ih ..)
      · simp

/-- The first piece of a byte sequence that begins with `b`, and what follows the piece. -/
def piece (b : UInt8) (bs : List UInt8) : Piece × List UInt8 :=
  match lead? b.toNat with
  | none => (.malformed 1, bs)
  | some l => finish l.more l.payload 1 l.low l.high bs

/-- A piece takes no more than its first byte and bytes that follow it. -/
theorem length_piece_le (b : UInt8) (bs : List UInt8) : (piece b bs).2.length ≤ bs.length := by
  unfold piece
  split
  · simp
  · exact length_finish_le ..

/-- All pieces of a byte sequence, in order. -/
def pieces : List UInt8 → List Piece
  | [] => []
  | b :: bs => (piece b bs).1 :: pieces (piece b bs).2
termination_by bs => bs.length
decreasing_by exact Nat.lt_succ_of_le (length_piece_le b bs)

/-- Why bytes are not UTF-8. -/
inductive Flaw
  /-- `width` bytes at `index` are no character. -/
  | malformed (width index : Nat)
  /-- The bytes end within the character that begins at `index`. -/
  | unfinished (index : Nat)
  deriving DecidableEq, Repr

/-- The wording of a flaw. -/
def Flaw.message : Flaw → String
  | .malformed width index =>
    "invalid utf-8 sequence of " ++ toString width ++ " bytes from index " ++ toString index
  | .unfinished index => "incomplete utf-8 byte sequence from index " ++ toString index

/-- The characters of pieces that begin at byte `index`, or the first flaw. -/
def scalars : Nat → List Piece → Except Flaw (List Char)
  | _, [] => .ok []
  | index, .scalar c :: ps => (scalars (index + c.utf8Size) ps).map (c :: ·)
  | index, .malformed width :: _ => .error (.malformed width index)
  | index, .unfinished _ :: _ => .error (.unfinished index)

/-- Reads bytes that must be UTF-8 throughout. -/
def decode (bs : List UInt8) : Except Flaw (List Char) :=
  scalars 0 (pieces bs)

/-- The character that stands for a piece: a flawed piece is one replacement character. -/
def Piece.lenient : Piece → Char
  | .scalar c => c
  | .malformed _ | .unfinished _ => '\uFFFD'

/-- Reads any bytes, with a replacement character for each flawed piece. -/
def decodeLenient (bs : List UInt8) : List Char :=
  (pieces bs).map Piece.lenient

end PayLink.Text.Utf8
