import PayLink.Settings.Environment
import PayLink.Text.Cut
/-!
# Variables in text

A text with references to variables, and the text in which they are replaced. The text is cut into
pieces, each of which is a character or a reference, and the pieces together are the text. A
reference without a value stands for itself, and what is put in place of one is not looked at
again.
-/

namespace PayLink.Expansion

open PayLink.Text

/-- A piece of a text. -/
inductive Piece
  /-- A character that begins no reference. -/
  | plain (c : Char)
  /-- A dollar sign and a name. -/
  | bare (name : List Char)
  /-- A dollar sign and a name between braces. -/
  | braced (name : List Char)
  /-- A dollar sign, an opening brace and all that follows, without a closing one. -/
  | unclosed (name : List Char)
  deriving DecidableEq, Repr

/-- The characters of a name that no braces enclose. -/
def isNameChar (c : Char) : Bool :=
  c.isAlphanum || c = '_'

/-- The text of a piece. -/
def Piece.text : Piece → List Char
  | .plain c => [c]
  | .bare name => '$' :: name
  | .braced name => '$' :: '{' :: name ++ ['}']
  | .unclosed name => '$' :: '{' :: name

/-- What follows the first separator is shorter than the whole. -/
theorem length_cut_lt {sep : Char} {cs rest : List Char} (h : (cut sep cs).2 = some rest) :
    rest.length < cs.length := by
  induction cs with
  | nil => simp [cut] at h
  | cons c cs ih =>
    simp only [cut] at h
    split at h
    · cases h; simp
    · exact Nat.lt_succ_of_lt (ih h)

/-- The pieces of a text, in order. -/
def pieces : List Char → List Piece
  | [] => []
  | '$' :: '{' :: cs =>
    match _h : (cut '}' cs).2 with
    | some rest => .braced (cut '}' cs).1 :: pieces rest
    | none => [.unclosed cs]
  | '$' :: cs => .bare (cs.takeWhile isNameChar) :: pieces (cs.dropWhile isNameChar)
  | c :: cs => .plain c :: pieces cs
termination_by cs => cs.length
decreasing_by
  · have := length_cut_lt _h
    simp only [List.length_cons]
    omega
  · have := (List.dropWhile_sublist isNameChar (l := cs)).length_le
    simp only [List.length_cons]
    omega
  · simp

/-- What is written for a piece: the value of its name, or its own text. -/
def Piece.expand (value? : List Char → Option (List Char)) : Piece → List Char
  | .plain c => [c]
  | .bare name => (value? name).getD (Piece.bare name).text
  | .braced name => (value? name).getD (Piece.braced name).text
  | .unclosed name => (value? name).getD (Piece.unclosed name).text

/-- The name that a piece refers to. -/
def Piece.name? : Piece → Option (List Char)
  | .plain _ => none
  | .bare name | .braced name | .unclosed name => some name

/-- The text with its references replaced. -/
def expand (env : Environment) (cs : List Char) : List Char :=
  (pieces cs).flatMap (Piece.expand env.get?)

/-- The names that a text refers to. -/
def names (cs : List Char) : List (List Char) :=
  (pieces cs).filterMap Piece.name?

end PayLink.Expansion
