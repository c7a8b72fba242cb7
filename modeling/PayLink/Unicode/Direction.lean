import PayLink.Text.Runs
/-!
# Writing directions

In which direction characters are written, and which mixtures of directions a domain name may have.
A name with a character that is written from right to left must let every label be read in one way.
-/

namespace PayLink.Unicode

open PayLink.Text

/-- The part that a character plays in the direction of a text. -/
inductive Direction
  /-- A letter that is written from left to right. -/
  | leftToRight
  /-- A letter that is written from right to left. -/
  | rightToLeft
  /-- A digit of the Arabic scripts. -/
  | arabicNumber
  /-- A European digit. -/
  | europeanNumber
  /-- A mark that takes the direction of what it stands on. -/
  | mark
  /-- A character that takes the direction of its surroundings. -/
  | neutral
  deriving DecidableEq, Repr

namespace Direction

/-- The direction of a number in the table. -/
def ofValue : Nat → Direction
  | 1 => rightToLeft
  | 2 => arabicNumber
  | 3 => europeanNumber
  | 4 => mark
  | 5 => neutral
  | _ => leftToRight

/-- The directions of the characters beyond ASCII that are not written from left to right. -/
def directions : ValuedRuns :=
  .ofLines [
    "4h 1q 5 2e 1 5 ci 2 5 9 e 5 g s 5 t h 5 h 35 4 39 2 5 3l 2 5 3x 8 4 7b 7 5 7 19 4 19 1 1 1 ",
    "1 4 1 1 1 1 2 4 2 1 1 1 2 4 2 1 1 1 9 4 9 1i 1 1i 2 5 2 1 1 1 2 5 2 1 1 1 1 5 1 1 1 1 2 5 2 ",
    "b 4 b 1c 1 1c l 4 l a 2 a 1 5 1 2 2 2 3 1 3 1 4 1 2t 1 2t 8 4 8 1 5 1 6 4 6 2 1 2 2 4 2 1 5 ",
    "1 4 4 4 2 1 2 a 3 a n 1 n 1 4 1 u 1 u t 4 t 2h 1 2h b 4 b 1m 1 1m 9 4 9 2 1 2 4 5 4 3 1 3 1 ",
    "4 1 o 1 o 4 4 4 1 1 1 9 4 9 1 1 1 3 4 3 1 1 1 7 4 7 15 1 15 5 4 5 1l 1 1l 9 4 9 16 1 16 1l ",
    "4 34 1 4 2 1 4 5 8 4 c 1 4 4 f 4 h 2 4 v 1 4 1n 1 4 5 6 4 c 1 4 l 4 4 g 2 5 9 1 5 3 5 4 1q ",
    "2 4 5 r 4 1b 2 4 5 1 4 c 2 4 1n 1 4 5 8 4 c 3 4 l 4 4 f 8 5 9 8 4 1u 1 4 3 1 4 2 6 4 c a 4 ",
    "l 4 4 w 1 4 1q 1 4 d 3 4 12 d 5 d 1 4 4 1 4 1k 1 4 2 3 4 8 i 4 s 4 4 m 7 5 9 1 4 1n 1 4 g 9 ",
    "4 m 4 4 u 2 4 1n 2 4 6 5 4 c 1 4 l 4 4 v 1 4 21 5 4 8 6 4 2n 1 4 3 b 4 b 1 5 8 8 4 2y 1 4 3 ",
    "9 4 k 8 4 28 2 4 t 1 4 2 1 4 2 1 4 1 4 5 1j e 4 f 5 4 6 2 4 7 1d 4 1l 1 4 2v 4 4 5 6 4 7 2 ",
    "4 4 2 4 r 2 4 6 3 4 j 4 4 h 1 4 3 2 4 8 1 4 g 1 4 jk 3 4 1f g 5 34 1 5 ij 5 5 3b 3 4 w 2 4 ",
    "w e 4 w e 4 1x 7 4 f 1 4 3 b 4 i 1 5 2 3 4 j w 5 45 2 4 10 1 4 3b 3 4 7 2 4 b 1 4 7 7 4 7 6 ",
    "5 4e y 5 1l 2 4 4 3 4 1n 1 4 2 9 4 a 1 4 3 8 4 e d 4 1p 2c 4 3o 1 4 2 5 4 6 1 4 6 1 4 15 9 ",
    "4 l 2 4 y 4 4 6 2 4 3 3 4 1n 1 4 2 2 4 5 1 4 2 3 4 1p 8 4 a 5 4 4a 3 4 4 d 4 e 7 4 b 1 4 7 ",
    "1 4 4 2 4 5k 1t 4 gc 5g 5 5g 1g 4 1g 22 5 3q bw 5 dt q 5 r ly 5 lz 9f 5 gj mo 5 rp 7 5 a 4 ",
    "4 a 7 5 3q 1 4 2p w 4 w ed 5 eg p 5 y 4 4 6 1 5 7 4 5 6 4 5 2k 4 4 7 1 5 2j 1 5 5h 1c 5 5j4 ",
    "1s 5 h5c 1s 5 al 3 5 2q 4 4 4 1 5 1 a 4 a 3 5 w 2 4 2a 2 4 g z 5 3s 1 5 3e 1 4 4 1 4 5 1 4 ",
    "q 2 4 3 4 5 4 4 4 c 8 5 1o c 5 28 a 4 s i 4 v 1 4 13 8 4 x b 4 1l 3 4 1f 1 4 3 4 4 6 2 4 15 ",
    "1 4 1w 6 4 8 2 4 4 b 4 e 1 4 9 1 4 1c 1 4 1g 1 4 2 3 4 5 2 4 7 2 4 3 1 4 17 2 4 a b 4 38 2e ",
    "5 3f 1 4 3 1 4 5 3 4 fn5 44 4 44 h 1 h gt 5 gt 11 4 11 1a 5 1a b1 1 i6 1 5 1r 25 5 28 1s 5 ",
    "31 3n 4 6b 1 4 1 v 3 45 a 4 wa 7z 1 7z 1 5 1 69 1 69 f 4 f 14 1 14 8 4 8 4l 1 4l 6 4 6 26 1 ",
    "26 7 5 7 dg 1 dg c 4 c q 2 q v 1 v 5 4 5 1 5 1 6p 1 6p w 2 w 17 1 17 2 4 2 z 1 z 16 5 16 6 ",
    "4 6 1y 1 1y b 4 b 1d 1 1d 4 4 4 3e 1 3f 1 4 1j f 4 q k 5 u 1 4 3 2 4 c 3 4 1g 4 4 6 2 4 9 e ",
    "4 1q 3 4 13 5 4 6 9 4 1y 1 4 d 2 4 1i 9 4 j 4 4 6 1 4 2o 3 4 5 1 4 2 2 4 8 1 4 3 1r 4 4e 1 ",
    "4 4 d 4 t 2 4 1n 2 4 5 1 4 12 q 4 2d 7 4 j 1 4 2 1 4 2 1 4 f v 4 2f 8 4 a 3 4 4 1 4 o 1 4 ",
    "2d 6 4 7 1 4 5 2 4 3 2 4 6o 6 4 a 2 4 3 2 4 t 10 4 2f 8 4 a 1 4 2 2 4 x w 5 23 1 4 2 1 4 3 ",
    "6 4 7 1 4 2u 3 4 5 4 4 5 9 4 7c 9 4 a 2 4 76 2 4 3 1 4 5 1 4 41 8 4 c 1 4 x 6 4 8 2 4 16 6 ",
    "4 8 4 4 c 9 4 a 6 4 8 3 4 1d d 4 e 2 4 5k 1 4 2 3 4 4 1 4 5m e 4 2q n 4 o 7 4 8 2 4 3 23 4 ",
    "3g l 4 m 9 4 21 3 4 5 1 4 2 1 4 9o 2 4 d 2 4 1i 8 4 a 1 4 2 1 4 o 2e 4 3f 16 5 417 1 4 7 p ",
    "4 8uv c 4 f 3 4 1xf 5 4 1s 7 4 tb 1 4 1s 4 4 2b 1 5 2 c 4 f5l 2 4 31f lc 5 lc 28 4 h3 3 4 k ",
    "8 4 a 7 4 11 4 4 1r 2h 5 2h 3 4 3 3f 5 57 2o 5 1ds 1j 4 1n 1e 4 1m 1 4 f 1 4 n v9 4 12d 74 ",
    "4 8g 7 4 am i 4 1q 4 4 j cx 5 dp 4 4 76 2 4 6t 1 4 3 1 4 8 2 4 7 9 4 7f 5s 1 5s 2a 4 2a y 1 ",
    "y 7 4 7 145 1 145 gw 5 hp 3 5 1s 1l 5 4z 2ow 5 "]

/-- The direction of a character. -/
def ofChar (c : Char) : Direction :=
  if c.toNat < 0x80 then
    if c.isDigit then europeanNumber else if c.isAlpha then leftToRight else neutral
  else ofValue (directions.value c.toNat)

/-- Whether a text with such a character has a direction to settle. -/
def isFromRight (d : Direction) : Bool :=
  d = rightToLeft || d = arabicNumber

end Direction

open Direction

/-- The directions of a label without the marks that end it, in reverse order. -/
def withoutLastMarks (ds : List Direction) : List Direction :=
  ds.reverse.dropWhile (· = mark)

/-- Whether a label that starts from the left can be read in one way. -/
def isLeftToRightLabel (ds : List Direction) : Bool :=
  ds.all (fun d => !d.isFromRight)
    && (withoutLastMarks ds).head?.all fun d => d = leftToRight || d = europeanNumber

/-- Whether a label that starts from the right can be read in one way. -/
def isRightToLeftLabel (ds : List Direction) : Bool :=
  ds.all (· ≠ leftToRight)
    && ((withoutLastMarks ds).head?.all fun d =>
      d = rightToLeft || d = arabicNumber || d = europeanNumber)
    && !(ds.contains arabicNumber && ds.contains europeanNumber)

/-- Whether a label can be read in one way. -/
def hasOneDirection (cs : List Char) : Bool :=
  match cs.map Direction.ofChar with
  | [] => true
  | leftToRight :: ds => isLeftToRightLabel (leftToRight :: ds)
  | rightToLeft :: ds => isRightToLeftLabel (rightToLeft :: ds)
  | _ => false

/-- Whether the labels of a domain name can be read in one way. It matters only if some character is
not written from left to right. -/
def haveDirections (labels : List (List Char)) : Bool :=
  !(labels.any fun l => l.any fun c => (Direction.ofChar c).isFromRight)
    || labels.all hasOneDirection

end PayLink.Unicode
