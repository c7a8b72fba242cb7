import PayLink.Text.Runs
import PayLink.Unicode.Composition
/-!
# Marks and joining letters

Which characters are marks, and where the two invisible joiners may stand. A joiner stands behind a
sign that silences a vowel; the one that keeps letters apart may also stand between letters that
would join each other.
-/

namespace PayLink.Unicode

open PayLink.Text

/-- The combining marks. -/
def markSet : Runs :=
  .ofLines [
    "lc 35 7m 8 7a 19 1 1 1 2 1 2 1 9 1s b 1c l g 1 2t 8 1 6 2 2 1 4 z 1 u t 2h b 1m 9 9 1 o 4 1 ",
    "9 1 3 1 7 15 5 1l 9 16 1m 1i 3 1 i 1 f 2 2 t 4 1j 1 1 g 9 9 2 4 o 7 1j w k 2 3 1 b 4 1j 1 1 ",
    "i i 4 k b 1j 1 1 x 3 4 s 1 1n i 7 f q 5 1j 1 1 q a 4 r 3 1k 1 1 u 6 4 d h 1j 2 1 g 9 1 a 4 ",
    "r 4 1x s c 2 1p 1 2 b 8 8 2q 1 2 9 b 8 20 2 r 1 1 1 1 1 4 2 1d k 1 2 5 1d 8 1 2s k n 4 4 3 ",
    "1 3 2 7 3 4 d c 1 1 a 4 jj 3 qa d j 3 t e i e 1i u 9 3 4l 2 y 1 3a w 5z 7 1j 17 1c 2d 1b h ",
    "12 9 c 3 u d 1k m 14 n 45 3 1 l 4 1 6 1 2 3 5i 1t jz 1g 2cr 4 3w 1 2o w fe 6 2x 4 n9u 4 1 a ",
    "w 2 28 2 7k 1 3 1 4 1 n 5 4 4 28 2 1e q i i d 1 12 8 p o x 4 1b e 10 1 1v n 3 1 8 4 17 3 1e ",
    "1 1 3 2 2 5 2 1 1 15 5 5 c 6a 8 1 4 fn2 44 ha 11 qg 3n 2o 1 45 a 1a9 f 14 8 4l 6 ft c 1l 5 ",
    "8t 2 25 6 1y b 1d 4 3e 3 1h f 15 1 2 2 a 4 19 b 7 e 1c 3 10 f f 2 18 1 c 3 1c e 8 4 1 2 2k ",
    "c 6 1 2 1r 2n h g 5 1i 2 1 i 7 6 5 u 1k p 1 1 e v 1h i n 1 29 k 6j i r 10 1c h 2y d 2t j 70 ",
    "f 6t f 1 1 1 2 3x g 3 s 1 a 14 7 1 4 8 9 1 b 1a g 5i 2o 33 h 2a 32 1d l 1 9 1m e 9n 4 9 2 1 ",
    "1 1c f n 2e 428 1 6 p 8u6 i 1xc 5 1n 7 t4 1 1 1u 29 e f57 2 3mp 28 et 5 3 m 2 7 u 4 44 3 ",
    "1iz 1j 4 1e 8 1 e 1 m v9 74 74 1c 7 af i 18 4 e4 4 72 2 6r 1 2 1 7 2 5 9 cy 2a y 7 "]

/-- The letters that join what follows them. -/
def joinsNextSet : Runs :=
  .ofLines [
    "17k 1 5 1 1 1 1 5 4 d 1 7 1 2 z 2 9 f i 12 1 2 9 1 1 1 1 2 14 3 2 1 i 3 5 4 1 9 1 1 1 1 1 2 ",
    "v b 3 f 2 4 1 1 2 3 2 6 22 x 2e 5 2 1 1 a 1 1 a 1 1 4 2 1 t 1 2 5 1 8 9 a 5 2 2 6 1 f 30e 1 ",
    "o 2o 7 y 1 6 scw 1f jf1 5 8 1 5 a 1 3 a 4 41 1 1 1 3 3 1 2 1 1 2 1 s 2 9d y 1 1 bj 2 1 a 2o ",
    "3 1 h c 3 s 4 2 c 1a 1 1 2 4 1 2 2 1 2 1 1 2 1 5 m 16wy y "]

/-- The letters that join what stands before them. -/
def joinsPreviousSet : Runs :=
  .ofLines [
    "17k 1 1 u 1 a z 2 1 3 5 2j 1 1 o 2 a 3 2 1 g 1 1 u t 1f 22 x 2d p 7 1 1 4 1 s 3 1 2 e 9 d 1 ",
    "r 30e 1 o 2o 7 y 1 6 scw 1e jf2 6 1 1 1 2 3 9 1 a 2 1 6 5 40 p g 6 9e z bi 3 1 a 2o l c 4 r ",
    "i 1a 1 1 5 1 8 1 4 4 2 16xj y "]

/-- The characters that joining letters do not see. -/
def transparentSet : Runs :=
  .ofLines [
    "lc 35 7m 8 7a 19 1 1 1 2 1 2 1 9 1s b 1c l g 1 2t 8 1 6 2 2 1 4 z 1 u t 2h b 1m 9 9 1 o 4 1 ",
    "9 1 3 1 7 15 5 1l 9 16 1l 1j 1 1 1 4 8 4 1 3 f 2 2 t 1 1m 1 4 6 6 1 k 4 o 5 1l 2 3 r k 2 3 ",
    "1 b 2 1l 1 4 8 4 3 i 4 k 8 1m 1 2 1 1 6 6 a b 4 s 1 1p 1 c 3 1c 1 3 1 1j 1 1 3 5 i a 4 r 1 ",
    "1m 1 2 1 6 1 5 9 d 4 q 2 1l 2 4 5 7 1 k 4 r 1 20 5 3 6 2h 1 2 b 8 8 2q 1 2 9 b 8 20 2 r 1 1 ",
    "1 1 1 1j e 1 5 1 2 5 1d 8 1 2u 4 1 6 1 2 2 2 p 2 4 3 g 4 d 1 2 2 6 1 f 1 jj 3 qa 3 t 2 u e ",
    "i e 1j 7 8 1 2 b 9 3 4l 2 y 1 3a 3 4 2 9 1 6 7 5z 2 2 3 1k 1 1 9 1 1 2 8 6 d 1c 2c 1c 1 1 5 ",
    "1 1 5 1 14 9 c 2 w 4 2 2 1 3 1k 1 1 2 3 1 1 3 1m 8 2 5 45 3 1 d 1 7 4 1 6 1 3 2 5i 1t jz 1g ",
    "2cr 4 3w 1 2o w fe 4 2z 4 n9u 4 1 a w 2 28 2 7k 1 3 1 4 1 p 2 5 4 44 a i i d 1 12 8 p b 1a ",
    "3 1c 1 2 4 2 2 13 1 1v 6 2 2 2 b 3 1 8 1 1b 1 1f 1 1 3 2 2 5 2 1 1 16 2 8 b 6c 1 2 1 4 3 ",
    "fn2 44 ha 11 qg 3n 2o 1 45 a 1a9 f 14 8 4l 6 ft c 1l 5 8t 2 25 6 1y b 1d 4 3f 1 1i f 15 1 2 ",
    "2 a 3 1d 4 2 2 7 e 1c 3 10 5 1 9 1p 1 c 2 1g 9 a 4 2 1 2n 3 2 1 1 2 6 1 2 1r 2n 1 3 d g 2 ",
    "1l 2 3 1 11 q 1n 7 c 1 1 1 1 1 e v 1k 8 2 3 1 1 n 1 2c 6 1 1 4 2 1 2 6m 6 4 2 1 2 r 10 1f 8 ",
    "2 1 1 2 2y 1 1 1 2 6 1 1 2t 1 1 1 2 4 1 9 73 9 1 2 74 2 1 1 4 1 40 8 4 1 w a 14 6 2 4 8 9 1 ",
    "6 2 3 1a d 1 2 5i 1 1 3 1 1 5l e 1 1 2a n 1 7 1 2 1 23 1d l 1 9 1s 3 2 1 1 1 9n 2 b 2 1g 8 ",
    "2 1 1 1 n 2e 428 1 6 p 8u6 c 3 3 1xc 5 1n 7 t4 1 1r 4 29 c f59 2 3mp 28 ev 3 h 8 2 7 u 4 44 ",
    "3 1iz 1j 4 1e 8 1 e 1 m v9 74 74 1c 7 af i 18 4 e4 4 72 2 6r 1 2 1 7 2 5 9 cy 2a y c "]

/-- Whether a character is a mark. -/
def isMark (c : Char) : Bool :=
  0x80 ≤ c.toNat && markSet.contains c.toNat

/-- The joiner that keeps letters apart. -/
def nonJoiner : Char := '\u200C'

/-- The joiner that brings letters together. -/
def joiner : Char := '\u200D'

/-- Whether the first character that is not transparent is in a set. -/
def meets (set : Runs) (cs : List Char) : Bool :=
  match cs.dropWhile (transparentSet.contains ·.toNat) with
  | [] => false
  | c :: _ => set.contains c.toNat

/-- Whether a character may stand where it does, with what stands before it in reverse order and
what follows it. -/
def mayJoin (before : List Char) (c : Char) (after : List Char) : Bool :=
  if c ≠ nonJoiner ∧ c ≠ joiner then true
  else
    match before with
    | [] => false
    | p :: _ =>
      combiningClass p = viramaClass
        || (c = nonJoiner && meets joinsNextSet before && meets joinsPreviousSet after)

/-- Whether every joiner may stand where it does, with what stands before the text in reverse
order. -/
def joinersFit (before : List Char) : List Char → Bool
  | [] => true
  | c :: cs => mayJoin before c cs && joinersFit (c :: before) cs

end PayLink.Unicode
