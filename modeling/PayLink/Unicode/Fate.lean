import PayLink.Text.Runs
import PayLink.Unicode.Replacements
/-!
# Characters in domain names

What becomes of a character when it is written in a domain name: it is kept, left out or replaced,
or no domain name can have it. A text without upper-case letters and without characters beyond
ASCII stays as it is.
-/

namespace PayLink.Unicode

open PayLink.Text

/-- What becomes of a character. -/
inductive Fate
  /-- It stays. -/
  | kept
  /-- It is left out. -/
  | dropped
  /-- Other characters take its place. -/
  | replaced (others : List Char)
  /-- No domain name has it. -/
  | refused
  deriving DecidableEq, Repr

/-- The characters beyond ASCII that stay. -/
def keptRuns : Runs :=
  .ofLines [
    "4h 7 1 1 1 2 1 1 1 2 4 2 3 1 3 1 n 1 7 x 1 1 1 1 1 1 1 1 1 1 1 1 1 1 1 1 1 1 1 1 1 1 1 1 1 ",
    "1 1 1 1 1 1 1 1 1 1 1 1 1 1 1 1 1 1 1 1 1 1 1 1 1 3 1 1 2 1 1 1 1 1 1 3 1 1 1 1 1 1 1 2 1 1 ",
    "1 1 1 1 1 1 1 1 1 1 1 1 1 1 1 1 1 1 1 1 1 1 1 1 1 1 1 1 1 1 1 1 1 1 1 1 1 1 1 1 1 1 1 2 1 1 ",
    "1 1 1 1 1 2 1 1 1 2 1 3 2 4 1 2 1 3 3 2 1 2 1 1 1 1 1 2 1 1 2 1 1 2 1 3 1 1 1 2 3 1 7 a 1 1 ",
    "1 1 1 1 1 1 1 1 1 1 1 1 2 1 1 1 1 1 1 1 1 1 1 1 1 1 1 1 1 1 2 4 1 3 1 1 1 1 1 1 1 1 1 1 1 1 ",
    "1 1 1 1 1 1 1 1 1 1 1 1 1 1 1 1 1 1 1 1 1 1 1 1 1 1 1 1 1 1 1 1 1 1 1 1 1 1 1 1 1 1 1 1 1 1 ",
    "7 2 1 2 2 1 1 4 1 1 1 1 1 1 1 1 2p 9 v 6 2 5 2j 2 1 3 9 1 w 1 1 1 1 1 1 1 1 3 3 i 1 r z 8 1 ",
    "1 1 1 1 1 1 1 1 1 1 1 1 1 1 1 1 1 1 1 1 1 1 1 1 3 1 2 1 1 1 2 2 1f 1c 1 1 1 1 1 1 1 1 1 1 1 ",
    "1 1 1 1 1 1 1 1 1 1 1 1 1 1 1 1 1 1 1 1 1 1 9 1 1 1 1 1 1 1 1 1 1 1 1 1 1 1 1 1 1 1 1 1 1 1 ",
    "1 1 1 1 1 1 1 1 1 1 1 1 1 1 1 1 1 1 1 1 1 1 1 1 1 1 1 1 1 1 1 2 1 1 1 1 1 1 1 1 1 1 1 1 2 1 ",
    "1 1 1 1 1 1 1 1 1 1 1 1 1 1 1 1 1 1 1 1 1 1 1 1 1 1 1 1 1 1 1 1 1 1 1 1 1 1 1 1 1 1 1 1 1 1 ",
    "1 1 1 1 1 1 1 1 1 1 1 1 1 1 1 1 1 1 1 1 1 1 1 1 1 1 1 1 1 1 1 1 1 1 1 1 1 1 1 1 1 1 1 1 1 1 ",
    "1 1 1 15 1a 1 3 2 3 1 1j 8 r 4 6 h m 1 2g 4 2s 1 1c 2 1n 2 2t e 1n 2 1d 2 f 1 s 2 1 1 b 5 w ",
    "7 23 1 39 8 10 1 8 2 2 2 m 1 7 1 1 3 4 2 9 2 2 2 4 8 1 8 4 2 p 2 3 1 6 4 2 2 m 1 7 1 1 2 1 ",
    "2 2 2 1 1 5 4 2 2 3 3 1 a 1 9 h a 3 1 9 1 3 1 m 1 7 1 2 1 5 2 a 1 3 1 3 2 1 f 4 2 c 7 7 1 3 ",
    "1 8 2 2 2 m 1 7 1 2 1 5 2 9 2 2 2 3 7 3 7 5 2 i a 2 1 6 3 3 1 4 3 2 1 1 1 2 3 2 3 3 3 c 4 5 ",
    "3 3 1 4 2 1 6 1 e l 5 d 1 3 1 n 1 g 2 9 1 3 1 4 7 2 1 3 1 2 2 4 2 a 7 m 1 3 1 n 1 a 1 5 2 9 ",
    "1 3 1 4 7 2 5 3 1 4 2 a 1 3 c d 1 3 1 1f 1 3 1 6 4 g 2 q 1 3 1 i 3 o 1 9 1 1 2 7 3 1 4 6 1 ",
    "1 1 8 6 a 2 3 c 1e 1 7 4 t 11 2 1 1 1 5 1 o 1 1 1 c 1 a 2 5 1 1 1 7 1 a 4 2 w c 1 1i 1 4 1 ",
    "4 1 4 1 4 1 4 1 c 1 3 4 2 1 1 5 7 1 h 1 4 1 4 1 4 1 4 1 4 1 c 1 3 1 f 1 d 11 4g 1c 18 1 2q ",
    "2 6g 1 4 2 7 1 1 1 4 2 15 1 4 2 x 1 4 2 7 1 1 1 4 2 f 1 1l 1 4 2 1v 2 w 3 q 6 2e a hs 1 s 3 ",
    "2h 7 m 9 o 9 k c d 1 3 1 2 c 1g 2 14 2 a 6 a 6 b 5 a 6 2h 7 17 5 1y a v 1 c 4 c 4 1 3 16 2 ",
    "5 b 18 4 q 6 b 3 1q 2 1t 1 t 2 b 6 a 6 e 2 1a 2 c k 25 1 4m 8 1o 3 f 3 1f a 1 1h 8 8 17 5 ",
    "18 3 1 b 1 i 1 s d 1 y 11 1s 1 1 1 1 1 1 1 1 1 1 1 1 1 1 1 1 1 1 1 1 1 1 1 1 1 1 1 1 1 1 1 ",
    "1 1 1 1 1 1 1 1 1 1 1 1 1 1 1 1 1 1 1 1 1 1 1 1 1 1 1 1 1 1 1 1 1 1 1 1 1 1 1 1 1 1 1 1 1 1 ",
    "1 1 1 1 1 1 1 1 1 1 1 1 1 1 1 1 1 1 1 1 1 1 1 1 1 1 1 1 1 1 1 1 1 1 1 1 1 1 1 1 1 1 1 1 1 1 ",
    "1 1 1 1 1 1 1 1 1 1 1 1 1 1 1 1 1 1 1 1 1 1 1 1 1 1 5 2 2 1 1 1 1 1 1 1 1 1 1 1 1 1 1 1 1 1 ",
    "1 1 1 1 1 1 1 1 1 1 1 1 1 1 1 1 1 1 1 1 1 1 1 1 1 1 1 1 1 1 1 1 1 1 1 1 1 1 1 1 1 1 1 1 1 1 ",
    "1 1 1 1 1 1 1 1 1 1 1 1 1 1 1 1 1 1 1 1 1 1 1 1 1 1 1 1 1 1 1 1 1 1 9 8 6 a 8 8 8 8 6 a 8 8 ",
    "8 8 1 1 1 1 1 1 1 1 1 1 1 1 1 1f 2 4 1 f 1 9 3 3 2 8 3 1 4 e 1 l 2 2 1 1 5 1 c 3 1 8 3 2 1 ",
    "2 4 1 1 1 8 3 d 1 7 1t 8 1 p e x j 1 3 1 b 1 2 2 5 2 3 1 1 1 1 1 1 1 4 1 b 1 6 4 5 6 1c 3 1 ",
    "5 1 2 4 4c 2 1 2 6w 2 73 m b 4g 10h 1 2v 3 2t 1 47 2 3u 1c 1c 1 1 3 2 1 1 1 1 1 1 4 1 1 2 1 ",
    "6 5 1 1 1 1 1 1 1 1 1 1 1 1 1 1 1 1 1 1 1 1 1 1 1 1 1 1 1 1 1 1 1 1 1 1 1 1 1 1 1 1 1 1 1 1 ",
    "1 1 1 1 1 1 1 1 1 1 1 1 1 1 1 1 1 1 1 1 1 1 1 1 1 1 1 1 1 1 1 1 1 1 1 1 1 1 1 1 1 1 1 1 1 1 ",
    "1 1 1 1 1 1 1 1 8 1 1 1 4 1 1 5 19 1 1 5 1 2 1k 8 1 e o 9 7 1 7 1 7 1 7 1 7 1 7 1 7 1 7 1 ",
    "3i y q 1 4 1 2b 7i 1 1 1f 1 1 3 5 1 2e 2 2 2 2 1 2n 6 17 2o 2 e 1y a g 20 8 1b 1 ao m8d 3 ",
    "1j 9 9o l 1 1 1 1 1 1 1 1 1 1 1 1 1 1 1 1 1 1 1 1 1 1 1 1 1 1 1 1 1 1 1 1 1 1 1 1 1 1 1 1 1 ",
    "1 1 1 j 1 1 1 1 1 1 1 1 1 1 1 1 1 1 1 1 1 1 1 1 1 1 1 1 1 1 1 1 2 2i 8 y 1 1 1 1 1 1 1 1 1 ",
    "1 1 1 1 3 1 1 1 1 1 1 1 1 1 1 1 1 1 1 1 1 1 1 1 1 1 1 1 1 1 1 1 1 1 1 1 1 1 1 1 1 1 1 1 1 1 ",
    "1 1 1 1 1 1 1 1 1 1 1 1 1 1 1 1 1 1 1 1 1 1 8 1 1 1 1 2 1 1 1 1 1 1 1 1 4 1 1 1 2 1 1 1 3 1 ",
    "1 1 1 1 1 1 1 1 1 1 1 1 1 1 1 1 1 1 1 5 1 5 1 1 1 1 1 1 1 1 1 1 1 1 1 1 1 4 1 1 1 2 1 1 1 1 ",
    "1 1 1 1 1 1 1 1 1 1 1 q 2 2 1f 3 a 6 1k 8 1y 8 c 6 38 b u 3 26 1 b 4 x 1 1j 9 e 2 a 2 2v o ",
    "s a 6 2 6 2 6 9 7 1 7 1 18 4 9 1 2 2c 1a 2 a 6 8mc c n 4 1d 6qa 2 1 1 1 2 a 1 1 1 1 2 2 3 ",
    "6s 1 43 x a3 i 1s 2 1i 8 19 3 w g l 2 18 1 b0 c 1 q 1 j 1 2 1 f 2 e y 3f 5 3 4 19 3 2g 1 d ",
    "3 1 1b 1a 3m t 3 1d f s 4 10 9 u 5 17 5 u 1 11 4 e 2a 3a 2 a 1a 10 4 14 8 1g b 1 13 b 1 f 1 ",
    "7 1 2 3 1g c 8n 9 m a 8 o 1 3j 6 2 1 1 18 1 2 3 1 2 n 1 20 8 9 1c j 1 2 5 x 3 r 5 r 12 1k 4 ",
    "k 2 1e 1 2 5 8 1 3 1 t 2 3 4 a 7 9 7 1s w 13 4 c 9 1i 3 t 2 r 5 q 7 4 c 7 28 21 3b 1f 7 1a ",
    "8 a 6 g p t 8 2 5s v 1 16 1 3 2 2 g 6 8 9 x 1a 8 16 m q 12 s k n 9 26 4 10 9 1q 1 5 d p 7 a ",
    "6 1h 1 i 8 13 9 2o 1 k b i 1 1b 1q 7 1 1 1 4 1 f 1 b 6 1n 5 a 6 4 1 8 2 2 2 m 1 7 1 2 1 5 1 ",
    "a 2 2 2 3 2 1 6 1 5 7 2 7 3 5 b a 1 1 2 1 1 12 1 a 1 1 2 1 1 4 1 a 1 2 8 2 t 2k 1 5 u 20 8 ",
    "a 4m 1i 2 12 y 1x b a 6 d j 1m 6 a 6 k s r 2 f 4 n 55 1o 3o 1f c 8 2 1 2 8 1 2 1 u 1 2 2 c ",
    "9 a 1y 8 2 1a 2 b r 20 8 2b d 21 7 a 2e 8 2g y e a 6 9 1 19 1 e a t 3 w 2 m 1 e 21 7 1 2 1 ",
    "18 3 1 1 2 1 9 8 a 6 6 1 2 1 11 1 2 1 6 7 a 6 18 4 a 6u p 7 h 1 15 3 t 2d 1 f 1e d pn 2u 33 ",
    "1 5 b 5g 218 2r d ts g m a 32z 5 g7 5a1 1m 1c6 ft 7 v 1 a 4 29 1 a 6 u 2 6 a 1y a a 1 7 1 l ",
    "5 j c0 1m 6e 1n w p 18 23 4 1l 7 h 1s 5 b 7 9 5p2 15 w 2p 37 6pp 4 1 7 1 2 1 83 f 1 t 3 2 1 ",
    "e 4 8 b0 1s4 2z 5 d 3 9 7 a 2 4 31c 5y 10 3 3 c4 6 n f h f 1a 2 n 9 38 1o 6u a 13 2 1h 7 e ",
    "8 1s 6 16 l 1y 3e k c k c 2f 9 p w7 i4 f 5 1 f uo v 6 6 5x 7 1 h 2 7 1 2 1 5 2s 1 34 19 3 e ",
    "2 a 4 2 8w v h 1m 5 1 cw 16 5y 17 4 1 5c v 1 m 8 2 68 7 1 4 1 2 1 f 1 5h 2 g 23 16 4 a 4 2 ",
    "lt 1w 24 1p c2 2 7i 18 4 2s c f 2 f 1 f 1 11 l 5 v 1 w q 3 z 1 t 1k q 2o 6 4a rd 3 h 3 d 3 ",
    "62 6 c 4 1 f c 4 1k 8 a 6 14 8 u 2 c 4 2 e 9 13 9k 8 e 2 d 3 b 3 1l 1 1 4 g 2 c 4 a 7 43 1 ",
    "2k a 1 sl wyo w 3dq 2 4ge 2 5rl f ha 3he 3t7 5 6ju "]

/-- The characters that are left out. -/
def droppedRuns : Runs :=
  .ofLines [
    "4t 1 ip 1 2rz 2 18z 2 2d 5 1kr 1 2c 5 5 6 3ck 1 14ez g 6n 1 4g 1 11bz 4 43z 8 h479 6o "]

/-- What becomes of a character beyond ASCII. -/
def fateBeyondAscii (c : Char) : Fate :=
  if keptRuns.contains c.toNat then .kept
  else if droppedRuns.contains c.toNat then .dropped
  else
    match replacement? c.toNat with
    | some ns => .replaced (ns.map Char.ofNat)
    | none => .refused

/-- What becomes of a character. -/
def fate (c : Char) : Fate :=
  if c.toNat < 0x80 then if c.toLower = c then .kept else .replaced [c.toLower]
  else fateBeyondAscii c

/-- A text with every character replaced that is not kept; `none` if one is refused. -/
def mapped? : List Char → Option (List Char)
  | [] => some []
  | c :: cs =>
    match fate c with
    | .kept => (mapped? cs).map (c :: ·)
    | .dropped => mapped? cs
    | .replaced others => (mapped? cs).map (others ++ ·)
    | .refused => none

/-- A text of ASCII characters is only put in lower case. -/
theorem mapped?_ascii {cs : List Char} (h : ∀ c ∈ cs, c.toNat < 0x80) :
    mapped? cs = some (cs.map Char.toLower) := by
  induction cs with
  | nil => rfl
  | cons c cs ih =>
    have hc := h c (by simp)
    have hs := ih fun d hd => h d (by simp [hd])
    by_cases hl : c.toLower = c <;> simp [mapped?, fate, hc, hl, hs]

end PayLink.Unicode
