import PayLink.Text.Numerals
/-!
# What characters are replaced by in domain names

Letters beyond ASCII are replaced by their lower case, and compatibility forms by what they stand
for. Most replacements come in runs, where equally spaced characters are replaced by characters at
the same spacing; the others are listed one by one.
-/

namespace PayLink.Unicode

open PayLink.Text

/-- Equally spaced code points that are replaced by code points at the same spacing. -/
structure Shift where
  /-- The first of the code points. -/
  first : Nat
  /-- How many they are. -/
  count : Nat
  /-- The spacing. -/
  step : Nat
  /-- What the first is replaced by. -/
  target : Nat
  deriving Repr

namespace Shift

/-- Reads runs from numbers, four for each: the distance from the run before, the count, the spacing
and the target. -/
def ofNumbers (place : Nat) : List Nat → List Shift
  | gap :: count :: step :: target :: rest =>
    ⟨place + gap, count, step, target⟩ :: ofNumbers (place + gap) rest
  | _ => []

/-- What a code point is replaced by, if the run holds it. -/
def image? (s : Shift) (n : Nat) : Option Nat :=
  if s.first ≤ n ∧ n < s.first + s.count * s.step ∧ (n - s.first) % s.step = 0 then
    some (s.target + (n - s.first))
  else none

end Shift

/-- Reads single replacements from numbers: the distance from the code point before, how many code
points replace this one, and these. -/
def replacementsOfNumbers (place : Nat) : List Nat → List (Nat × List Nat)
  | gap :: count :: rest =>
    (place + gap, rest.take count) :: replacementsOfNumbers (place + gap) (rest.drop count)
  | _ => []
termination_by ns => ns.length

/-- The runs of replacements. -/
def shifts : List Shift :=
  Shift.ofNumbers 0 <| Array.toList <| Numerals.ofLines [
    "4y 2 1 1e e n 1 68 o 7 1 6w 14 o 2 75 1g 2 2 8l 5 3 2 8q 8 4 2 8y 9 n 2 97 1b 3 2 ai 9 2 2 ",
    "ar 7 2 1 gm n 3 2 bl h 2 1 i2 2 2 2 c4 q 8 2 cu h 9 2 db q k 2 e1 16 9 2 f7 10 5 2 g7 2y 2 ",
    "2 2w 40 2 1 lc 1c 2 2 oh o 3 1 q5 6 2 1 r1 3 h 1 q9 i 9 1 qr 1h c 2 rd 11 3 1 or 3 g 1 uo g ",
    "w 1 ts 28 h 2 v5 16 r 2 wb 1j 7 2 xu f 1c 2 y9 2p 12 1 129 29b 12 1 8w0 ns 6 1 3xs 1or 2 1 ",
    "u9 d 17 1 3bk 19 3 1 3ct 35 2 2 2q 3 5 2 2t 3 4 2 2w c 2 1 38 4 2 1 gg 4 2 1 2s 3 2 1 gr 5 ",
    "2 2 31 4 2 1 5qu 3 2 1 38 6 3 1 qa 3 2 1 qu 4 2 1 39 2 2 1 qa 3 2 1 qu 1n 3 1 h4 a 4 1 he 5 ",
    "2 1 hu 3 2 1 i1 3 2 1 i3 3 3 1 i8 1w 23 2 5xd 4g 1c 2 61t 2w 8 1 64g g 6 1 64w g 8 1 65c g ",
    "8 1 65s g 6 1 668 h 4 2 66p f 8 1 674 28 2 1 69c g 2 2 67m g 2 1 6a8 g 2 1 6ao h 2 2 r0 3f ",
    "6 1 1g 9 2 1 14 3 a 1 1c d 2 1 14 9 4 1 2z 5 2 1 37 33 2 1 2v 9 2 2 30 6 3 1 34 j 2 1 2q 4 ",
    "2 1 2t 5 4 1 15c h 2 1 2s 2 2 1 2x 11 2 1 2r g 2 1 2r bw 2 1 9hk 8n 9 1 1d 2e q 1 2p q q 1 ",
    "2p 1f4 1c 1 8q8 2v 3 2 8rs n 2 1 fz 2 1e 2 8sh 2z 2 2 8vg ni 2 1 gg4 6w 2 1 3cw 2 2 2 3hm 4 ",
    "3 1 3cz 3 6 1 3hs 7 3 1 3d2 4 a 1 3d5 a l 1 3fl m 2 1 3dg 2 2 1 3if a 2 1 3dp 3 2 1 3du 4 5 ",
    "1 3e3 a 2 1 3jl 2 3 1 3fb 3 2 1 3gk 3 2 1 3gx 5z 2 1 3cy 2 3 1 3d1 4 2 1 3d7 2 5 1 3da 2z 2 ",
    "1 9m2 g 6 1 9my a 5 1 9ni 7 6 1 9ns 6 4 1 9nz mrp n 2 wu9 1s e 2 ww1 4i 7 2 x0j g v 2 x0z ",
    "1z 2 2 x2y 5 5 2 x33 i 2 2 x3l 6 a 2 x3r u 8 2 x4l j 2 2 x54 5 8 2 x59 pw 28 1 3vk fky 2 1 ",
    "o0d 5s 2 1 15f 2 3 1 15n 1g 2 2 1a6 1 2 2 1a6 j 2 2 1b8 1 2 2 1b8 g 2 1 1ae 7 2 2 1ak 1 2 2 ",
    "1ak q 2 1 1bu 6 2 1 1c0 a 2 1 1ci 16 2 2 1c6 1 2 2 1c6 ft 2 1 1m 4 2 1 9hy u 2 1 14 4 2 1 ",
    "9hw 2 2 1 9hs 2 2 1 9hm 2 2 1 9hk 2 4 1 9ho o 2 1 14 4 2 1 9hw 4 2 1 16 8 2 1 10 n 2 1 17l ",
    "2 2 1 17m 2 2 1 17n 2 2 1 17o 2 2 1 17p 4 2 1 17q 2 2 1 17r 4 2 1 17s 2 2 1 17t 4 2 1 17u 4 ",
    "2 1 17v 4 2 1 17w 4 2 1 17x 4 2 1 17y 2 2 1 17z 2 2 1 180 2 2 1 181 2 2 1 182 4 2 1 183 4 2 ",
    "1 184 4 2 1 185 4 2 1 186 4 2 1 187 4 2 1 188 4 2 1 189 8 2 1 18h 4 2 1 18i 4 2 1 18j 4 2 1 ",
    "18k 4 2 1 18l 4 2 1 18m 4 2 1 18n 2 2 1 18o 2 2 1 18p h w 1 x w q 1 2p q 10 1 2j 10 2 1 879 ",
    "3 2 1 9ho j 2 1 9m2 g 6 1 9my a 5 1 9ni 7 6 1 9ns 8 2 1 9ll 3 2 1 3cw 2 2 2 3hm 4 3 1 3cz 3 ",
    "6 1 3hs 7 3 1 3d2 4 a 1 3d5 d 6 1 3fl 8 6 1 3fr 8 6 1 3fx 8 3 1 3g3 6 2 1 4i 9 4 1 6mo t3 ",
    "14 1 1fe0 4w 10 1 1fiw 5c j 2 1fo7 1 5 2 1fo8 c 7 2 1fok g 3 2 1fp0 dw 2 1 k0 6 2 2 ir 4 2 ",
    "1 gm e 2 1 iy a 2 1 hi 5 2 1 hp b 2 1 ip 3 3 1 cg y2 1f 1 1h34 5s m 1 1h80 28g w 1 1jgg gww ",
    "w 1 20dc 2o p 1 20fv ily q 1 2p q a 1 1c 1e8 q 1 2p q q 1 2p q q 1 2p q d 2 2p 1 3 2 2q 8 9 ",
    "2 2y h q 1 2p q q 1 2p q 2 2 2p 9 2 1 2y 4 4 1 32 5 8 1 37 8 4 1 2p 5 b 2 2u 3 3 2 2x 8 5 2 ",
    "35 a q 1 2p q q 1 2p q 2 1 2p 3 4 1 2s 6 8 1 2y 9 7 1 37 8 q 1 2p q 2 1 2p 3 4 1 2s 5 5 1 ",
    "2x a 7 1 37 8 q 1 2p q q 1 2p q q 1 2p q q 1 2p q q 1 2p q q 1 2p q q 1 2p q q 1 2p q q 1 ",
    "2p q q 1 2p q q 1 2p q q 1 2p q q 1 2p u h 1 q9 i 7 1 qr 8 h 1 q9 i 7 1 qr e h 1 q9 i 7 1 ",
    "qr 8 h 1 q9 i 7 1 qr e h 1 q9 i 7 1 qr 8 h 1 q9 i 7 1 qr e h 1 q9 i 7 1 qr 8 h 1 q9 i 7 1 ",
    "qr e h 1 q9 i 7 1 qr 8 h 1 q9 i 7 1 qr i a 1 1c a a 1 1c a a 1 1c a a 1 1c a a 1 1c 1mi 9 1 ",
    "ts 9 3 1 u2 3 b 1 u6 c 2 1 ul 9 9 1 ts 9 2 1 u2 2 2 1 u6 3 6 1 ub 6 2 1 ui 1p7 y 1 2oma zk ",
    "2 1 17r a 4 1 18j b 2 1 17u l 4 1 18j b 2 1 17u m 2 2 18k v 2 2 18j b 2 1 17u b 2 1 17r 4 2 ",
    "1 18n 7 3 1 18k a 2 1 17u m 3 1 18k a 2 1 17u hn q 1 2p 24g a 1 1c 1dtl 2 1 ged 7 2 2 ghp ",
    "23 2 2 2z1g 6 2 1 ijl 38 2 1 la2 28 2 1 nj2 4j 2 1 t07 "]

/-- The single replacements. -/
def replacements : List (Nat × List Nat) :=
  replacementsOfNumbers 0 <| Array.toList <| Numerals.ofLines [
    "4g 1 w 8 2 w lk 2 1 2p 5 2 w lg 5 2 w ld 1 1 qk 3 2 w mf 1 1 1d 1 1 33 2 3 1d 6dg 1g 1 3 1d ",
    "6dg 1e 1 3 1f 6dg 1g 36 2 2x lj 2 2 2x 2y 1 2 2x 2y c 2 30 53 1 2 30 53 9 2 jg 32 1b 1 73 7 ",
    "1 37 2 1 gj 5 1 gk 1 1 aw 4 1 b0 3 1 d9 1 1 gp 1 1 gr 1 1 b6 2 1 gw 1 1 gz 2 1 h5 1 1 h4 1 ",
    "1 bd 4 1 hb 1 1 he 2 1 hh 7 1 hs 1 1 bs 2 1 hv 3 1 bx 2 1 i0 1 1 c0 8 1 ia 1 1 c9 4 1 cd 8 ",
    "2 2s am 1 2 2s am 1 2 2s am 1 2 30 2y 1 2 30 2y 1 2 30 2y 1 2 32 2y 1 2 32 2y 1 2 32 2y 11 ",
    "2 2s 3e 1 2 2s 3e 1 2 2s 3e 1 1 dx 2 1 b9 1 1 cf 15 1 bi q 1 8rp 1 1 fw 2 1 be 1 1 8rq 3 1 ",
    "g2 2 1 ao 1 1 i1 1 1 i4 30 1 h2 2 1 36 1 1 hl 1 1 hn 1 1 ht 1 1 3b 1 1 3d w 2 w li 1 2 w lj ",
    "1 2 w lm 1 2 w mg 1 2 w lf 1 2 w ln 3 1 gz 1 1 30 1 1 37 1 1 3c 1 1 id 2n 1 lv 1 2 lk ld 1 ",
    "1 qh 1b 1 jd 2 1 on 4 2 w qh 4 1 1n 1 1 s3 5 2 w ld 1 3 w lk ld 1 1 q4 1 1 53 5 1 r0 1v 1 ",
    "rb 1 1 qa 1 1 qg 1 1 qt 1 1 r1 1 1 qz 1 1 qu 1 1 qo q 1 qi 1 1 qp 1 1 qr 2 1 qg 1 1 qd 2 1 ",
    "s8 2 1 qr 1 1 sb 5i 1 y7 5j 2 12d 136 6m 2 17r 19w 1 2 18o 19w 1 2 1c7 19w 1 2 18q 19w kg 2 ",
    "1sl 1to 1 2 1sm 1to 1 2 1sn 1to 1 2 1ss 1to 1 2 1sx 1to 1 2 1sy 1to 1 2 1t7 1to 1 2 1tb 1to ",
    "3h 2 1wh 1x8 1 2 1wi 1x8 2 2 1wv 1x8 2c 2 20i 20s 3 2 20o 20s z 2 1zq 20s 1 2 1zr 20s 1 2 ",
    "1zw 20s 3 2 20b 20s 72 2 275 27w 1 2 276 27w k6 2 2tp 2sy 3k 2 2x9 2wi 15 2 2wb 2vt 1 2 2wb ",
    "2w1 1b 1 2yz 1j 2 30i 33r a 2 30s 33r 5 2 30x 33r 5 2 312 33r 5 2 317 33r d 2 30g 33p a 2 ",
    "31t 31u 2 2 31t 31w 1 2 33m 328 1 3 33m 31t 328 1 2 33n 328 1 3 33n 31t 328 8 2 31t 328 i 2 ",
    "32q 33r a 2 330 33r 5 2 335 33r 5 2 33a 33r 5 2 33f 33r d 2 32o 33p 7i 1 8x3 6 1 8x9 1b 1 ",
    "3bw 29w 1 tu 1 1 tw 1 1 u6 3 1 ua 1 1 ui 1 1 v7 1 1 wuj 1 1 5my 4j 1 2p 1 1 6e 5 1 d9 a 1 ",
    "33 1 1 f7 1 1 34 1 1 36 3 1 3b 1 1 2p 3 1 5qa 1 1 2q 3 1 gp 3 1 2v 2 1 2z 2 1 97 2 1 gk 3 1 ",
    "34 3 1 5r1 1 1 hb 1 1 3a 1 1 5r9 6 1 2x 1 1 36 5 1 qp g 1 u5 z 1 gi 1 1 2r 1 1 gl 1 1 6o 1 ",
    "1 gs 1 1 2u 1 1 gv 1 1 gx 1 1 h1 4 1 5tn 1 1 il 1 1 h9 1 1 5tx 1 1 in 1 1 hd 1 1 hc 5 1 hk ",
    "3 1 bv 3 1 5r0 3 1 3e 4 1 qg 63 2 2p ji 1 1 601 3 1 67 5v 1 q4 2 1 q5 2 1 q6 2 1 q7 2 1 r0 ",
    "2 1 r1 2 1 r2 3 2 64g qh 1 2 64h qh 1 2 64i qh 1 2 64j qh 1 2 64k qh 1 2 64l qh 1 2 64m qh ",
    "1 2 64n qh 1 2 64g qh 1 2 64h qh 1 2 64i qh 1 2 64j qh 1 2 64k qh 1 2 64l qh 1 2 64m qh 1 2 ",
    "64n qh 1 2 65c qh 1 2 65d qh 1 2 65e qh 1 2 65f qh 1 2 65g qh 1 2 65h qh 1 2 65i qh 1 2 65j ",
    "qh 1 2 65c qh 1 2 65d qh 1 2 65e qh 1 2 65f qh 1 2 65g qh 1 2 65h qh 1 2 65i qh 1 2 65j qh ",
    "1 2 674 qh 1 2 675 qh 1 2 676 qh 1 2 677 qh 1 2 678 qh 1 2 679 qh 1 2 67a qh 1 2 67b qh 1 2 ",
    "674 qh 1 2 675 qh 1 2 676 qh 1 2 677 qh 1 2 678 qh 1 2 679 qh 1 2 67a qh 1 2 67b qh 3 2 67k ",
    "qh 1 2 q9 qh 1 2 q4 qh 3 2 69i qh 3 1 67k 1 1 q4 1 2 q9 qh 1 2 w lv 1 1 qh 1 2 w lv 1 2 w ",
    "n6 1 3 w lk n6 1 2 67o qh 1 2 qf qh 1 2 q6 qh 3 2 69y qh 2 1 q5 2 1 q6 1 2 qf qh 1 3 w lv ",
    "lc 1 3 w lv ld 1 3 w lv n6 4 1 pc 7 1 67q 1 1 q7 2 3 w lw lc 1 3 w lw ld 1 3 w lw n6 4 1 q8 ",
    "7 1 67u 1 1 r1 1 1 6at 1 3 w lk lc 1 3 w lk ld 1 1 2o 3 2 67w qh 1 2 qx qh 1 2 r2 qh 3 2 ",
    "6ba qh 1 1 67s 2 1 67w 2 2 qx qh 1 2 w ld 1 2 w lw 2 1 w 1 1 w 1 1 w 1 1 w 1 1 w 1 1 w 1 1 ",
    "w 1 1 w 1 1 w 1 1 w 1 1 w 7 1 6c0 6 2 w mr o 1 w 4 2 6cy 6cy 1 3 6cy 6cy 6cy 2 2 6d1 6d1 1 ",
    "3 6d1 6d1 6d1 5 2 x x 2 2 w lh 9 2 1r 1r 1 2 1r x 1 2 x 1r e 4 6cy 6cy 6cy 6cy 8 1 w h 1 1c ",
    "1 1 2x 9 1 17 1 1 6qa 1 1 1p 3 1 32 b 1 17 1 1 6qa 1 1 1p 4 1 2p 1 1 2t 1 1 33 1 1 3c 1 1 ",
    "gp 1 1 2w 5 1 34 e 2 36 37 2g 3 2p 1b 2r 1 3 2p 1b 37 1 1 2r 1 2 4w 2r 2 3 2r 1b 33 1 3 2r ",
    "1b 39 1 1 gr 2 2 4w 2u 3 1 2w 1 1 2w 1 1 2w 1 1 87 1 1 2x 1 1 2x 1 1 30 4 2 32 33 6 1 36 1 ",
    "1 36 3 2 37 31 1 3 38 2t 30 1 2 38 31 2 1 3e 2 1 qx 2 1 3e 2 1 2z 1 1 6d 4 1 2t 3 1 6ku 1 1 ",
    "31 1 1 33 5 1 2x 2 3 2u 2p 3c 1 1 qo 1 1 qb 1 1 qb 1 1 qo 1 1 6q9 5 1 2s b 3 1d 6dg 1j 1 3 ",
    "1d 6dg 1l 1 4 1d 6dg 1d 1c 1 3 1d 6dg 1f 1 3 1e 6dg 1f 1 3 1d 6dg 1h 1 3 1e 6dg 1h 1 3 1f ",
    "6dg 1h 1 3 1g 6dg 1h 1 3 1d 6dg 1i 1 3 1h 6dg 1i 1 3 1d 6dg 1k 1 3 1f 6dg 1k 1 3 1h 6dg 1k ",
    "1 3 1j 6dg 1k 1 2 1d 6dg 1 1 2x 1 2 2x 2x 1 3 2x 2x 2x 1 2 2x 3a 1 1 3a 1 2 3a 2x 1 3 3a 2x ",
    "2x 1 4 3a 2x 2x 2x 1 2 2x 3c 1 1 3c 1 2 3c 2x 1 3 3c 2x 2x 1 1 30 3 1 31 1 1 2x 1 2 2x 2x 1 ",
    "3 2x 2x 2x 1 2 2x 3a 1 1 3a 1 2 3a 2x 1 3 3a 2x 2x 1 4 3a 2x 2x 2x 1 2 2x 3c 1 1 3c 1 2 3c ",
    "2x 1 3 3c 2x 2x 1 1 30 3 1 31 4 1 6mc 6 3 1c 6dg 1f 4j 2 6qz 6qz 1 3 6qz 6qz 6qz 2 2 6r2 ",
    "6r2 1 3 6r2 6r2 6r2 ft 2 1d 1c 1 2 1d 1d 1 2 1d 1e 1 2 1d 1f 1 2 1d 1g 1 2 1d 1h 1 2 1d 1i ",
    "1 2 1d 1j 1 2 1d 1k 1 2 1d 1l 1 2 1e 1c 1 3 14 1d 15 1 3 14 1e 15 1 3 14 1f 15 1 3 14 1g 15 ",
    "1 3 14 1h 15 1 3 14 1i 15 1 3 14 1j 15 1 3 14 1k 15 1 3 14 1l 15 1 4 14 1d 1c 15 1 4 14 1d ",
    "1d 15 1 4 14 1d 1e 15 1 4 14 1d 1f 15 1 4 14 1d 1g 15 1 4 14 1d 1h 15 1 4 14 1d 1i 15 1 4 ",
    "14 1d 1j 15 1 4 14 1d 1k 15 1 4 14 1d 1l 15 1 4 14 1e 1c 15 l 3 14 2p 15 1 3 14 2q 15 1 3 ",
    "14 2r 15 1 3 14 2s 15 1 3 14 2t 15 1 3 14 2u 15 1 3 14 2v 15 1 3 14 2w 15 1 3 14 2x 15 1 3 ",
    "14 2y 15 1 3 14 2z 15 1 3 14 30 15 1 3 14 31 15 1 3 14 32 15 1 3 14 33 15 1 3 14 34 15 1 3 ",
    "14 35 15 1 3 14 36 15 1 3 14 37 15 1 3 14 38 15 1 3 14 39 15 1 3 14 3a 15 1 3 14 3b 15 1 3 ",
    "14 3c 15 1 3 14 3d 15 1 3 14 3e 15 1h 1 1c 10i 4 6qz 6qz 6qz 6qz 2w 3 1m 1m 1p 1 2 1p 1p 1 ",
    "3 1p 1p 1p 2u 2 8gt mw as 1 8rl 2 1 h7 1 1 5tp 1 1 hp 9 1 gh 1 1 hd 1 1 gg 1 1 gi 2 1 8s3 3 ",
    "1 8s6 7 1 2y 1 1 3a 39 1 8vn 3h 1 8yp 8g 1 lal 2c 1 vj3 d 1 feo 1 1 ffs 1 1 fg6 1 1 fgf 1 1 ",
    "fh5 1 1 fid 1 1 fik 1 1 fj4 1 1 fju 1 1 g1r 1 1 g2t 1 1 g2z 1 1 g3m 1 1 g46 1 1 g4r 1 1 g68 ",
    "1 1 g6t 1 1 g74 1 1 gbf 1 1 ge1 1 1 get 1 1 gey 1 1 gfs 1 1 gg1 1 1 ggs 1 1 gh5 1 1 ghu 1 1 ",
    "gja 1 1 gjs 1 1 gkj 1 1 h5j 1 1 h7j 1 1 hkb 1 1 hky 1 1 hl6 1 1 hlh 1 1 hlz 1 1 ho3 1 1 i1c ",
    "1 1 i2o 1 1 i60 1 1 i6n 1 1 i76 1 1 i7s 1 1 i9a 1 1 i9d 1 1 ijf 1 1 ijp 1 1 ik1 1 1 ike 1 1 ",
    "inm 1 1 inu 1 1 inz 1 1 ir8 1 1 iri 1 1 irv 1 1 is3 1 1 its 1 1 iu9 1 1 iur 1 1 iwz 1 1 jd4 ",
    "1 1 jee 1 1 jez 1 1 jzj 1 1 jzo 1 1 k1z 1 1 k2f 1 1 k2s 1 1 k3d 1 1 k4g 1 1 k4l 1 1 kc0 1 1 ",
    "kco 1 1 kdk 1 1 l5s 1 1 l7m 1 1 l89 1 1 l9v 1 1 laj 1 1 las 1 1 laz 1 1 lcf 1 1 lck 1 1 ldg ",
    "1 1 m7f 1 1 mju 1 1 mk6 1 1 mkb 1 1 mkf 1 1 mkn 1 1 ml5 1 1 ml7 1 1 mng 1 1 mtg 1 1 mtl 1 1 ",
    "n30 1 1 n3a 1 1 n4o 1 1 n4v 1 1 n54 1 1 n5c 1 1 n7v 1 1 n82 1 1 nee 1 1 nel 1 1 nfy 1 1 ngf ",
    "1 1 nhq 1 1 nob 1 1 noi 1 1 noz 1 1 ny2 1 1 o1k 1 1 o1q 1 1 o6s 1 1 o97 1 1 oah 1 1 okz 1 1 ",
    "ooo 1 1 p4m 1 1 p5d 1 1 p6y 1 1 p8d 1 1 pa9 1 1 pak 1 1 paq 1 1 pbn 1 1 pdr 1 1 pe1 1 1 pnn ",
    "1 1 pnu 1 1 po3 1 1 poc 1 1 pos 1 1 pp7 1 1 ppb 1 1 pri 1 1 prm 1 1 prs 1 1 qj1 1 1 qjv 1 1 ",
    "qww 1 1 qx8 1 1 qxv 1 1 r5q 1 1 r63 1 1 r82 1 1 r9c 1 1 rp3 1 1 rpi 1 1 rpx 1 1 rqw 1 1 rrx ",
    "1 1 rxg 1 1 rxs 1 1 rzn 1 1 s6j 1 1 s7e 1 1 sd7 1 1 sds 1 1 sdx 1 1 sk1 1 1 sp5 1 1 ssm 1 1 ",
    "sss 1 1 ssx 1 1 tiv 1 1 tj4 1 1 tng 1 1 trq 1 1 trt 1 1 tt4 1 1 tw1 1 1 twe 1 1 twi 1 1 twp ",
    "1 1 tzf 1 1 u0d 1 1 u0j 1 1 u0x 1 1 u5k 1 1 u6z 1 1 u73 1 1 uc6 1 1 uc9 1 1 ucs 1 1 ujs 1 1 ",
    "ul4 1 1 ulb 1 1 un9 1 1 unj 1 1 unm 1 1 unw 1 1 uoq 1 1 uzp 1 1 vat 1 1 vb3 1 1 vc5 1 1 vcr ",
    "1 1 vcz 1 1 vd9 1 1 vdd 1 1 veh 1 1 vel 1 1 vf2 1 1 vf7 1 1 vfk 1 1 vgb 1 1 vgq 1 1 vgy 1 1 ",
    "vil 1 1 vj0 1 1 vj4 17 1 w 2 1 1a 1g 1 9hu 2 1 gg1 2r 2 w 9ll 1 2 w 9lm 3 2 9l4 9l6 2o 2 ",
    "9mb 9mw 1h 1 3cy 2 1 3hp a 1 3dm 4 1 3dt 11 1 3ik 1 1 3im 1 1 3ir 1 1 3iv 1 1 3ix 1 1 3do 1 ",
    "1 3j1 1 1 3j3 3 1 3ds 3 1 3dz 1 1 3e1 6 1 3ea 1 1 3ee 1 1 3eo 1 1 3ev 1 1 3f0 8 1 3go 3 1 ",
    "3h0 1 1 3ha 1 1 3hd 4 1 feo 1 1 fik 1 1 fex 1 1 h5n 1 1 fey 1 1 ffx 1 1 fez 1 1 n5e 1 1 fh5 ",
    "1 1 ffd 1 1 fep 1 1 hm1 1 1 h80 1 1 fju 2p 3 14 3cw 15 1 3 14 3cy 15 1 3 14 3cz 15 1 3 14 ",
    "3d1 15 1 3 14 3d2 15 1 3 14 3d3 15 1 3 14 3d5 15 1 3 14 3d7 15 1 3 14 3d8 15 1 3 14 3da 15 ",
    "1 3 14 3db 15 1 3 14 3dc 15 1 3 14 3dd 15 1 3 14 3de 15 1 3 14 xz4 15 1 3 14 yvs 15 1 3 14 ",
    "zc4 15 1 3 14 108s 15 1 3 14 10p4 15 1 3 14 115g 15 1 3 14 1224 15 1 3 14 12ys 15 1 3 14 ",
    "13f4 15 1 3 14 14bs 15 1 3 14 14s4 15 1 3 14 158g 15 1 3 14 15os 15 1 3 14 1654 15 1 3 14 ",
    "13p8 15 1 4 14 1350 13ic 15 1 4 14 1350 16f8 15 2 3 14 feo 15 1 3 14 fik 15 1 3 14 fex 15 1 ",
    "3 14 h5n 15 1 3 14 fis 15 1 3 14 g31 15 1 3 14 fer 15 1 3 14 g2z 15 1 3 14 fh9 15 1 3 14 ",
    "gg1 15 1 3 14 kco 15 1 3 14 m7f 15 1 3 14 ldg 15 1 3 14 kdk 15 1 3 14 ssx 15 1 3 14 h7j 15 ",
    "1 3 14 k4l 15 1 3 14 kkq 15 1 3 14 kcp 15 1 3 14 ny6 15 1 3 14 glp 15 1 3 14 mm1 15 1 3 14 ",
    "rs1 15 1 3 14 nz1 15 1 3 14 gc4 15 1 3 14 fkz 15 1 3 14 gos 15 1 3 14 i1y 15 1 3 14 nhf 15 ",
    "1 3 14 flt 15 1 3 14 rt3 15 1 3 14 ggk 15 1 3 14 nzh 15 1 3 14 fm9 15 1 3 14 pnu 15 1 3 14 ",
    "po3 15 1 1 gun 1 1 inw 1 1 k1z 1 1 oen 9 3 34 38 2t 1 2 1e 1d 1 2 1e 1e 1 2 1e 1f 1 2 1e 1g ",
    "1 2 1e 1h 1 2 1e 1i 1 2 1e 1j 1 2 1e 1k 1 2 1e 1l 1 2 1f 1c 1 2 1f 1d 1 2 1f 1e 1 2 1f 1f 1 ",
    "2 1f 1g 1 2 1f 1h 1 1 3cw 6 1 3d5 8 1 xz4 1 1 yvs 1 1 zc4 1 1 108s 1 1 10p4 1 1 115g 1 1 ",
    "1224 1 1 12ys 1 1 13f4 1 1 14bs 1 1 14s4 1 1 158g 1 1 15os 1 1 1654 1 2 14c8 y5c 1 2 13p8 ",
    "13dk 1 1 138w 2 1 feo 1 1 fik 1 1 fex 1 1 h5n 1 1 fis 1 1 g31 1 1 fer 1 1 g2z 1 1 fh9 1 1 ",
    "gg1 1 1 kco 1 1 m7f 1 1 ldg 1 1 kdk 1 1 ssx 1 1 h7j 1 1 k4l 1 1 kkq 1 1 kcp 1 1 ny6 1 1 glp ",
    "1 1 mm1 1 1 rs1 1 1 nz1 1 1 gc4 1 1 o2g 1 1 n5j 1 1 ho3 1 1 six 1 1 g16 1 1 ghc 1 1 lig 1 1 ",
    "u11 1 1 fm9 1 1 g49 1 1 l7n 1 1 fey 1 1 ffx 1 1 fez 1 1 ijq 1 1 gkz 1 1 gfv 1 1 i3b 1 1 i1y ",
    "1 1 nhf 1 1 flt 1 1 rt3 1 1 ggk 1 1 hlo 1 2 1f 1i 1 2 1f 1j 1 2 1f 1k 1 2 1f 1l 1 2 1g 1c 1 ",
    "2 1g 1d 1 2 1g 1e 1 2 1g 1f 1 2 1g 1g 1 2 1g 1h 1 2 1g 1i 1 2 1g 1j 1 2 1g 1k 1 2 1g 1l 1 2 ",
    "1h 1c 1 2 1d kco 1 2 1e kco 1 2 1f kco 1 2 1g kco 1 2 1h kco 1 2 1i kco 1 2 1j kco 1 2 1k ",
    "kco 1 2 1l kco 1 3 1d 1c kco 1 3 1d 1d kco 1 3 1d 1e kco 1 2 2w 2v 1 3 2t 36 2v 1 2 2t 3a 1 ",
    "3 30 38 2s 1 1 9lu 1 1 9lw 1 1 9ly 1 1 9m0 3 1 9m5 1 1 9m7 1 1 9m9 1 1 9mb 1 1 9md 1 1 9mf ",
    "1 1 9mh 1 1 9mj 1 1 9ml 1 1 9mn 1 1 9mp 1 1 9ms 1 1 9mu 1 1 9mw 7 1 9n6 1 1 9n9 1 1 9nc 1 1 ",
    "9nf 6 1 9no 1 1 9nq b 2 fl0 gp8 1 4 9lu 9n5 9oc 9mw 1 4 9lu 9nv 9n9 9lt 1 4 9lu 9o3 9ne 9lu ",
    "1 3 9lu 9oc 9nv 1 4 9lw 9mz 9o3 9m8 1 3 9lw 9o3 9mp 1 3 9ly 9m1 9o3 1 5 9m0 9mh 9m7 9oc 9mx ",
    "1 4 9m0 9oc 9m3 9oc 1 3 9m2 9o3 9mh 1 3 9m2 9oc 9nk 1 3 9m3 9lw 9nu 1 4 9m3 9nt 9mr 9mw 1 4 ",
    "9m3 9nx 9nu 9oc 1 3 9m4 9nx 9o3 1 3 9m4 9o3 9ni 1 2 9m6 9m4 1 3 9m6 9mz 9oc 1 4 9m5 9np 9nu ",
    "9oc 1 4 9m6 9nv 9mo 9oc 1 2 9m5 9nx 1 5 9m5 9nx 9m8 9nt 9nk 1 6 9m5 9nx 9nl 9oc 9mw 9nv 1 5 ",
    "9m5 9nx 9nz 9mr 9mw 1 3 9m8 9nt 9nk 1 5 9m8 9nt 9nk 9mw 9o3 1 5 9m7 9nv 9mk 9lw 9nx 1 4 9m7 ",
    "9nx 9oc 9n1 1 3 9m9 9oc 9mh 1 3 9mb 9nv 9my 1 3 9mb 9oc 9nh 1 4 9md 9lw 9m7 9nv 1 5 9md 9o3 ",
    "9mp 9oc 9nk 1 4 9mf 9nu 9o3 9m8 1 3 9mj 9o3 9mp 1 3 9mj 9o3 9mw 1 3 9mo 9oc 9mh 1 2 9mv 9mf ",
    "1 2 9mx 9nv 1 2 9mw 9o3 1 2 9my 9n2 1 3 9n2 9mr 9mw 1 3 9n3 9lw 9ms 1 5 9n5 9oc 9mj 9o3 9mw ",
    "1 3 9n5 9oc 9ms 1 4 9n4 9oc 9nw 9nv 1 5 9n8 9lu 9mh 9mw 9nv 1 3 9n8 9m7 9nv 1 2 9n8 9mb 1 2 ",
    "9n7 9nv 1 5 9n9 9lt 9nt 9mr 9mx 1 4 9n9 9lv 9oc 9mw 1 5 9na 9mr 9mf 9lz 9nv 1 3 9n9 9nt 9o3 ",
    "1 5 9nc 9m7 9mn 9oc 9nv 1 2 9ne 9ml 1 3 9ne 9mz 9n6 1 3 9nc 9nv 9ms 1 3 9ne 9o3 9mh 1 3 9ne ",
    "9oc 9mg 1 3 9nd 9oc 9mn 1 4 9nh 9lw 9o3 9mw 1 3 9ng 9nv 9mw 1 2 9nf 9o3 1 3 9nh 9o3 9mx 1 3 ",
    "9nf 9oc 9nv 1 3 9nf 9oc 9o3 1 4 9ni 9lw 9m7 9nx 1 3 9ni 9lw 9nv 1 3 9ni 9mr 9n3 1 3 9ni 9nv ",
    "9m7 1 5 9ni 9o3 9mf 9nr 9o3 1 4 9nj 9m7 9nx 9o3 1 2 9nj 9nu 1 5 9nj 9nu 9n4 9oc 9nv 1 2 9nl ",
    "9m4 1 4 9nl 9m4 9mw 9o3 1 4 9nl 9oc 9mw 9nv 1 3 9no 9oc 9mx 1 3 9no 9oc 9nv 1 3 9nq 9lu 9o3 ",
    "1 4 9nu 9mr 9mw 9nv 1 2 9nu 9nt 1 3 9nv 9n8 9oc 1 4 9nv 9oc 9na 9nv 1 2 9nw 9nk 1 5 9nw 9o3 ",
    "9mw 9ma 9o3 1 3 9nz 9mr 9mw 1 2 1c m9l 1 2 1d m9l 1 2 1e m9l 1 2 1f m9l 1 2 1g m9l 1 2 1h ",
    "m9l 1 2 1i m9l 1 2 1j m9l 1 2 1k m9l 1 2 1l m9l 1 3 1d 1c m9l 1 3 1d 1d m9l 1 3 1d 1e m9l 1 ",
    "3 1d 1f m9l 1 3 1d 1g m9l 1 3 1d 1h m9l 1 3 1d 1i m9l 1 3 1d 1j m9l 1 3 1d 1k m9l 1 3 1d 1l ",
    "m9l 1 3 1e 1c m9l 1 3 1e 1d m9l 1 3 1e 1e m9l 1 3 1e 1f m9l 1 3 1e 1g m9l 1 3 2w 34 2p 1 2 ",
    "2s 2p 1 2 2p 39 1 3 2q 2p 36 1 2 33 3a 1 2 34 2r 1 2 2s 31 1 3 2s 31 1e 1 3 2s 31 1f 1 2 2x ",
    "39 1 2 inn jdc 1 2 k6l gp8 1 2 hlz l7n 1 2 k5q lh7 1 4 kkq irz fmi ny6 1 2 34 2p 1 2 32 2p ",
    "1 2 qk 2p 1 2 31 2p 1 2 2z 2p 1 2 2z 2q 1 2 31 2q 1 2 2v 2q 1 3 2r 2p 30 1 4 2z 2r 2p 30 1 ",
    "2 34 2u 1 2 32 2u 1 2 qk 2u 1 2 qk 2v 1 2 31 2v 1 2 2z 2v 1 2 2w 3e 1 3 2z 2w 3e 1 3 31 2w ",
    "3e 1 3 2v 2w 3e 1 3 38 2w 3e 1 2 qk 30 1 2 31 30 1 2 2s 30 1 2 2z 30 1 2 2u 31 1 2 32 31 1 ",
    "2 qk 31 1 2 31 31 1 2 2r 31 1 2 2z 31 1 3 31 31 1e 1 3 2r 31 1e 1 2 31 1e 1 3 2z 31 1e 1 3 ",
    "31 31 1f 1 3 2r 31 1f 1 2 31 1f 1 3 2z 31 1f 1 3 31 6qd 37 1 4 31 6qd 37 1e 1 2 34 2p 1 3 ",
    "2z 34 2p 1 3 31 34 2p 1 3 2v 34 2p 1 3 36 2p 2s 1 5 36 2p 2s 6qd 37 1 6 36 2p 2s 6qd 37 1e ",
    "1 2 34 37 1 2 32 37 1 2 qk 37 1 2 31 37 1 2 34 3a 1 2 32 3a 1 2 qk 3a 1 2 31 3a 1 2 2z 3a 1 ",
    "2 31 3a 1 2 34 3b 1 2 32 3b 1 2 qk 3b 1 2 31 3b 1 2 2z 3b 1 2 31 3b 1 2 2z qx 1 2 31 qx 2 2 ",
    "2q 35 1 2 2r 2r 1 2 2r 2s 1 4 2r 6qd 2z 2v 2 2 2s 2q 1 2 2v 3d 1 2 2w 2p 1 2 2w 34 1 2 2x ",
    "32 1 2 2z 2z 1 2 2z 31 1 2 2z 38 1 2 30 31 1 2 30 32 1 3 30 33 2v 1 2 30 3c 1 2 31 2q 1 3 ",
    "31 2x 30 1 3 31 33 30 1 2 34 2w 2 3 34 34 31 1 2 34 36 1 2 37 36 1 2 37 3a 1 2 3b 2q 1 3 3a ",
    "6qd 31 1 3 2p 6qd 31 1 2 1d k4l 1 2 1e k4l 1 2 1f k4l 1 2 1g k4l 1 2 1h k4l 1 2 1i k4l 1 2 ",
    "1j k4l 1 2 1k k4l 1 2 1l k4l 1 3 1d 1c k4l 1 3 1d 1d k4l 1 3 1d 1e k4l 1 3 1d 1f k4l 1 3 1d ",
    "1g k4l 1 3 1d 1h k4l 1 3 1d 1i k4l 1 3 1d 1j k4l 1 3 1d 1k k4l 1 3 1d 1l k4l 1 3 1e 1c k4l ",
    "1 3 1e 1d k4l 1 3 1e 1e k4l 1 3 1e 1f k4l 1 3 1e 1g k4l 1 3 1e 1h k4l 1 3 1e 1i k4l 1 3 1e ",
    "1j k4l 1 3 1e 1k k4l 1 3 1e 1l k4l 1 3 1f 1c k4l 1 3 1f 1d k4l 1 3 2v 2p 30 mn1 1 ui 1 1 uk ",
    "5v 1 x2n d 1 5tl e 1 x3g 2 1 h1 t 1 h2 1 1 gs 1 1 gx 1 1 h8 1 1 h6 2 1 im 1 1 hz 1 1 il 1 1 ",
    "xub h 1 x3o 1 1 hu 1 1 5u6 5 1 h0 h 1 bf l 1 37 1 1 2r 1 1 2u 1 1 35 1 1 x6e 3 1 87 1 1 9f ",
    "o3 1 x0n 1 1 xtj 1 1 h7 1 1 xua a 1 i5 fbr 1 rpk 1 1 kc4 1 1 s7e 1 1 rt4 1 1 lw1 1 1 fg2 1 ",
    "1 gkl 1 1 vj0 1 1 vj0 1 1 hn5 1 1 ssx 1 1 gw7 1 1 hmw 1 1 jcm 1 1 ne1 1 1 p6t 1 1 qin 1 1 ",
    "qt6 1 1 r20 1 1 sjz 1 1 kxu 1 1 ljv 1 1 mah 1 1 mvy 1 1 q4d 1 1 sq2 1 1 uep 1 1 fia 1 1 ghh ",
    "1 1 l50 1 1 mjf 1 1 qi5 1 1 v8e 1 1 ifk 1 1 m3v 1 1 qfh 1 1 r50 1 1 jih 1 1 pnc 1 1 qvz 1 1 ",
    "iq2 1 1 kd3 1 1 lm2 1 1 mpo 1 1 slq 1 1 fpi 1 1 g53 1 1 gda 1 1 jwk 1 1 l3n 1 1 mj4 1 1 nhj ",
    "1 1 pa9 1 1 qh2 1 1 qjg 1 1 s1b 1 1 tv6 1 1 upb 1 1 v7e 1 1 nt8 1 1 nzz 1 1 otc 1 1 q15 1 1 ",
    "t1g 1 1 vb3 1 1 rfa 1 1 hjz 1 1 iro 1 1 okg 1 1 pdq 1 1 mle 1 1 nuy 1 1 rsy 1 1 ttj 1 1 hjs ",
    "1 1 i8y 1 1 kyb 1 1 lp6 1 1 lxr 1 1 oq7 1 1 oxj 1 1 tor 1 1 gcy 1 1 pe3 1 1 g64 1 1 g5o 1 1 ",
    "o4c 1 1 ou6 1 1 q29 1 1 tpx 1 1 rk0 1 1 jin 1 1 kxu 1 1 rge 1 1 fg9 1 1 i5j 1 1 iz6 1 1 mtj ",
    "1 1 n74 1 1 gev 1 1 nwb 1 1 fr3 1 1 iw9 1 1 ff1 1 1 lho 1 1 k1k 1 1 opu 1 1 gjn 1 1 hge 1 1 ",
    "ni9 1 1 q4p 1 1 re2 1 1 la2 1 1 sds 1 1 lfs 1 1 jjy 1 1 put 1 1 jog 1 1 n6t 1 1 fji 1 1 g2x ",
    "1 1 g5l 1 1 kn5 1 1 oo7 1 1 prj 1 1 rf6 1 1 ssv 1 1 gdx 1 1 gn6 1 1 ho3 1 1 ir0 1 1 k3p 1 1 ",
    "m4e 1 1 nxm 1 1 tkd 1 1 ui2 1 1 vbr 1 1 vda 1 1 gbf 1 1 kau 1 1 l87 1 1 sbm 1 1 ino 1 1 j9s ",
    "1 1 jcw 1 1 jve 1 1 lyb 1 1 mdl 1 1 n0p 1 1 o22 1 1 ovo 1 1 pdb 1 1 s9y 1 1 q9a 1 1 sgz 1 1 ",
    "t3e 1 1 g7r 1 1 gbn 1 1 gql 1 1 ma0 1 1 r0i 1 1 re2 1 1 iq1 1 1 iyd 1 1 jnf 1 1 l9q 1 1 oji ",
    "1 1 mt1 1 1 fl0 1 1 h6h 1 1 i5j 1 1 iii 1 1 izg 1 1 muq 1 1 mzt 1 1 p7e 1 1 pc6 1 1 svo 1 1 ",
    "tti 1 1 tvs 1 1 u1k 1 1 fpn 1 1 o1a 1 1 ss4 1 1 trs 1 1 j4x 1 1 fie 1 1 fyy 1 1 i5q 1 1 i7z ",
    "1 1 k2h 1 1 kxu 1 1 mha 1 1 ncy 1 1 q9o 1 1 sjg 1 1 vil 1 1 k94 1 1 tny 1 1 gax 1 1 kfv 1 1 ",
    "kj7 1 1 lkx 1 1 luk 1 1 mx5 1 1 n6h 1 1 nsb 1 1 opc 1 1 u3i 1 1 g31 1 1 je6 1 1 tq0 1 1 fu3 ",
    "1 1 ie1 1 1 lpm 1 1 sa2 1 1 ivf 1 1 j7o 1 1 kk7 1 1 mtj 1 1 tqe 1 1 g89 1 1 glr 1 1 i91 1 1 ",
    "k5v 1 1 kem 1 1 ko8 1 1 lid 1 1 mx2 1 1 naa 1 1 p6h 1 1 r0v 1 1 r1d 1 1 sss 1 1 tsy 1 1 gfz ",
    "1 1 lve 1 1 gm5 1 1 mhc 1 1 n14 1 1 qgq 1 1 tr7 1 1 uvr 1 1 vbz 1 1 kgn 1 1 lor 1 1 pns 1 1 ",
    "o97 1 1 obk 1 1 olu 1 1 mo0 1 1 m8p 1 1 riw 1 1 fk0 1 1 px2 1 1 g8q 1 1 g7b 1 1 ip2 1 1 jir ",
    "1 1 onq 1 1 i2t 1 1 ljy 1 1 kac 1 1 saj 1 1 qx8 1 1 tot 1 1 r63 1 1 iqb 1 1 g1s 1 1 gxs 3 1 ",
    "hga 2 1 k8k 3 1 g66 1 1 mqy 1 1 ngq 1 1 ny4 1 1 nz2 1 1 nz9 1 1 o0f 1 1 tw6 1 1 on2 1 1 p8d ",
    "2 1 qhe 2 1 rg8 3 1 shk 1 1 sn1 4 1 u7j 1 1 u7w 1 1 u94 1 1 v5g 1 1 sm6 1 1 trr 1 1 fqm 1 1 ",
    "fzb 1 1 g25 1 1 gcp 1 1 gdg 1 1 ggh 1 1 gwt 1 1 gzq 1 1 h2g 1 1 hfk 1 1 hig 1 1 i90 1 1 i9a ",
    "1 1 j2s 1 1 j8o 1 1 j9q 1 1 jci 1 1 k0f 1 1 k4i 1 1 k9d 1 1 kn9 1 1 lmf 1 1 lqy 1 1 lya 1 1 ",
    "mem 1 1 mjv 1 1 mxu 1 1 ntd 1 1 ny6 1 1 nyh 1 1 nyg 1 1 nyo 1 1 nyu 1 1 nz1 3 1 o5c 1 1 o75 ",
    "1 1 og0 1 1 ovo 1 1 ow9 1 1 oxt 1 1 p6a 1 1 pad 1 1 pnx 1 1 prt 1 1 prt 1 1 q53 1 1 r2o 1 1 ",
    "r6e 1 1 rgh 1 1 ri1 1 1 rtf 1 1 ruw 1 1 sdy 1 1 shk 1 1 tsz 1 1 u0v 1 1 u2j 1 1 j1x 1 1 ",
    "36cu 1 1 pp4 3 1 ffq 1 1 g51 1 1 g2w 1 1 fpc 1 1 g1x 1 1 g3k 1 1 gcn 1 1 ge2 1 1 gwt 1 1 ",
    "gut 1 1 gwp 1 1 gyq 1 1 hga 1 1 hir 1 1 hms 1 1 hn8 1 1 huq 1 1 i08 1 1 iqa 1 1 iqh 1 1 iuh ",
    "1 1 iwd 1 1 j4o 1 1 j7y 1 1 j60 1 1 j9q 1 1 j8g 1 1 jci 1 1 jec 1 1 jpg 1 1 jrw 1 1 jte 1 1 ",
    "k0m 1 1 k8k 1 1 kd3 1 1 kd7 1 1 keu 1 1 l89 1 1 la2 1 1 lkx 1 1 lwb 1 1 lvv 1 1 lya 1 1 m5a ",
    "1 1 mem 1 1 nmv 1 1 mk5 1 1 mnj 1 1 mqy 1 1 n01 1 1 n46 1 1 n5n 1 1 nbx 1 1 nbz 1 1 ngq 1 1 ",
    "nh7 1 1 nhw 1 1 nka 1 1 nk0 1 1 nv0 1 1 o8h 1 1 og0 1 1 ol7 1 1 orf 1 1 ovo 1 1 p4u 1 1 pad ",
    "1 1 pxu 1 1 q27 1 1 qrd 1 1 r41 1 1 r5y 1 1 r6e 1 1 ren 1 1 rg8 1 1 rez 1 1 rgh 1 1 rge 1 1 ",
    "rfx 1 1 ri1 1 1 rka 1 1 ruw 1 1 sag 1 1 sj6 1 1 srd 1 1 sxi 1 1 tq4 1 1 tsz 1 1 tw6 1 1 tzv ",
    "1 1 u0v 1 1 u17 1 1 u2j 1 1 umq 1 1 vj0 1 1 313e 1 1 3138 1 1 33dh 1 1 brx 1 1 cns 1 1 cop ",
    "1 1 39e1 1 1 3bgw 1 1 3i6r 1 1 vgj 1 1 vim 13 2 2u 2u 1 2 2u 2x 1 2 2u 30 1 3 2u 2u 2x 1 3 ",
    "2u 2u 30 1 2 37 38 1 2 37 38 d 2 12s 12u 1 2 12s 12d 1 2 12s 12j 1 2 132 12u 1 2 12s 12l 6 ",
    "2 15l 14k 2 2 16a 14n 1 1 15u 1 1 15c 6 1 160 1 1 162 1 1 17 1 2 161 14x 1 2 161 14y 1 3 ",
    "161 14s 14x 1 3 161 14s 14y 1 2 15c 14n 1 2 15c 14o 1 2 15c 14s 1 2 15d 14s 1 2 15e 14s 1 2 ",
    "15f 14s 1 2 15g 14s 1 2 15h 14s 1 2 15i 14s 2 2 15k 14s 1 2 15l 14s 1 2 15m 14s 1 2 15n 14s ",
    "1 2 15o 14s 2 2 15q 14s 2 2 15s 14s 1 2 15t 14s 2 2 15v 14s 1 2 15w 14s 2 2 15y 14s 1 2 15z ",
    "14s 1 2 160 14s 1 2 161 14s 1 2 162 14s 1 2 15h 14p 1 2 15d 14v 1 2 15n 14v 1 2 15w 14v 1 2 ",
    "15c 15o 1 1 19t 1 1 19t 1 1 1a3 1 1 1a3 1 1 1a3 1 1 1a3 1 1 1a6 1 1 1a6 5 1 1a8 1 1 1a8 1 1 ",
    "1a2 1 1 1a2 1 1 1a2 1 1 1a2 1 1 1a7 1 1 1a7 1 1 1a7 1 1 1a7 1 1 1a1 1 1 1a1 1 1 1a1 1 1 1a1 ",
    "1 1 1b8 1 1 1b8 5 1 1ba 1 1 1ba 1 1 1ac 1 1 1ac 1 1 1ac 1 1 1ac 1 1 1ab 1 1 1ab 1 1 1ab 1 1 ",
    "1ab 1 1 1ae 1 1 1ae 1 1 1ae 3 1 1af 1 1 1af 1 1 1af 1 1 1al 1 1 1al 5 1 1ag 1 1 1ag 1 1 1aw ",
    "1 1 1aw 1 1 1ap 1 1 1ap 1 1 1bd 1 1 1bd 1 1 1bd 1 1 1bd 1 1 1bj 1 1 1bj 1 1 1bj 1 1 1bj 1 1 ",
    "1bn 1 1 1bn 1 1 1bn 1 1 1bn 1 1 1bl 1 1 1bl 1 1 1bl 1 1 1bl 1 1 1bu 3 1 1bv 1 1 1bv 1 1 1bv ",
    "1 1 1c0 3 1 1c1 1 1 1c1 1 1 1c1 1 1 1by 1 1 1by 1 1 1by 1 1 1by 1 1 1ci 3 1 1cj y 1 1bh 1 1 ",
    "1bh 1 1 1bh 1 1 1bh 1 1 1c7 1 1 1c7 5 2 1c7 19w 1 1 1cb 1 1 1cb 1 1 1c5 1 1 1c5 1 1 1c9 1 1 ",
    "1c9 1 1 1cg 1 1 1cg 1 1 1cg 1 1 1cg 1 1 18p 1 1 18p 1 2 17q 17r 1 2 17q 17r 1 2 17q 1cl 1 2 ",
    "17q 1cl 1 2 17q 18o 1 2 17q 18o 1 2 17q 1c7 1 2 17q 1c7 1 2 17q 1c6 1 2 17q 1c6 1 2 17q 1c8 ",
    "1 2 17q 1c8 1 2 17q 1cg 1 2 17q 1cg 1 2 17q 1cg 1 2 17q 18p 1 2 17q 18p 1 2 17q 18p 1 1 1cc ",
    "1 1 1cc 1 1 1cc 1 1 1cc 1 2 17q 17w 1 2 17q 17x 1 2 17q 18l 1 2 17q 18p 1 2 17q 18q 1 2 17s ",
    "17w 1 2 17s 17x 1 2 17s 17y 1 2 17s 18l 1 2 17s 18p 1 2 17s 18q 1 2 17u 17w 1 2 17u 17x 1 2 ",
    "17u 17y 1 2 17u 18l 1 2 17u 18p 1 2 17u 18q 1 2 17v 17w 1 2 17v 18l 1 2 17v 18p 1 2 17v 18q ",
    "1 2 17w 17x 1 2 17w 18l 1 2 17x 17w 1 2 17x 18l 1 2 17y 17w 1 2 17y 17x 1 2 17y 18l 1 2 183 ",
    "17w 1 2 183 17x 1 2 183 17y 1 2 183 18l 1 2 185 17x 1 2 185 18l 1 2 186 17w 1 2 186 17x 1 2 ",
    "186 17y 1 2 186 18l 1 2 187 17x 1 2 187 18l 1 2 188 18l 1 2 189 17w 1 2 189 18l 1 2 18a 17w ",
    "1 2 18a 18l 1 2 18h 17w 1 2 18h 17x 1 2 18h 17y 1 2 18h 18l 1 2 18h 18p 1 2 18h 18q 1 2 18i ",
    "17x 1 2 18i 18l 1 2 18i 18p 1 2 18i 18q 1 2 18j 17r 1 2 18j 17w 1 2 18j 17x 1 2 18j 17y 1 2 ",
    "18j 18k 1 2 18j 18l 1 2 18j 18p 1 2 18j 18q 1 2 18k 17w 1 2 18k 17x 1 2 18k 17y 1 2 18k 18l ",
    "1 2 18k 18p 1 2 18k 18q 1 2 18l 17w 1 2 18l 17x 1 2 18l 17y 1 2 18l 18l 1 2 18l 18p 1 2 18l ",
    "18q 1 2 18m 17w 1 2 18m 17x 1 2 18m 17y 1 2 18m 18l 1 2 18m 18p 1 2 18m 18q 1 2 18n 17w 1 2 ",
    "18n 18l 1 2 18n 18p 1 2 18n 18q 1 2 18q 17w 1 2 18q 17x 1 2 18q 17y 1 2 18q 18l 1 2 18q 18p ",
    "1 2 18q 18q 1 2 180 19s 1 2 181 19s 1 2 18p 19s 1 3 w 18s 18x 1 3 w 18t 18x 1 3 w 18u 18x 1 ",
    "3 w 18v 18x 1 3 w 18w 18x 1 3 w 18x 19s 1 2 17q 181 1 2 17q 182 1 2 17q 18l 1 2 17q 18m 1 2 ",
    "17q 18p 1 2 17q 18q 1 2 17s 181 1 2 17s 182 1 2 17s 18l 1 2 17s 18m 1 2 17s 18p 1 2 17s 18q ",
    "1 2 17u 181 1 2 17u 182 1 2 17u 18l 1 2 17u 18m 1 2 17u 18p 1 2 17u 18q 1 2 17v 181 1 2 17v ",
    "182 1 2 17v 18l 1 2 17v 18m 1 2 17v 18p 1 2 17v 18q 1 2 18h 18p 1 2 18h 18q 1 2 18i 18p 1 2 ",
    "18i 18q 1 2 18j 17r 1 2 18j 18k 1 2 18j 18l 1 2 18j 18p 1 2 18j 18q 1 2 18k 18l 1 2 18k 18p ",
    "1 2 18k 18q 1 2 18l 17r 1 2 18l 18l 1 2 18m 181 1 2 18m 182 1 2 18m 18l 1 2 18m 18m 1 2 18m ",
    "18p 1 2 18m 18q 1 2 18p 19s 1 2 18q 181 1 2 18q 182 1 2 18q 18l 1 2 18q 18m 1 2 18q 18p 1 2 ",
    "18q 18q 1 2 17q 17w 1 2 17q 17x 1 2 17q 17y 1 2 17q 18l 1 2 17q 18n 1 2 17s 17w 1 2 17s 17x ",
    "1 2 17s 17y 1 2 17s 18l 1 2 17s 18n 1 2 17u 17w 1 2 17u 17x 1 2 17u 17y 1 2 17u 18l 1 2 17u ",
    "18n 1 2 17v 18l 1 2 17w 17x 1 2 17w 18l 1 2 17x 17w 1 2 17x 18l 1 2 17y 17w 1 2 17y 18l 1 2 ",
    "183 17w 1 2 183 17x 1 2 183 17y 1 2 183 18l 1 2 185 17x 1 2 185 17y 1 2 185 18l 1 2 186 17w ",
    "1 2 186 17x 1 2 186 17y 1 2 186 18l 1 2 187 17x 1 2 188 18l 1 2 189 17w 1 2 189 18l 1 2 18a ",
    "17w 1 2 18a 18l 1 2 18h 17w 1 2 18h 17x 1 2 18h 17y 1 2 18h 18l 1 2 18i 17x 1 2 18i 18l 1 2 ",
    "18j 17w 1 2 18j 17x 1 2 18j 17y 1 2 18j 18k 1 2 18j 18l 1 2 18k 17w 1 2 18k 17x 1 2 18k 17y ",
    "1 2 18k 18l 1 2 18k 18n 1 2 18l 17w 1 2 18l 17x 1 2 18l 17y 1 2 18l 18l 1 2 18m 17w 1 2 18m ",
    "17x 1 2 18m 17y 1 2 18m 18l 1 2 18m 18n 1 2 18n 17w 1 2 18n 18l 1 2 18n 19s 1 2 18q 17w 1 2 ",
    "18q 17x 1 2 18q 17y 1 2 18q 18l 1 2 18q 18n 1 2 17q 18l 1 2 17q 18n 1 2 17s 18l 1 2 17s 18n ",
    "1 2 17u 18l 1 2 17u 18n 1 2 17v 18l 1 2 17v 18n 1 2 183 18l 1 2 183 18n 1 2 184 18l 1 2 184 ",
    "18n 1 2 18j 18k 1 2 18j 18l 1 2 18k 18l 1 2 18m 18l 1 2 18m 18n 1 2 18q 18l 1 2 18q 18n 1 3 ",
    "18g 18u 18x 1 3 18g 18v 18x 1 3 18g 18w 18x 1 2 187 18p 1 2 187 18q 1 2 189 18p 1 2 189 18q ",
    "1 2 18a 18p 1 2 18a 18q 1 2 183 18p 1 2 183 18q 1 2 184 18p 1 2 184 18q 1 2 17x 18p 1 2 17x ",
    "18q 1 2 17w 18p 1 2 17w 18q 1 2 17y 18p 1 2 17y 18q 1 2 185 18p 1 2 185 18q 1 2 186 18p 1 2 ",
    "186 18q 1 2 184 17w 1 2 184 17x 1 2 184 17y 1 2 184 18l 1 2 184 181 1 2 183 181 1 2 185 181 ",
    "1 2 186 181 1 2 187 18p 1 2 187 18q 1 2 189 18p 1 2 189 18q 1 2 18a 18p 1 2 18a 18q 1 2 183 ",
    "18p 1 2 183 18q 1 2 184 18p 1 2 184 18q 1 2 17x 18p 1 2 17x 18q 1 2 17w 18p 1 2 17w 18q 1 2 ",
    "17y 18p 1 2 17y 18q 1 2 185 18p 1 2 185 18q 1 2 186 18p 1 2 186 18q 1 2 184 17w 1 2 184 17x ",
    "1 2 184 17y 1 2 184 18l 1 2 184 181 1 2 183 181 1 2 185 181 1 2 186 181 1 2 184 17w 1 2 184 ",
    "17x 1 2 184 17y 1 2 184 18l 1 2 183 18n 1 2 184 18n 1 2 187 18l 1 2 183 17w 1 2 183 17x 1 2 ",
    "183 17y 1 2 184 17w 1 2 184 17x 1 2 184 17y 1 2 187 18l 1 2 188 18l 1 2 17r 18r 1 2 17r 18r ",
    "j 3 17u 17w 18l 1 3 17u 17x 17w 1 3 17u 17x 17w 1 3 17u 17x 18l 1 3 17u 17y 18l 1 3 17u 18l ",
    "17w 1 3 17u 18l 17x 1 3 17u 18l 17y 1 3 17w 18l 17x 1 3 17w 18l 17x 1 3 17x 18l 18q 1 3 17x ",
    "18l 18p 1 3 183 17x 17w 1 3 183 17w 17x 1 3 183 17w 18p 1 3 183 18l 17x 1 3 183 18l 17x 1 3 ",
    "183 18l 17w 1 3 183 18l 18l 1 3 183 18l 18l 1 3 185 17x 17x 1 3 185 17x 17x 1 3 185 18l 18l ",
    "1 3 184 17x 18l 1 3 184 17x 18l 1 3 184 17w 18q 1 3 184 18l 17y 1 3 184 18l 17y 1 3 184 18l ",
    "18l 1 3 184 18l 18l 1 3 186 17x 18p 1 3 186 17y 18l 1 3 186 17y 18l 1 3 187 18l 17x 1 3 187 ",
    "18l 17x 1 3 187 18l 18l 1 3 187 18l 18q 1 3 189 17w 18l 1 3 189 18l 18l 1 3 189 18l 18l 1 3 ",
    "189 18l 18p 1 3 18a 18l 18l 1 3 18a 18l 18q 1 3 18a 18l 18p 1 3 18h 17y 18l 1 3 18h 17y 18l ",
    "1 3 18i 18l 17x 1 3 18i 18l 18l 1 3 18k 17x 18l 1 3 18k 17x 18q 1 3 18k 17x 18p 1 3 18k 17w ",
    "17w 1 3 18k 17w 17w 1 3 18k 17y 18l 1 3 18k 17y 18l 1 3 18k 18l 17x 1 3 18k 18l 17x 1 3 18l ",
    "17x 17w 1 3 18l 17x 18l 1 3 18l 17x 18q 1 3 18l 17w 17x 1 3 18l 17w 18l 1 3 18l 17y 17w 1 3 ",
    "18l 17y 18l 3 3 18l 17w 17y 1 3 18n 18l 17w 1 3 18n 18l 18l 1 3 18m 17x 18l 1 3 18m 17x 18p ",
    "1 3 18m 17w 18l 1 3 18m 17w 18l 1 3 18m 17w 18p 1 3 18m 18l 18q 1 3 18m 18l 18p 1 3 18q 18l ",
    "18l 1 3 18q 18l 18l 1 3 17s 17y 18q 1 3 17u 17w 18q 1 3 17u 17w 18p 1 3 17u 17y 18q 1 3 17u ",
    "17y 18p 1 3 17u 18l 18q 1 3 17u 18l 18p 1 3 17w 18l 18q 1 3 17w 17x 18p 1 3 17w 18l 18p 1 3 ",
    "183 17y 18p 1 3 185 17x 18q 1 3 184 17x 18q 1 3 186 17x 18q 1 3 18k 17w 18q 1 3 18k 18l 18q ",
    "1 3 18q 17x 18q 1 3 18q 17w 18q 1 3 18q 18l 18q 1 3 18l 18l 18q 1 3 18i 18l 18q 1 3 18m 17x ",
    "18q 1 3 18i 18l 17x 1 3 18k 17x 18l 1 3 189 18l 18q 1 3 18j 18l 18q 1 3 18m 17w 17x 1 3 18l ",
    "17y 18q 1 3 18k 17w 18l 1 3 18j 18l 18l 1 3 18k 17w 18l 1 3 18m 17w 17x 1 3 17w 17x 18q 1 3 ",
    "17x 17w 18q 1 3 18l 17w 18q 1 3 18h 18l 18q 1 3 17s 17x 18q 1 3 18j 18l 18l 1 3 189 17w 18l ",
    "1 3 185 18l 18l 1 3 183 17y 18q 1 3 18m 17w 18q 15 3 185 18k 1ci 1 3 18i 18k 1ci 1 4 17r ",
    "18k 18k 18n 1 4 17r 18j 17s 181 1 4 18l 17x 18l 17z 1 4 185 18k 189 18l 1 4 181 183 18o 18k ",
    "1 4 189 18k 18q 18n 1 4 18o 183 18k 18l 1 3 185 18k 18p 1 i 185 18k 18p w 17r 18k 18k 18n w ",
    "189 18k 18q 18n w 18o 183 18k 18l 1 8 17w 18k w 17w 18k 17r 18k 18n 1 4 181 1cc 17r 18k k 1 ",
    "18 1 1 9hd 4 1 x 1 1 1r r 1 6c4 1 1 6c3 1 1 2n 1 1 2n 3 1 3f 1 1 3h f 1 2j 1 1 2l 1 2 w lh ",
    "1 2 w lh 1 2 w lh 1 2 w lh 1 1 2n 1 1 2n 1 1 2n 1 1 18 1 1 9hd 3 1 1n 1 1 1m 1 1 1r 1 1 x 1 ",
    "1 6c4 3 1 3f 1 1 3h 3 1 z 1 1 12 3 1 19 1 1 1o 1 1 1q 1 1 1p 2 1 2k 3 1 1s 5 2 w 18r 1 2 ",
    "18g 18r 1 2 w 18s 2 2 w 18t 2 2 w 18u 1 2 18g 18u 1 2 w 18v 1 2 18g 18v 1 2 w 18w 1 2 18g ",
    "18w 1 2 w 18x 1 2 18g 18x 1 2 w 18y 1 2 18g 18y b 1 17q 1 1 17q 5 1 17s 1 1 17s 5 1 17u 1 1 ",
    "17u 3 1 17v 1 1 17v 3 1 17w 1 1 17w 3 1 17x 1 1 17x 3 1 17y 1 1 17y b 1 183 1 1 183 3 1 184 ",
    "1 1 184 3 1 185 1 1 185 3 1 186 1 1 186 3 1 187 1 1 187 3 1 188 1 1 188 3 1 189 1 1 189 3 1 ",
    "18a 1 1 18a 1 1 18a 1 1 18h 1 1 18h 1 1 18h 3 1 18i 1 1 18i 3 1 18j 1 1 18j 3 1 18k 1 1 18k ",
    "3 1 18l 1 1 18l 3 1 18m 1 1 18m 3 1 18n 1 1 18n 7 1 18q 1 1 18q 1 1 18q 1 2 18k 17m 1 2 18k ",
    "17m 1 2 18k 17n 1 2 18k 17n 1 2 18k 17p 1 2 18k 17p 1 2 18k 17r 1 2 18k 17r 2t 1 1a 3 1 9hd ",
    "1 1 9ob 1 1 9o2 1 1 9lt 1 1 9lv 1 1 9lx 1 1 9lz 1 1 9m1 1 1 9nn 1 1 9np 1 1 9nr 1 1 9mr 1 1 ",
    "9oc 1 1 9lu 1 1 9lw 1 1 9ly 1 1 9m0 3 1 9m5 1 1 9m7 1 1 9m9 1 1 9mb 1 1 9md 1 1 9mf 1 1 9mh ",
    "1 1 9mj 1 1 9ml 1 1 9mn 1 1 9mp 1 1 9ms 1 1 9mu 1 1 9mw 7 1 9n6 1 1 9n9 1 1 9nc 1 1 9nf 6 1 ",
    "9no 1 1 9nq 7 1 9nz 1 1 9o3 7 1 3cy 2 1 3hp a 1 3dm 4 1 3dt 1a 1 4s 1 2 w lg 1 1 4m 1 1 4l ",
    "1 1 6g9 2 1 7b6 5 1 7fk 1 1 7gr 147 1 1fp8 dq 1 6e 1 1 ih 1 1 gj 3 1 xuu 2 1 is 3 1 5u9 1 1 ",
    "go 1 1 gu 1 1 ix 1 1 h0 1 1 gy 1 1 gw 1 1 ij 1 1 87 1 1 ik 1 1 h3 1 1 hw 3 1 h8 1 1 2mmc 1 ",
    "1 x3i 1 1 ha 1 1 2mmd 1 1 i6 1 1 2mme 1 1 6w 3 1 35 1 1 hm 1 1 2mmg 3 1 hs 1 1 iw 1 1 iu 1 ",
    "1 xuv 1 1 iv 1 1 i0 1 1 8s1 2 1 i7 3 1 ig 4 1 2mmi 1 1 2mn2 13tw 2 2jx3 2jxh 1 2 2jx4 2jxh ",
    "1 3 2jx4 2jxh 2jxq 1 3 2jx4 2jxh 2jxr 1 3 2jx4 2jxh 2jxs 1 3 2jx4 2jxh 2jxt 1 3 2jx4 2jxh ",
    "2jxu 2f 2 2jzt 2jxh 1 2 2jzu 2jxh 1 3 2jzt 2jxh 2jxq 1 3 2jzu 2jxh 2jxq 1 3 2jzt 2jxh 2jxr ",
    "1 3 2jzu 2jxh 2jxr kf 1 2s 3 1 2v 4k 1 33 9q 1 8h 1 1 fr k 1 qg 8 1 6pz i 1 qr 8 1 6pu 1 1 ",
    "qd 1 1 qg 1 1 qi 1 1 qu 1 1 qp 1 1 qo i 1 qg 8 1 6pz i 1 qr 8 1 6pu 1 1 qd 1 1 qg 1 1 qi 1 ",
    "1 qu 1 1 qp 1 1 qo i 1 qg 8 1 6pz i 1 qr 8 1 6pu 1 1 qd 1 1 qg 1 1 qi 1 1 qu 1 1 qp 1 1 qo ",
    "i 1 qg 8 1 6pz i 1 qr 8 1 6pu 1 1 qd 1 1 qg 1 1 qi 1 1 qu 1 1 qp 1 1 qo i 1 qg 8 1 6pz i 1 ",
    "qr 8 1 6pu 1 1 qd 1 1 qg 1 1 qi 1 1 qu 1 1 qp 1 1 qo 1 1 rh 1 1 rh 1oc 1 uj 3 1 ww9 1 1 yh ",
    "1 1 uu 1 1 uw 1 1 yx 1 1 xb 1 1 y7 e 1 u9 9 1 wh 1 1 uu 1 1 ut 1 1 v3 1 1 x7 1 1 wup 1 1 xd ",
    "2ol 1 17w 1 1 17z 2 1 18o 1 1 182 1 1 17x 1 1 187 1 1 18q 5 1 183 1 1 189 1 1 18h 1 1 185 1 ",
    "1 18i 1 1 181 1 1 184 3 1 17y 1 1 180 1 1 186 1 1 188 1 1 18a 1 1 19q 1 1 1bu 1 1 1b5 1 1 ",
    "19r 2 1 17s 1 1 17w 2 1 18n 3 1 17x 2 1 18q 5 1 183 1 1 189 1 1 18h 1 1 185 1 1 18i 2 1 184 ",
    "3 1 17y 2 1 186 2 1 18a 7 1 17w 5 1 17x 2 1 18q 5 1 183 1 1 189 2 1 185 1 1 18i 2 1 184 3 1 ",
    "17y 2 1 186 2 1 18a 2 1 1bu 2 1 19r 2 1 17s 1 1 17w 2 1 18n 3 1 17x 1 1 187 1 1 18q 4 1 18m ",
    "1 1 183 1 1 189 1 1 18h 1 1 185 1 1 18i 2 1 184 3 1 17y 2 1 186 1 1 188 1 1 18a 1 1 19q 2 1 ",
    "1b5 4 1 17w 1 1 17z 3 1 182 1 1 17x 1 1 187 1 1 18q 5 1 183 1 1 189 1 1 18h 1 1 185 1 1 18i ",
    "1 1 181 1 1 184 3 1 17y 1 1 180 1 1 186 1 1 188 1 1 18a 6 1 17s 1 1 17w 1 1 17z 2 1 18o 1 1 ",
    "182 1 1 17x 1 1 187 1 1 18q 5 1 183 1 1 189 1 1 18h 1 1 185 1 1 18i 1 1 181 1 1 184 3 1 17y ",
    "1 1 180 1 1 186 1 1 188 1 1 18a g6 2 1c 18 1 2 1d 18 1 2 1e 18 1 2 1f 18 1 2 1g 18 1 2 1h ",
    "18 1 2 1i 18 1 2 1j 18 1 2 1k 18 1 2 1l 18 6 3 14 2p 15 1 3 14 2q 15 1 3 14 2r 15 1 3 14 2s ",
    "15 1 3 14 2t 15 1 3 14 2u 15 1 3 14 2v 15 1 3 14 2w 15 1 3 14 2x 15 1 3 14 2y 15 1 3 14 2z ",
    "15 1 3 14 30 15 1 3 14 31 15 1 3 14 32 15 1 3 14 33 15 1 3 14 34 15 1 3 14 35 15 1 3 14 36 ",
    "15 1 3 14 37 15 1 3 14 38 15 1 3 14 39 15 1 3 14 3a 15 1 3 14 3b 15 1 3 14 3c 15 1 3 14 3d ",
    "15 1 3 14 3e 15 1 3 9hw 37 9hx 1 1 2r 1 1 36 1 2 2r 2s 1 2 3b 3e s 2 2w 3a 1 2 31 3a 1 2 37 ",
    "2s 1 2 37 37 1 3 34 34 3a 1 2 3b 2r r 2 31 2r 1 2 31 2s 1 2 31 36 10 2 2s 2y 34 2 9kr 9jf 1 ",
    "2 9mb 9mb 1 1 9md e 1 jez 1 1 i1j 1 1 gjw 1 1 9mv 1 1 fik 1 1 hlm 1 1 r8j 1 1 hm1 1 1 fj8 1 ",
    "1 k68 1 1 mch 1 1 k2h 1 1 g99 1 1 ivg 1 1 g3x 1 1 k34 1 1 g7x 1 1 oqq 1 1 n4v 1 1 rs9 1 1 ",
    "hkg 1 1 gmx 1 1 lxw 1 1 jh1 1 1 jmd 1 1 feo 1 1 fex 1 1 si2 1 1 ijq 1 1 ffx 1 1 gkz 1 1 jk7 ",
    "1 1 rxs 1 1 jf7 1 1 o01 1 1 o6y 1 1 glk 1 1 lts 1 1 kcp 1 1 kco 1 1 n5f 1 1 gaa 1 1 gxi 1 1 ",
    "sp9 5 3 9hw kdo 9hx 1 3 9hw fex 9hx 1 3 9hw fik 9hx 1 3 9hw i2x 9hx 1 3 9hw m9l 9hx 1 3 9hw ",
    "jf7 9hx 1 3 9hw nh3 9hx 1 3 9hw gd9 9hx 1 3 9hw k0n 9hx 8 1 ivr 1 1 gkv 1fov 1 fgd 1 1 fg8 ",
    "1 1 fgh 1 1 2tcy 1 1 fog 1 1 fqm 1 1 fqz 1 1 fsy 1 1 fwa 1 1 fx5 1 1 fzb 1 1 fyn 1 1 ae6 1 ",
    "1 2ud6 1 1 g25 1 1 g2c 1 1 g2s 1 1 g3b 1 1 2u58 1 1 aex 1 1 g2v 1 1 g3x 1 1 2u6j 1 1 g47 1 ",
    "1 g4k 1 1 fkc 1 1 g4s 1 1 g51 1 1 3ly7 1 1 g6t 1 1 g77 1 1 afz 1 1 g8r 1 1 g92 1 1 gaa 1 1 ",
    "gaf 1 1 ahh 1 1 gcn 1 1 gcp 1 1 gdg 1 1 ge2 3 1 gev 1 1 gg9 1 1 ggh 1 1 ggq 1 1 ghf 2 1 ghr ",
    "2 1 ghr 1 1 2v58 1 1 m7k 1 1 gju 1 1 gkf 1 1 2vdv 1 1 gkr 1 1 gkx 1 1 gli 1 1 gpq 1 1 gmw 1 ",
    "1 gnc 1 1 go8 1 1 gpu 1 1 gs6 1 1 gsw 1 1 gur 1 1 gv7 1 1 gw4 1 1 gw4 1 1 gwp 1 1 gx7 1 1 ",
    "gxf 1 1 gxu 1 1 h7a 1 1 gzq 1 1 h7b 1 1 h1t 1 1 h2s 1 1 g7b 1 1 hke 1 1 hce 1 1 hdg 1 1 he5 ",
    "1 1 haj 1 1 hf6 1 1 hf5 1 1 hik 1 1 2x9g 1 1 hki 1 1 hkn 1 1 hl2 1 1 hlm 1 1 hlu 1 1 hnm 1 ",
    "1 2xm0 1 1 2xnu 1 1 hrg 1 1 hsr 1 1 ht3 1 1 hqw 1 1 huu 1 1 aum 1 1 av0 1 1 hzc 1 1 i0u 1 1 ",
    "i0u 1 1 2y88 1 1 i4j 1 1 i54 1 1 i5j 1 1 i5v 1 1 2yhk 1 1 i67 1 1 i6e 1 1 itv 1 1 i76 1 1 ",
    "ayp 1 1 i8w 1 1 i9a 1 1 ibk 1 1 ia5 2 1 if7 2 1 ige 1 1 igb 1 1 igs 3 1 b3j 1 1 ikd 1 1 ilk ",
    "1 1 im5 1 1 ind 1 1 b4y 1 1 2zr7 1 1 b5o 1 1 ipc 1 1 ipf 1 1 ipi 1 1 iq2 1 1 3pg2 1 1 iri 1 ",
    "1 3035 1 1 3035 1 1 poh 1 1 isi 1 1 isi 1 1 b7r 1 1 335k 1 1 3cgq 1 1 iua 1 1 iuj 1 1 b8j 1 ",
    "1 ivu 1 1 ix9 1 1 ixj 1 1 iyh 1 1 j29 1 1 bay 1 1 ba4 1 1 j2s 1 1 30t0 1 1 j47 1 1 j7s 1 1 ",
    "j7w 1 1 j7y 1 1 j7w 1 1 j96 1 1 j9q 1 1 jaq 1 1 jac 1 1 jan 1 1 jby 1 1 jci 1 1 jcm 1 1 jdc ",
    "1 1 jdn 1 1 jfh 1 1 jht 1 1 jis 1 1 jm8 1 1 31n0 1 1 jlp 1 1 jjw 1 1 jmw 1 1 jnn 1 1 jqc 1 ",
    "1 31td 1 1 js2 1 1 jph 1 1 jop 1 1 bhq 1 1 ju1 1 1 jum 1 1 jvh 1 1 juf 1 1 bjg 1 1 k0f 1 1 ",
    "k18 1 1 32mi 1 1 k4j 1 1 kc8 1 1 k7d 1 1 bo9 1 1 k9d 1 1 bns 1 1 bms 1 1 g42 1 1 g45 1 1 ",
    "kcg 1 1 k9o 1 1 pf1 1 1 deh 1 1 kd3 1 1 kd7 1 1 kdd 1 1 kf2 1 1 ker 1 1 33cz 1 1 bpl 1 1 ",
    "kje 1 1 kg5 1 1 klu 1 1 kn9 1 1 33hp 1 1 kni 1 1 kkf 1 1 kr8 1 1 brx 1 1 ksi 1 1 kv7 1 1 ",
    "kx6 1 1 l2g 1 1 33xf 1 1 l3v 1 1 bvc 1 1 l5t 1 1 34br 1 1 l78 1 1 bwu 1 1 l82 1 1 l9b 3 1 ",
    "34p9 1 1 2yvf 1 1 34sa 1 1 le6 1 1 354s 1 1 lhb 1 1 lhp 1 1 lev 1 1 ljq 1 1 lku 1 1 lmf 1 1 ",
    "lkx 1 1 lm1 1 1 lmg 1 1 lmt 1 1 357i 1 1 lkk 1 1 lrj 1 1 lta 1 1 c37 1 1 lvv 1 1 lvr 1 1 ",
    "35jl 1 1 lq1 1 1 m0e 1 1 35ni 1 1 35ou 1 1 m2u 1 1 m61 1 1 m5a 1 1 m57 1 1 c5y 1 1 m6i 1 1 ",
    "m7x 1 1 m7r 1 1 m99 1 1 2u5h 1 1 mdh 1 1 368z 1 1 mfw 1 1 36i3 1 1 mjs 1 1 mk5 1 1 mkw 1 1 ",
    "36yw 1 1 mm8 1 1 mmt 1 1 3779 1 1 37dg 1 1 mt6 1 1 mtn 1 1 cdo 1 1 mud 1 1 ce0 1 1 ce0 1 1 ",
    "myv 1 1 mzg 1 1 n01 1 1 n0l 1 1 n2i 1 1 cgr 1 1 n50 1 1 386u 1 1 n5q 1 1 389e 1 1 n74 1 1 ",
    "2zrz 1 1 nbk 1 1 38v5 1 1 38vs 1 1 38zo 1 1 cn0 1 1 cnc 1 1 nhw 1 1 394j 1 1 394i 1 1 395l ",
    "1 1 396b 3 1 nj3 1 1 nka 1 1 cop 1 1 nm3 1 1 cp2 1 1 cra 1 1 39r1 1 1 nri 1 1 nt8 1 1 nv0 1 ",
    "1 ctf 1 1 3a5i 1 1 nyu 1 1 3a8q 1 1 3a9x 1 1 o0f 1 1 o2z 1 1 cvj 1 1 o5c 1 1 o5m 1 1 o5r 1 ",
    "1 3at8 1 1 3b1j 1 1 3b1j 1 1 oa6 1 1 d1e 1 1 3b8r 1 1 og6 1 1 og9 1 1 d2f 1 1 3beo 1 1 onm ",
    "1 1 d5s 1 1 oo8 1 1 oo3 1 1 oow 1 1 3c06 1 1 orn 1 1 d8h 1 1 ouf 1 1 ow2 1 1 oxx 1 1 d9w 1 ",
    "1 3ciw 1 1 3cjr 1 1 dax 1 1 3cnt 1 1 p6i 1 1 3cqm 1 1 p79 1 1 pa2 1 1 pad 1 1 3d22 1 1 3d43 ",
    "1 1 pcw 1 1 3d7s 1 1 pdc 1 1 33a7 1 1 ded 1 1 pf6 1 1 phf 1 1 dfv 1 1 pj2 1 1 hx1 1 1 3dlz ",
    "1 1 3dmd 1 1 33bn 1 1 33bw 1 1 poh 1 1 pok 1 1 sda 1 1 dij 1 1 psh 1 1 psb 1 1 pst 1 1 gc3 ",
    "1 1 ptd 1 1 ptf 1 1 ptp 1 1 puu 1 1 3ebg 1 1 put 1 1 pwd 1 1 pyb 1 1 q0d 1 1 pwj 1 1 q0t 1 ",
    "1 q1z 1 1 q53 1 1 pxv 1 1 q16 1 1 q18 1 1 q1o 1 1 3eie 1 1 3eqz 1 1 3emt 1 1 dnv 1 1 q9d 1 ",
    "1 q9f 1 1 qae 1 1 3g0a 1 1 qck 1 1 3f3g 1 1 dp9 1 1 dpd 1 1 3f75 1 1 3ff6 1 1 dpn 1 1 qj4 1 ",
    "1 qjg 1 1 qjr 1 1 qjt 1 1 qll 1 1 qko 1 1 qoe 1 1 qn6 1 1 qrd 1 1 qp4 1 1 qqz 1 1 qrq 1 1 ",
    "dsn 1 1 qu9 1 1 qv5 1 1 dtl 1 1 qxs 1 1 qxv 1 1 3giv 1 1 r13 1 1 r1a 1 1 dv9 1 1 r22 1 1 ",
    "aez 1 1 3gz2 1 1 3h46 1 1 dz2 1 1 dzb 1 1 rds 1 1 rfx 1 1 rka 1 1 rpx 1 1 3hrc 1 1 rsb 1 1 ",
    "rsx 1 1 rvf 1 1 rxz 1 1 3i9b 1 1 2upw 1 1 s0b 1 1 rzw 1 1 s1c 1 1 2uvy 1 1 s7o 1 1 sag 1 1 ",
    "3jki 1 1 3jl9 1 1 sk4 1 1 smp 1 1 snl 1 1 3ju6 1 1 snv 1 1 svs 3 1 sxo 1 1 t89 1 1 t91 1 1 ",
    "3ksa 1 1 tjf 1 1 ej9 1 1 tkn 1 1 3l2v 1 1 eli 1 1 ts3 1 1 iia 1 1 tur 1 1 3ltx 1 1 3lzu 1 1 ",
    "epa 1 1 epi 1 1 u00 1 1 3mdm 1 1 er6 1 1 3mhi 1 1 u17 1 1 u17 1 1 u21 1 1 3mpi 1 1 u76 1 1 ",
    "eur 1 1 u95 1 1 ucn 1 1 ude 1 1 uf2 1 1 ez2 1 1 3nsg 1 1 umq 1 1 uv4 1 1 v0d 1 1 f66 1 1 ",
    "f71 1 1 v3b 1 1 3owe 1 1 f7c 1 1 3oxx 1 1 3p5a 1 1 3p8x 1 1 vcr 1 1 f9y 1 1 veh 1 1 vem 1 1 ",
    "vet 1 1 vf3 1 1 vfa 1 1 vgb 1 1 3pxc "]

/-- What a code point beyond ASCII is replaced by, if it is. -/
def replacement? (n : Nat) : Option (List Nat) :=
  match shifts.findSome? (Shift.image? · n) with
  | some m => some [m]
  | none => replacements.lookup n

end PayLink.Unicode
