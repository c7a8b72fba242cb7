import PayLink.Text.Runs
/-!
# Composed text

A letter with marks can be written as one character or as several. Composed text has the one
character wherever there is one, and marks that do not touch each other in a fixed order. A text is
composed by taking all characters apart, putting the marks in order and putting characters together
again. The tables cover the characters that domain names may have.
-/

namespace PayLink.Unicode

open PayLink.Text

/-- Reads compositions from numbers, three for each: the distance of the composed code point from
the one before, and the two code points that make it. -/
def compositionsOfNumbers (place : Nat) : List Nat → List (Nat × Nat × Nat)
  | gap :: first :: second :: rest =>
    (place + gap, first, second) :: compositionsOfNumbers (place + gap) rest
  | _ => []

/-- The composed code points, each with the two that make it. -/
def compositions : List (Nat × Nat × Nat) :=
  compositionsOfNumbers 0 <| Array.toList <| Numerals.ofLines [
    "68 2p lc 1 2p ld 1 2p le 1 2p lf 1 2p lk 1 2p lm 2 2r mf 1 2t lc 1 2t ld 1 2t le 1 2t lk 1 ",
    "2x lc 1 2x ld 1 2x le 1 2x lk 2 32 lf 1 33 lc 1 33 ld 1 33 le 1 33 lf 1 33 lk 3 39 lc 1 39 ",
    "ld 1 39 le 1 39 lk 1 3d ld 2 3d lk 2 2p lg 2 2p li 2 2p mg 2 2r ld 2 2r le 2 2r lj 2 2r lo ",
    "2 2s lo 4 2t lg 2 2t li 2 2t lj 2 2t mg 2 2t lo 2 2v le 2 2v li 2 2v lj 2 2v mf 2 2w le 4 ",
    "2x lf 2 2x lg 2 2x li 2 2x mg 6 2y le 2 2z mf 3 30 ld 2 30 mf 2 30 lo 6 32 ld 2 32 mf 2 32 ",
    "lo 5 33 lg 2 33 li 2 33 ln 4 36 ld 2 36 mf 2 36 lo 2 37 ld 2 37 le 2 37 mf 2 37 lo 2 38 mf ",
    "2 38 lo 4 39 lf 2 39 lg 2 39 li 2 39 lm 2 39 ln 2 39 mg 2 3b le 2 3d le 3 3e ld 2 3e lj 2 ",
    "3e lo z 33 m3 f 39 m3 u 2p lo 2 2x lo 2 33 lo 2 39 lo 2 70 lg 2 70 ld 2 70 lo 2 70 lc 3 6c ",
    "lg 2 fb lg 2 6e lg 4 2v lo 2 2z lo 2 33 mg 2 dn lg 2 ia lo 1 2y lo 5 2v ld 4 32 lc 2 6d ld ",
    "2 6e ld 2 6w ld 2 2p lr 2 2p lt 2 2t lr 2 2t lt 2 2x lr 2 2x lt 2 33 lr 2 33 lt 2 36 lr 2 ",
    "36 lt 2 39 lr 2 39 lt 2 37 me 2 38 me 4 2w lo 8 2p lj 2 2t mf 2 6u lg 2 6t lg 2 33 lj 2 fj ",
    "lg 2 3d lg 9p qy ld s q9 ld 1 qd ld 1 qf ld 1 qh ld 1 qz ld q qh lk 1 qt lk 1 qn ld 1 qt ld ",
    "1 qx ld 2z u0 li n tx lc 1 tx lk 2 tv ld 4 uu lk 5 u2 ld 1 u0 lc 1 ub li p vp lr 23 ty li f ",
    "ts li 2 ts lk 4 tx li 4 yh lk 2 ty lk 2 tz lk 4 u0 lg 2 u0 lk 2 u6 lk 4 yx lk 2 ul lk 2 ub ",
    "lg 2 ub lk 2 ub ln 2 uf lk 4 uj lk 89 17r 18z 1 17r 190 1 18o 190 1 17r 191 1 18q 190 4a ",
    "1cl 190 2 1c1 190 h 1ci 190 gm 1t4 1to 8 1tc 1to 3 1tf 1to 47 1xj 1xa 1 1xj 1xz ak 287 28m ",
    "3 287 27y 1 287 28n 20 2aa 2c7 1i 2bq 2bi 1 2br 2bi 1 2bq 2c7 3g 2fa 2fq 3c 2in 2j9 7 2iu ",
    "2j9 1 2iu 2ja 2 2iu 2iq 1 2iy 2j9 3j 2me 2m6 1 2mf 2m6 1 2me 2mv 3y 2qh 2q2 2 2qh 2q7 1 2qk ",
    "2q2 1 2qh 2qn g8 36t 372 25c 5c5 5dh 2 5c7 5dh 2 5c9 5dh 2 5cb 5dh 2 5cd 5dh 4 5ch 5dh 15 ",
    "5dm 5dh 2 5do 5dh 3 5dq 5dh 1 5dr 5dh 2 5du 5dh ji 2p md 2 2q lj 2 2q mb 2 2q mp 2 6f ld 2 ",
    "2s lj 2 2s mb 2 2s mp 2 2s mf 2 2s ml 2 7n lc 2 7n ld 2 2t ml 2 2t mo 2 fd li 2 2u lj 2 2v ",
    "lg 2 2w lj 2 2w mb 2 2w lk 2 2w mf 2 2w mm 2 2x mo 2 6n ld 2 2z ld 2 2z mb 2 2z mp 2 30 mb ",
    "2 5yv lg 2 30 mp 2 30 ml 2 31 ld 2 31 lj 2 31 mb 2 32 lj 2 32 mb 2 32 mp 2 32 ml 2 6t ld 2 ",
    "6t lk 2 99 lc 2 99 ld 2 34 ld 2 34 lj 2 36 lj 2 36 mb 2 5zv lg 2 36 mp 2 37 lj 2 37 mb 2 9n ",
    "lj 2 9t lj 2 603 lj 2 38 lj 2 38 mb 2 38 mp 2 38 ml 2 39 mc 2 39 mo 2 39 ml 2 a1 ld 2 a3 lk ",
    "2 3a lf 2 3a mb 2 3b lc 2 3b ld 2 3b lk 2 3b lj 2 3b mb 2 3c lj 2 3c lk 2 3d lj 2 3e le 2 ",
    "3e mb 2 3e mp 1 2w mp 1 38 lk 1 3b lm 1 3d lm 8 2p mb 2 2p ll 2 6a ld 2 6a lc 2 6a ll 2 6a ",
    "lf 2 61t le 2 77 ld 2 77 lc 2 77 ll 2 77 lf 2 61t li 2 2t mb 2 2t ll 2 2t lf 2 6i ld 2 6i ",
    "lc 2 6i ll 2 6i lf 2 62h le 2 2x ll 2 2x mb 2 33 mb 2 33 ll 2 6s ld 2 6s lc 2 6s ll 2 6s lf ",
    "2 631 le 2 bl ld 2 bl lc 2 bl ll 2 bl lf 2 bl mb 2 39 mb 2 39 ll 2 c0 ld 2 c0 lc 2 c0 ll 2 ",
    "c0 lf 2 c0 mb 2 3d lc 2 3d mb 2 3d ll 2 3d lf 7 q9 lv 1 q9 lw 1 64g lc 1 64h lc 1 64g ld 1 ",
    "64h ld 1 64g n6 1 64h n6 9 qd lv 1 qd lw 1 64w lc 1 64x lc 1 64w ld 1 64x ld b qf lv 1 qf ",
    "lw 1 65c lc 1 65d lc 1 65c ld 1 65d ld 1 65c n6 1 65d n6 9 qh lv 1 qh lw 1 65s lc 1 65t lc ",
    "1 65s ld 1 65t ld 1 65s n6 1 65t n6 9 qn lv 1 qn lw 1 668 lc 1 669 lc 1 668 ld 1 669 ld b ",
    "qt lv 1 qt lw 1 66o lc 1 66p lc 1 66o ld 1 66p ld 1 66o n6 1 66p n6 9 qx lv 1 qx lw 1 674 ",
    "lc 1 675 lc 1 674 ld 1 675 ld 1 674 n6 1 675 n6 9 q9 lc 2 qd lc 2 qf lc 2 qh lc 2 qn lc 2 ",
    "qt lc 2 qx lc 1g q9 li 1 q9 lg 5 q9 n6 g qf n6 a qh li 1 qh lg 1 qy lc 4 qh n6 1 qy n6 9 qt ",
    "li 1 qt lg 1 qz lc 2 qp lv 1 qp lw 1 qt n6 1 qz n6 f qx n6 bo 6mo mw 1 6mq mw j 6ms mw v ",
    "6og mw 1 6ok mw 1 6oi mw 1h 6pv mw 5 6q0 mw 3 6q3 mw o 6qr mw 2 6qt mw r 6rg mw 3 6rn mw 3 ",
    "6rp mw 2 6rs mw n 1p mw 2 6sh mw b 6rx mw 1 1o mw 1 1q mw 1 6sk mw 1 6sl mw 3 6sy mw 1 6sz ",
    "mw 3 6t2 mw 1 6t3 mw 7 6t6 mw 1 6t7 mw 3 6te mw 1 6tf mw 3 6ti mw 1 6tj mw z 6ua mw 1 6ug ",
    "mw 1 6uh mw 1 6uj mw 1d 6t8 mw 1 6t9 mw 1 6tt mw 1 6tu mw 7 6uq mw 1 6ur mw 1 6us mw 1 6ut ",
    "mw 2n3 9jf 9ll 2 9jh 9ll 2 9jj 9ll 2 9jl 9ll 2 9jn 9ll 2 9jp 9ll 2 9jr 9ll 2 9jt 9ll 2 9jv ",
    "9ll 2 9jx 9ll 2 9jz 9ll 2 9k1 9ll 3 9k4 9ll 2 9k6 9ll 2 9k8 9ll 7 9kf 9ll 1 9kf 9lm 2 9ki ",
    "9ll 1 9ki 9lm 2 9kl 9ll 1 9kl 9lm 2 9ko 9ll 1 9ko 9lm 2 9kr 9ll 1 9kr 9lm n 9ja 9ll a 9lp ",
    "9ll e 9m3 9ll 2 9m5 9ll 2 9m7 9ll 2 9m9 9ll 2 9mb 9ll 2 9md 9ll 2 9mf 9ll 2 9mh 9ll 2 9mj ",
    "9ll 2 9ml 9ll 2 9mn 9ll 2 9mp 9ll 3 9ms 9ll 2 9mu 9ll 2 9mw 9ll 7 9n3 9ll 1 9n3 9lm 2 9n6 ",
    "9ll 1 9n6 9lm 2 9n9 9ll 1 9n9 9lm 2 9nc 9ll 1 9nc 9lm 2 9nf 9ll 1 9nf 9lm n 9ly 9ll 3 9nz ",
    "9ll 1 9o0 9ll 1 9o1 9ll 1 9o2 9ll 4 9od 9ll 1617 1fpu lj r 1fq2 lj 246 1huh 1hve 2 1huj ",
    "1hve f 1hut 1hve 3n 1hyp 1hyf 1 1hyq 1hyf f0 1idj 1ida 1 1idj 1idz 1j 1if6 1ih5 2 1if8 1igr ",
    "9 1iff 1igy 3 1ifk 1ih5 1g 1igy 1igy 2 1igy 1igo 1 1igy 1ih5 6r 1int 1inu 1 1int 1ink 2 ",
    "1int 1inx 70 1iuw 1iun 1 1iux 1iun ot 1jjp 1jjk e7d 1xr2 1xr2 1 1xr2 1xrd 1 1xr2 1xr3 1 ",
    "1xrd 1xr3 1 1xr2 1xr4 1 1xr5 1xr3 1 1xr6 1xr3 1 1xr5 1xr4 2f4 206f 206f 1 206b 206f 1 206h ",
    "206f "]

/-- The classes of the combining marks. -/
def markClasses : ValuedRuns :=
  .ofLines [
    "lc l 6e l 1 6g 1 4 64 4 1 6g 1 1 60 1 5 64 5 2 5m 2 4 64 4 2 5m 2 b 64 b 5 1 5 4 64 4 a 6e ",
    "a 3 64 3 3 6e 3 3 64 3 3 6e 3 4 64 4 1 6e 1 1 6g 1 2 64 2 1 6e 1 1 6h 1 2 6i 2 1 6h 1 2 6i ",
    "2 1 6h 1 e 6e 80 5 6e 7i 1 64 1 4 6e 4 1 64 1 3 6e 3 1 66 1 1 64 1 6 6e 6 6 64 6 2 6e 2 1 ",
    "64 1 2 6e 2 1 66 1 1 6c 1 1 6e 1 1 a 1 1 b 1 1 c 1 1 d 1 1 e 1 1 f 1 1 g 1 1 h 1 1 i 1 2 j ",
    "2 1 k 1 1 l 1 1 m 2 1 n 2 1 o 1 1 p 2 1 6e 1 1 64 2 9 i 21 8 6e 8 1 u 1 1 v 1 1 w 1d 1 r 1 ",
    "1 s 1 1 t 1 1 u 1 1 v 1 1 w 1 1 x 1 1 y 1 2 6e 2 2 64 2 5 6e 5 1 64 1 2 6e 2 1 64 h 1 z 2u ",
    "8 6e 9 4 6e 4 1 64 1 1 6e 3 2 6e 3 1 64 1 2 6e 2 1 64 10 1 10 v 1 6e 1 1 64 1 2 6e 2 1 64 1 ",
    "2 6e 2 3 64 3 1 6e 1 2 64 2 1 6e 1 1 64 1 3 6e 3 1 64 1 1 6e 1 1 64 1 1 6e 1 1 64 1 1 6e 1 ",
    "1 64 1 4 6e 4i 7 6e 7 1 64 1 1 6e a 1 64 p 4 6e 5 9 6e a 3 6e 4 7 6e 1c 5 64 1q 2 6e 2 3 64 ",
    "3 4 6e 1a 5 6e 5 5 64 5 f 6e f 1 64 1 2 6e 2 1 64 1 2 6e 2 1 64 1 3 6e 3 3 64 3 1 r 1 1 s 1 ",
    "1 t 1 3 6e 3 1 64 1 2 6e 2 2 64 2 5 6e 1t 1 7 h 1 9 4 1 6e 1 1 64 1 2 6e 2x 1 7 h 1 9 1d 3 ",
    "6e 1q 2 7 h 4 9 33 1 7 h 3 9 33 1 7 h 8 9 3k 3 9 33 1 7 h 8 9 8 1 2c 1 2 2j 2u 1 7 h 8 9 32 ",
    "2 9 i 1 9 3h 5 9 32 2 2v 2 5 9 e 4 2z 34 2 3a 2 1 9 e 4 3e 28 2 64 t 1 64 2 1 64 2 1 60 1k ",
    "1 3l 1 2 3m 2 6 3o 6 4 3m 6 2 3m 2 2 6e 2 1 9 2 2 6e 1s 1 64 35 1 7 2 2 9 2c 1 64 k0 3 6e ",
    "qf b 9 w 1 9 4e 1 9 b 3 6e 5o 1 6c 40 1 66 1 1 6e 1 5 64 64 1 6e 1 1 64 20 1 9 l a 6e a 1 ",
    "64 1d 5 6e 5 6 64 6 2 6e 2 1 64 2 2 64 2 2 6e 2 2 64 2 5 6e 5 1 64 1 i 6e i 3 64 3 6 6e 6 1 ",
    "64 1 4 6e 4 l 6i 21 1 7 g 1 9 13 1 6e 1 1 64 1 7 6e 1p 2 9 1o 1 7 c a 9 1x 4 7 49 3 6e 4 1 ",
    "1 1 5 64 5 2 6e 2 4 64 4 1 6e 2 7 1 b 1 64 7 1 6e 4 2 6e 5k 2 6e 2 1 64 1 7 6e 7 1 64 1 2 ",
    "6e 2 1 6i 1 1 5y 1 1 64 1 1 5m 1 11 6e 11 1 6g 1 2 6c 2 1 64 1 1 62 1 1 6e 1 1 6h 1 1 64 1 ",
    "1 6e 1 2 64 k1 2 6e 2 2 1 2 4 6e 4 3 1 3 2 6e 6 1 6e 4 2 1 2 1 6e 1 1 64 1 1 6e 1 2 1 2 4 ",
    "64 4 k 6e 2db 4 6e 40 1 9 2p w 6e ga 1 62 1 1 6c 1 1 6g 1 1 66 1 2 68 2z 4 8 n9y 1 6e 5 a ",
    "6e 16 2 6e 2a 2 6e 7q 1 9 12 4 9 48 1 9 s i 6e 23 3 64 14 c 9 2o 1 7 d 1 9 6o 1 6e 2 2 6e 2 ",
    "1 64 3 2 6e 7 2 6e 3 1 6e 1h b 9 6v 3 9 fn5 44 q le 7 6e 7 7 64 7 n 6e r3 3n 64 6b 1 64 46 ",
    "a 6e 1av 1 64 2 1 6e 15 1 6e 1 1 1 1 5 64 5 1 9 4m 1 6e 1 5 64 fy c 6e 1x 5 6e 8y 2 6e 27 2 ",
    "64 3 3 64 21 2 64 2 3 6e 3 1 64 1 1 6e 1 4 64 1h 1 6e 1 1 64 1 1 6e 1 1 64 5d 1 9 16 1 9 f ",
    "1 9 1m 1 9 1 1 7 1y 3 6e 1f 3 9 1s 1 7 25 1 9 a 1 7 2z 1 9 1 1 7 4z 1 7 1 6 9 29 2 7 i 3 9 ",
    "p q 6e 2w 3 9 38 1 9 4 1 7 o 1 6e 2s 1 9 1 1 7 70 1 9 1 1 7 3j 1 9 3b 1 9 1 1 7 38 5 9 7i 1 ",
    "9 1 1 7 77 2 9 6 1 7 4d 1 9 2c 1 9 j 9 9 2a 1 9 bq 1 9 77 1 7 2 2 9 2b 1 9 bu 2 9 d0u 1 9 ",
    "1xd 5 1 1s 7 6e xs 2 6 f5a 1 1 43r 2 60 2 3 1 6 1 6a 1 d 60 d 8 64 a 5 6e 5 2 64 w 4 6e 48 ",
    "3 6e 2pq 74 6e 8g 7 6e am i 6e 1q 4 6e e8 2 6g 2 1 64 1 1 6e 73 1 6e 1 1 64 6s 1 6e 3 1 6e ",
    "8 2 6e 7 9 6e d7 2a 64 38 6 6e 6 1 7 "]

/-- The class of a mark, which says where it attaches; zero for a character that attaches nowhere.
-/
def combiningClass (c : Char) : Nat :=
  if c.toNat < 0x300 then 0 else markClasses.value c.toNat

/-- The class of the marks that silence a consonant's vowel. -/
def viramaClass : Nat := 9

/-! Syllables of the Korean script are composed by calculation. -/

/-- The first syllable. -/
def syllableBase : Nat := 0xAC00
/-- The first leading consonant. -/
def leadBase : Nat := 0x1100
/-- How many leading consonants there are. -/
def leadCount : Nat := 19
/-- The first vowel. -/
def vowelBase : Nat := 0x1161
/-- How many vowels there are. -/
def vowelCount : Nat := 21
/-- The place before the first trailing consonant. -/
def tailBase : Nat := 0x11A7
/-- How many trailing consonants there are, none counted as one. -/
def tailCount : Nat := 28

/-- The parts of a syllable; `none` for any other code point. -/
def syllableParts? (n : Nat) : Option (List Nat) :=
  if syllableBase ≤ n ∧ n < syllableBase + leadCount * vowelCount * tailCount then
    let i := n - syllableBase
    let front := [leadBase + i / tailCount / vowelCount, vowelBase + i / tailCount % vowelCount]
    some (if i % tailCount = 0 then front else front ++ [tailBase + i % tailCount])
  else none

/-- The syllable of two parts, the first of which may be a syllable that is still open. -/
def syllable? (m n : Nat) : Option Nat :=
  if leadBase ≤ m ∧ m < leadBase + leadCount ∧ vowelBase ≤ n ∧ n < vowelBase + vowelCount then
    some (syllableBase + ((m - leadBase) * vowelCount + (n - vowelBase)) * tailCount)
  else if syllableBase ≤ m ∧ m < syllableBase + leadCount * vowelCount * tailCount
      ∧ (m - syllableBase) % tailCount = 0 ∧ tailBase < n ∧ n < tailBase + tailCount then
    some (m + (n - tailBase))
  else none

/-- The parts of a code point, where composed ones are taken apart to the given depth. -/
def parts : Nat → Nat → List Nat
  | 0, n => [n]
  | depth + 1, n =>
    match compositions.lookup n with
    | some (first, second) => parts depth first ++ [second]
    | none => (syllableParts? n).getD [n]

/-- The parts of a character. No composed character has more than four marks. -/
def decomposed (c : Char) : List Char :=
  if c.toNat < 0x80 then [c] else (parts 4 c.toNat).map Char.ofNat

/-- The character that two characters make. -/
def compose? (a b : Char) : Option Char :=
  match syllable? a.toNat b.toNat with
  | some n => some (Char.ofNat n)
  | none =>
    (compositions.find? fun e => e.2 = (a.toNat, b.toNat)).map fun e => Char.ofNat e.1

/-- Puts a character behind characters in reverse order, a mark before those of a higher class. -/
def insertMark (c : Char) : List Char → List Char
  | [] => [c]
  | d :: ds =>
    if 0 < combiningClass c ∧ combiningClass c < combiningClass d then d :: insertMark c ds
    else c :: d :: ds

/-- A text with its marks in order. -/
def ordered (cs : List Char) : List Char :=
  (cs.foldl (fun acc c => insertMark c acc) []).reverse

/-- Text that is being composed. -/
structure Composer where
  /-- What is finished, in reverse order. -/
  done : List Char := []
  /-- The character that may still be composed with what follows. -/
  base : Option Char := none
  /-- The marks behind it that stay, in reverse order. -/
  marks : List Char := []

namespace Composer

/-- Everything so far, in reverse order. -/
def all (p : Composer) : List Char :=
  p.marks ++ p.base.toList ++ p.done

/-- Whether nothing stands between a character and the one that it may be composed with. -/
def reaches (p : Composer) (c : Char) : Bool :=
  match p.marks with
  | [] => true
  | m :: _ => combiningClass m < combiningClass c

/-- Adds a character that is not composed. -/
def push (p : Composer) (c : Char) : Composer :=
  if combiningClass c = 0 then ⟨p.all, some c, []⟩
  else { p with marks := c :: p.marks }

/-- Adds a character. -/
def add (p : Composer) (c : Char) : Composer :=
  match p.base with
  | none => p.push c
  | some b =>
    if p.reaches c then
      match compose? b c with
      | some d => { p with base := some d }
      | none => p.push c
    else p.push c

end Composer

/-- A text with its characters put together. -/
def joined (cs : List Char) : List Char :=
  (cs.foldl Composer.add {}).all.reverse

/-- The composed form of a text. Below the first mark, characters stand for themselves. -/
def composed (cs : List Char) : List Char :=
  if cs.all (·.toNat < 0x300) then cs else joined (ordered (cs.flatMap decomposed))

/-- A text below the first mark is its own composed form. -/
theorem composed_eq_self {cs : List Char} (h : ∀ c ∈ cs, c.toNat < 0x300) : composed cs = cs := by
  have hall : cs.all (·.toNat < 0x300) = true := by
    simpa [List.all_eq_true] using h
  rw [composed, if_pos hall]

end PayLink.Unicode
