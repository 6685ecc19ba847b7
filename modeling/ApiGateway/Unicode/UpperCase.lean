import ApiGateway.Unicode.CharSet

/-! # Upper case

The full upper case mapping of characters, under which some become two or three characters.
-/

namespace ApiGateway.Unicode

/-- Characters `first`, `first + step` and so on, `count` of them, that a fixed distance separates
from their upper case. -/
structure CaseRun where
  first : Nat
  count : Nat
  step : Nat
  distance : Int
  deriving Repr

/-- A table lists the gap before a run, its length, its step, and twice the distance, less one and
without the sign if it is negative. -/
def caseRuns (start : Nat) : List Nat → List CaseRun
  | gap :: count :: step :: distance :: rest =>
    let first := start + gap
    let signed : Int := if distance % 2 = 0 then distance / 2 else -((distance + 1) / 2 : Nat)
    ⟨first, count, step, signed⟩ :: caseRuns (first + (count - 1) * step + 1) rest
  | _ => []

/-- A table lists the gap before a character and the three characters it becomes, zero for none. -/
def expansions (start : Nat) : List Nat → List (Nat × List Nat)
  | gap :: a :: b :: c :: rest =>
    (start + gap, [a, b, c].filter (· ≠ 0)) :: expansions (start + gap + 1) rest
  | _ => []

def upperRuns : List CaseRun := caseRuns 0 (tableNumbers "
51 1 1 15a 16 n 1 1r 1 7 1 1r 0 1 1 6q 1 o 2 1 1 1 1 cv 1 3 2 1 2 8 2 1 2 n 2 1 2 3 2 1 0 1 1 gn 0
1 1 au 2 2 2 1 2 1 1 1 3 1 1 1 5 1 1 1 2 1 1 5e 3 1 1 1 0 1 1 92 0 1 1 1toi 2 1 1 78 2 3 2 1 2 1 1
1 4 1 1 1 2 1 1 1 3 2 2 1 2 1 1 1 3 1 1 1 1 1 1 34 5 1 1 1 0 1 1 3 1 1 1 1 0 1 1 3 1 1 1 1 0 1 1 3
1 8 2 1 0 1 1 4d 1 9 2 1 2 1 1 1 0 1 1 3 1 1 1 1 3 k 2 1 3 9 2 1 8 1 1 1 2 2 1 gou 1 1 1 1 4 5 2 1
0 1 1 gn2 0 1 1 gmw 0 1 1 gn0 0 1 1 bn 0 1 1 bf 1 2 1 bd 1 1 1 b7 1 1 1 b9 0 1 1 1tb2 3 1 1 bd 0 1
1 1tau 1 1 1 bh 0 1 1 1tce 0 1 1 1t8w 0 1 1 1tag 1 1 1 bl 0 1 1 bp 0 1 1 1tag 0 1 1 gku 0 1 1 1taa
2 1 1 bp 1 1 1 gl6 0 1 1 bt 2 1 1 bv 7 1 1 gjy 2 1 1 c3 1 1 1 1tae 0 1 1 c3 3 1 1 1t90 0 1 1 c3 0
1 1 3t 0 2 1 c1 0 1 1 3x 5 1 1 c5 a 1 1 1t7u 0 1 1 1t7o 4m 1 1 4o 17 2 2 1 3 1 1 1 3 3 1 78 1a 1 1
23 0 3 1 21 1 h 1 1r 0 1 1 1p 0 9 1 1r 0 1 1 3j 0 2 1 3h 1 1 1 3f 0 1 1 35 3 1 1 2l 0 1 1 2z 0 1 1
f 1 c 2 1 0 1 1 4r 0 1 1 4f 0 1 1 e 0 1 1 6f 1 1 1 5b 2 1 1 1 2 1 1 1 1g w 1 1r 0 g 1 4f 1 h 2 1 9
r 2 1 2 7 2 1 0 1 1 t 1 1c 2 1 1d 12 1 2n 289 17 1 4n4 2 3 1 4n4 l4 6 1 f 1oi 1 1 9nf 0 1 1 9nd 0
1 1 9mv 0 2 1 9mr 0 1 1 9mt 0 1 1 9mf 0 1 1 9jd 0 1 1 1if8 1 1 1 1 6m 1 1 1iiw 3 1 1 5vw g 1 1
1ils 36 23 2 1 5 1 1 39 5 1c 2 1 0 8 1 g 8 6 1 g a 8 1 g 8 8 1 g 8 6 1 g b 4 2 g 8 8 1 g 8 2 1 44
0 4 1 4s 0 2 1 5k 0 2 1 74 0 2 1 68 0 2 1 70 1e 2 1 g c 1 1 b49 h 2 1 g e 2 1 g 3 1 1 e a0 1 1 1j
x g 1 v 4 1 1 1 nf q 1 1f 1fq 1c 1 2n 1 1 1 1 3 1 1 gnp 0 1 1 gnj 1 3 2 1 6 1 1 1 2 1 1 1 a 1e 2 1
8 2 2 1 4 1 1 1 c 12 1 b7j 1 1 1 b7j 5 1 1 b7j nwz n 2 1 j e 2 1 3r 7 2 1 3 v 2 1 a 2 2 1 2 5 2 1
4 1 1 1 4 2 2 1 0 1 1 2o 2 a 2 1 b 8 2 1 4 2 2 1 2 8 2 1 q 1 1 1 nw 1 1 1fj s 28 1 1nz3 ght q 1 1r
y5 14 1 27 3s 10 1 27 4b b 1 25 1 f 1 25 1 7 1 25 1 2 1 25 1dv 1f 1 3j 3h m 1 1r 27u w 1 1r gw0 w
1 1r 1n p 1 1h o5q y 1 1v")

def upperExpansions : List (Nat × List Nat) := expansions 0 (tableNumbers "
67 2b 2b 0 2x jg 26 0 4m 22 lo 0 bj pl lk ld v px lk ld d2 111 11u 0 4y6 20 mp 0 0 2c lk 0 0 2f lm
0 0 2h lm 0 0 1t ji 0 51 px lv 0 1 px lv lc 1 px lv ld 1 px lv n6 15 64o pl 0 0 64p pl 0 0 64q pl
0 0 64r pl 0 0 64s pl 0 0 64t pl 0 0 64u pl 0 0 64v pl 0 0 64o pl 0 0 64p pl 0 0 64q pl 0 0 64r pl
0 0 64s pl 0 0 64t pl 0 0 64u pl 0 0 64v pl 0 0 65k pl 0 0 65l pl 0 0 65m pl 0 0 65n pl 0 0 65o pl
0 0 65p pl 0 0 65q pl 0 0 65r pl 0 0 65k pl 0 0 65l pl 0 0 65m pl 0 0 65n pl 0 0 65o pl 0 0 65p pl
0 0 65q pl 0 0 65r pl 0 0 67c pl 0 0 67d pl 0 0 67e pl 0 0 67f pl 0 0 67g pl 0 0 67h pl 0 0 67i pl
0 0 67j pl 0 0 67c pl 0 0 67d pl 0 0 67e pl 0 0 67f pl 0 0 67g pl 0 0 67h pl 0 0 67i pl 0 0 67j pl
0 2 69m pl 0 0 pd pl 0 0 p2 pl 0 1 pd n6 0 0 pd n6 pl 4 pd pl 0 5 6a2 pl 0 0 pj pl 0 0 p5 pl 0 1
pj n6 0 0 pj n6 pl 4 pj pl 0 5 pl lk lc 0 pl lk ld 2 pl n6 0 0 pl lk n6 a px lk lc 0 px lk ld 0 pt
lv 0 1 px n6 0 0 px lk n6 a 6be pl 0 0 q1 pl 0 0 pb pl 0 1 q1 n6 0 0 q1 n6 pl 4 q1 pl 0 179f 1y 1y
0 0 1y 21 0 0 1y 24 0 0 1y 1y 21 0 1y 1y 24 0 2b 2c 0 0 2b 2c 0 c 11g 11i 0 0 11g 111 0 0 11g 117
0 0 11q 11i 0 0 11g 119 0")

def CaseRun.contains (run : CaseRun) (n : Nat) : Bool :=
  run.first ≤ n && n < run.first + run.count * run.step && (n - run.first) % run.step == 0

def upperChar (c : Char) : List Char :=
  if c.toNat < 0x80 then [c.toUpper]
  else
    match upperExpansions.find? (·.1 = c.toNat) with
    | some (_, expansion) => expansion.map Char.ofNat
    | none =>
      match upperRuns.find? (·.contains c.toNat) with
      | some run => [Char.ofNat (c.toNat + run.distance).toNat]
      | none => [c]

end ApiGateway.Unicode
