import ApiGateway.Unicode.CharSet

/-! # Mapping of domain names

What becomes of a character in a domain name before anything else is done with the name: it stays,
it is refused, it vanishes, or other characters take its place.
-/

namespace ApiGateway.Domain

inductive Action
  | keep
  | refuse
  | drop
  | shift (distance : Int)
  /-- In a run that alternates between capital and small letters, a capital goes to the next. -/
  | alternate
  | replace (characters : List Nat)
  deriving DecidableEq, Repr

structure ActionRange where
  first : Nat
  count : Nat
  action : Action
  deriving Repr

/-- A table lists a kind and what belongs to it. The first four kinds are for a number of
characters; a shift also has twice its distance, less one and without the sign if it is negative.
Of the alternating runs the number of pairs is listed. The remaining kinds are for one character,
with four less than the kind many characters in its place. The fuel bounds the number of
entries. -/
def actionRanges : Nat → Nat → List Nat → List ActionRange
  | 0, _, _ => []
  | fuel + 1, first, kind :: n :: rest =>
    if kind = 0 then ⟨first, n, .keep⟩ :: actionRanges fuel (first + n) rest
    else if kind = 1 then ⟨first, n, .refuse⟩ :: actionRanges fuel (first + n) rest
    else if kind = 2 then ⟨first, n, .drop⟩ :: actionRanges fuel (first + n) rest
    else if kind = 3 then
      let twice := rest.headD 0
      let distance : Int := if twice % 2 = 0 then twice / 2 else -((twice + 1) / 2 : Nat)
      ⟨first, n, .shift distance⟩ :: actionRanges fuel (first + n) rest.tail
    else if kind = 4 then ⟨first, 2 * n, .alternate⟩ :: actionRanges fuel (first + 2 * n) rest
    else
      ⟨first, 1, .replace ((n :: rest).take (kind - 4))⟩ ::
        actionRanges fuel (first + 1) ((n :: rest).drop (kind - 4))
  | _, _, _ => []

def actionTable : List ActionRange := actionRanges 5342 0 (Unicode.tableNumbers "
0 1t 3 q 1s 0 11 1 w 3 1 73 0 7 6 w lk 0 1 3 1 41 0 2 2 1 0 1 6 w lg 0 2 3 2 73 6 w ld 3 1 172 0 2
6 w mf 3 1 7j 3 1 45 0 1 7 1d 6dg 1g 7 1d 6dg 1e 7 1f 6dg 1g 0 1 3 n 1s 0 1 3 7 1s 0 x 4 o 6 2x lj
0 1 6 2x 2y 6 2x 2y 3 1 2 0 1 3 1 2 0 2 4 3 6 30 53 6 30 53 4 4 6 jg 32 4 n 3 1 6p 4 3 3 1 ev 0 1
3 1 bo 4 2 3 1 bg 3 1 2 0 1 3 2 be 3 1 2 0 2 3 1 4e 3 1 b8 3 1 ba 3 1 2 0 1 3 1 be 3 1 bi 0 1 3 1
bq 3 1 bm 3 1 2 0 3 3 1 bq 3 1 bu 0 1 3 1 bw 4 3 3 1 c4 3 1 2 0 1 3 1 c4 0 2 3 1 2 0 1 3 1 c4 3 1
2 0 1 3 2 c2 4 2 3 1 c6 3 1 2 0 3 3 1 2 0 7 6 2s am 6 2s am 6 2s am 6 30 2y 6 30 2y 6 30 2y 6 32
2y 6 32 2y 6 32 2y 4 7 3 1 2 0 2 4 8 3 1 2 0 2 6 2s 3e 6 2s 3e 6 2s 3e 3 1 2 0 1 3 1 5d 3 1 33 4 k
3 1 77 0 1 4 8 3 1 2 0 7 3 1 gnq 3 1 2 0 1 3 1 91 3 1 gnk 0 2 3 1 2 0 1 3 1 at 3 1 3u 3 1 3y 4 4 3
1 2 0 2p 3 1 wf 3 1 45 3 1 wf 3 1 w1 3 1 39 3 1 37 3 1 2x 3 1 vz 3 1 vx 0 v 6 w li 6 w lj 6 w lm 6
w mg 6 w lf 6 w ln 0 2 3 1 6x 3 1 yx 3 1 yl 3 1 yd 3 1 4d 0 2j 3 2 3j 0 1 3 1 2n 6 lk ld 3 1 6g 0
9 2 1 0 w 4 2 3 1 ad 0 1 3 1 2 0 1 1 2 6 w qh 0 3 3 1 1ad 3 1 6g 1 4 6 w ld 7 w lk ld 3 1 24 3 1
13z 3 3 22 1 1 3 1 3k 1 1 3 2 3i 0 1 3 h 1s 1 1 3 9 1s 0 z 3 1 g 3 1 1n 3 1 1d 3 1 p 3 1 b 3 1 h 3
1 t 3 1 17 0 1 4 c 3 1 2z 3 1 2n 3 1 2l 0 1 3 1 3b 3 1 3j 0 1 3 1 2 0 1 3 1 2z 3 1 2 0 2 3 3 77 3
g 4g 3 w 1s 0 1c 4 g 3 1 2 0 9 4 r 3 1 u 4 6 3 1 2 0 2 4 1c 1 1 3 12 2o 1 2 0 1a 6 12d 136 0 3 1 2
0 3 1 1 0 1j 1 8 0 r 1 4 0 6 1 h 0 m 1 1 0 2g 6 17r 19w 6 18o 19w 6 1c7 19w 6 18q 19w 0 2s 1 1 0
1c 1 2 0 1n 1 2 0 2t 1 e 0 1n 1 2 0 1d 1 2 0 f 1 1 0 s 1 2 0 1 1 1 0 b 1 5 0 w 1 7 0 23 1 1 0 39 6
1sl 1to 6 1sm 1to 6 1sn 1to 6 1ss 1to 6 1sx 1to 6 1sy 1to 6 1t7 1to 6 1tb 1to 0 10 1 1 0 8 1 2 0 2
1 2 0 m 1 1 0 7 1 1 0 1 1 3 0 4 1 2 0 9 1 2 0 2 1 2 0 4 1 8 0 1 1 4 6 1wh 1x8 6 1wi 1x8 1 1 6 1wv
1x8 0 4 1 2 0 p 1 2 0 3 1 1 0 6 1 4 0 2 1 2 0 m 1 1 0 7 1 1 0 1 6 20i 20s 1 1 0 1 6 20o 20s 1 1 0
2 1 2 0 1 1 1 0 5 1 4 0 2 1 2 0 3 1 3 0 1 1 7 6 1zq 20s 6 1zr 20s 6 1zw 20s 0 1 1 1 6 20b 20s 1 7
0 h 1 a 0 3 1 1 0 9 1 1 0 3 1 1 0 m 1 1 0 7 1 1 0 2 1 1 0 5 1 2 0 a 1 1 0 3 1 1 0 3 1 2 0 1 1 f 0
4 1 2 0 c 1 7 0 7 1 1 0 3 1 1 0 8 1 2 0 2 1 2 0 m 1 1 0 7 1 1 0 2 1 1 0 5 1 2 0 9 1 2 0 2 1 2 0 3
1 7 0 3 1 4 6 275 27w 6 276 27w 1 1 0 5 1 2 0 i 1 a 0 2 1 1 0 6 1 3 0 3 1 1 0 4 1 3 0 2 1 1 0 1 1
1 0 2 1 3 0 2 1 3 0 3 1 3 0 c 1 4 0 5 1 3 0 3 1 1 0 4 1 2 0 1 1 6 0 1 1 e 0 l 1 5 0 d 1 1 0 3 1 1
0 n 1 1 0 g 1 2 0 9 1 1 0 3 1 1 0 4 1 7 0 2 1 1 0 3 1 1 0 2 1 2 0 4 1 2 0 a 1 7 0 m 1 1 0 3 1 1 0
n 1 1 0 a 1 1 0 5 1 2 0 9 1 1 0 3 1 1 0 4 1 7 0 2 1 5 0 3 1 1 0 4 1 2 0 a 1 1 0 3 1 c 0 d 1 1 0 3
1 1 0 1f 1 1 0 3 1 1 0 6 1 4 0 g 1 2 0 q 1 1 0 3 1 1 0 i 1 3 0 o 1 1 0 9 1 1 0 1 1 2 0 7 1 3 0 1 1
4 0 6 1 1 0 1 1 1 0 8 1 6 0 a 1 2 0 3 1 c 0 1e 6 2tp 2sy 0 7 1 4 0 t 1 11 0 2 1 1 0 1 1 1 0 5 1 1
0 o 1 1 0 1 1 1 0 c 6 2x9 2wi 0 a 1 2 0 5 1 1 0 1 1 1 0 7 1 1 0 a 1 2 6 2wb 2vt 6 2wb 2w1 0 2 1 w
0 c 3 1 1 0 1i 6 30i 33r 0 4 1 1 0 4 6 30s 33r 0 4 6 30x 33r 0 4 6 312 33r 0 4 6 317 33r 0 c 6 30g
33p 0 3 1 4 0 2 6 31t 31u 0 1 6 31t 31w 6 33m 328 7 33m 31t 328 6 33n 328 7 33n 31t 328 0 7 6 31t
328 0 h 6 32q 33r 0 4 1 1 0 4 6 330 33r 0 4 6 335 33r 0 4 6 33a 33r 0 4 6 33f 33r 0 c 6 32o 33p 0
3 1 1 0 f 1 1 0 d 1 11 0 4g 3 12 b7k 1 1 3 1 b7k 1 5 3 1 b7k 1 2 0 18 3 1 1r 0 2q 2 2 0 6g 1 1 0 4
1 2 0 7 1 1 0 1 1 1 0 4 1 2 0 15 1 1 0 4 1 2 0 x 1 1 0 4 1 2 0 7 1 1 0 1 1 1 0 4 1 2 0 f 1 1 0 1l
1 1 0 4 1 2 0 1v 1 2 0 w 1 3 0 q 1 6 0 2e 1 2 3 6 f 1 2 0 hs 1 1 0 s 1 3 0 2h 1 7 0 m 1 9 0 o 1 9
0 k 1 c 0 d 1 1 0 3 1 1 0 2 1 c 0 1g 2 2 0 14 1 2 0 a 1 6 0 a 1 6 0 b 2 5 0 a 1 6 0 2h 1 7 0 17 1
5 0 1y 1 a 0 v 1 1 0 c 1 4 0 c 1 4 0 1 1 3 0 16 1 2 0 5 1 b 0 18 1 4 0 q 1 6 0 b 1 3 0 1q 1 2 0 1t
1 1 0 t 1 2 0 b 1 6 0 a 1 6 0 e 1 2 0 1a 1 2 0 c 1 k 0 25 1 1 0 4m 1 8 0 1o 1 3 0 f 1 3 0 1f 3 1
9ln 3 1 9ll 3 1 9l3 3 2 9kz 3 1 9l1 3 1 9kn 3 1 9jb 3 1 1ifa 3 1 2 0 1 1 5 3 17 4n3 1 2 3 3 4n3 0
8 1 8 0 17 1 5 0 18 3 1 bdh 3 1 b65 3 1 bdj 0 1 3 2 bdj 3 1 asp 3 8 bdj 0 1 3 1 bdl 3 1 apf 3 1
bdn 3 1 bdl 3 2 bdj 3 1 bdh 3 1 ber 3 2 anb 3 1 3r 3 1 bex 3 2 bev 3 1 an5 3 2 an3 3 1 bez 0 1 3 1
bev 3 1 bet 3 1 b2j 3 1 bet 3 1 anx 3 2 3f 3 1 bez 3 2 bet 3 1 3b 3 1 amt 3 1 bex 3 1 31 3 3 a51 3
2 a43 3 1 bg1 3 1 bfl 3 2 bfh 3 2 a5j 3 1 a4t 3 2 a4l 0 d 3 1 9yt 0 y 3 1 as1 3 1 bjl 3 1 arz 3 1
bbv 3 1 arp 3 1 bjn 3 1 arn 3 1 arl 3 1 arf 3 3 arb 3 1 2f 3 1 aol 3 1 arb 3 1 21 3 1 aon 3 1 ar9
3 1 ard 3 4 arb 3 1 ar7 3 2 aqp 3 1 b2r 3 2 aqh 3 1 8n 3 2 aqj 3 1 bk1 3 3 aqf 3 1 aa5 0 1s 4 22 3
1 2 0 5 6 2p ji 3 1 37 0 2 3 1 br1 0 1 4 1b 3 1 2 0 9 3 8 f 0 6 1 2 3 6 f 1 2 0 8 3 8 f 0 8 3 8 f
0 6 1 2 3 6 f 1 2 0 8 1 1 3 1 f 1 1 3 1 f 1 1 3 1 f 1 1 3 1 f 0 8 3 8 f 0 1 3 1 ayx 0 1 3 1 ayz 0
1 3 1 az1 0 1 3 1 az3 0 1 3 1 axl 0 1 3 1 axn 0 1 3 1 axp 1 2 6 64g qh 6 64h qh 6 64i qh 6 64j qh
6 64k qh 6 64l qh 6 64m qh 6 64n qh 6 64g qh 6 64h qh 6 64i qh 6 64j qh 6 64k qh 6 64l qh 6 64m qh
6 64n qh 6 65c qh 6 65d qh 6 65e qh 6 65f qh 6 65g qh 6 65h qh 6 65i qh 6 65j qh 6 65c qh 6 65d qh
6 65e qh 6 65f qh 6 65g qh 6 65h qh 6 65i qh 6 65j qh 6 674 qh 6 675 qh 6 676 qh 6 677 qh 6 678 qh
6 679 qh 6 67a qh 6 67b qh 6 674 qh 6 675 qh 6 676 qh 6 677 qh 6 678 qh 6 679 qh 6 67a qh 6 67b qh
0 2 6 67k qh 6 q9 qh 6 q4 qh 1 1 0 1 6 69i qh 3 2 f 3 1 43 3 1 b31 6 q9 qh 6 w lv 3 1 b2h 6 w lv 6
w n6 7 w lk n6 6 67o qh 6 qf qh 6 q6 qh 1 1 0 1 6 69y qh 3 1 4r 3 1 b3r 3 1 4r 3 1 b3t 6 qf qh 7 w
lv lc 7 w lv ld 7 w lv n6 0 3 3 1 b5x 1 2 0 2 3 2 f 3 1 5j 3 1 b4n 1 1 7 w lw lc 7 w lw ld 7 w lw
n6 0 3 3 1 b51 0 4 3 2 f 3 1 67 3 1 b3v 3 1 d 7 w lk lc 7 w lk ld 3 1 cgt 1 2 6 67w qh 6 qx qh 6
r2 qh 1 1 0 1 6 6ba qh 3 1 73 3 1 b4p 3 1 6z 3 1 b4p 6 qx qh 6 w ld 6 w lw 1 1 3 1 clb 3 1 cld 3 1
clf 3 1 clh 3 1 clj 3 1 cll 3 1 cln 3 1 clp 3 1 clr 3 1 clt 3 1 clv 2 1 0 2 1 2 0 1 3 1 1 0 5 6 w
mr 0 c 1 3 0 1 1 7 3 1 cnx 0 3 6 6cy 6cy 7 6cy 6cy 6cy 0 1 6 6d1 6d1 7 6d1 6d1 6d1 0 4 6 x x 0 1 6
w lh 0 8 6 1r 1r 6 1r x 6 x 1r 0 d 8 6cy 6cy 6cy 6cy 0 7 3 1 cql 2 5 1 5 2 6 3 1 cqn 3 1 cnj 1 2 3
6 cqn 3 1 crh 3 1 mm 3 1 cql 3 2 crt 3 1 co1 3 a crj 3 1 csd 3 1 lq 3 1 crh 3 2 csp 1 1 3 1 cpp 3
1 cpj 3 1 cp1 3 1 col 3 1 bxx 3 1 cpl 3 4 cph 3 1 cpf 3 2 cpb 1 3 0 8 6 36 37 0 p 1 e 0 x 1 f 7 2p
1b 2r 7 2p 1b 37 3 1 cvx 6 4w 2r 0 1 7 2r 1b 33 7 2r 1b 39 3 1 c47 0 1 6 4w 2u 3 2 cw5 3 1 cw7 3 1
cw9 3 1 cwb 3 1 clr 3 1 cwd 3 1 cwf 3 1 cwb 3 1 cwd 0 1 3 1 cwd 6 32 33 0 2 3 3 cwh 3 1 cwj 3 1
cwl 0 2 6 37 31 7 38 2t 30 6 38 31 0 1 3 1 cwj 0 1 3 1 bll 0 1 3 1 cwr 0 1 3 1 cxp 3 1 cqz 3 2 cyb
0 1 3 1 cyb 3 2 cyd 3 1 1k 3 1 cy3 3 1 cy1 3 4 atl 3 1 cyn 0 1 7 2u 2p 3c 3 1 bnb 3 1 bo3 3 1 bo5
3 1 bnh 3 1 bm 0 4 3 1 czl 3 2 czn 3 2 czh 0 6 7 1d 6dg 1j 7 1d 6dg 1l 8 1d 6dg 1d 1c 7 1d 6dg 1f
7 1e 6dg 1f 7 1d 6dg 1h 7 1e 6dg 1h 7 1f 6dg 1h 7 1g 6dg 1h 7 1d 6dg 1i 7 1h 6dg 1i 7 1d 6dg 1k 7
1f 6dg 1k 7 1h 6dg 1k 7 1j 6dg 1k 6 1d 6dg 3 1 d0t 6 2x 2x 7 2x 2x 2x 6 2x 3a 3 1 d0b 6 3a 2x 7 3a
2x 2x 8 3a 2x 2x 2x 6 2x 3c 3 1 d0h 6 3c 2x 7 3c 2x 2x 3 1 d1b 3 2 d1v 3 1 d1f 3 1 d1p 6 2x 2x 7
2x 2x 2x 6 2x 3a 3 1 d17 6 3a 2x 7 3a 2x 2x 8 3a 2x 2x 2x 6 2x 3c 3 1 d1d 6 3c 2x 7 3c 2x 2x 3 1
d27 3 2 d2r 3 1 d2b 0 3 3 1 2 0 5 7 1c 6dg 1f 0 2 1 4 0 4c 6 6qz 6qz 7 6qz 6qz 6qz 0 1 6 6r2 6r2 7
6r2 6r2 6r2 0 6w 3 2 532 0 73 1 m 0 b 1 l 3 9 eal 6 1d 1c 6 1d 1d 6 1d 1e 6 1d 1f 6 1d 1g 6 1d 1h
6 1d 1i 6 1d 1j 6 1d 1k 6 1d 1l 6 1e 1c 7 14 1d 15 7 14 1e 15 7 14 1f 15 7 14 1g 15 7 14 1h 15 7
14 1i 15 7 14 1j 15 7 14 1k 15 7 14 1l 15 8 14 1d 1c 15 8 14 1d 1d 15 8 14 1d 1e 15 8 14 1d 1f 15
8 14 1d 1g 15 8 14 1d 1h 15 8 14 1d 1i 15 8 14 1d 1j 15 8 14 1d 1k 15 8 14 1d 1l 15 8 14 1e 1c 15
1 k 7 14 2p 15 7 14 2q 15 7 14 2r 15 7 14 2s 15 7 14 2t 15 7 14 2u 15 7 14 2v 15 7 14 2w 15 7 14
2x 15 7 14 2y 15 7 14 2z 15 7 14 30 15 7 14 31 15 7 14 32 15 7 14 33 15 7 14 34 15 7 14 35 15 7 14
36 15 7 14 37 15 7 14 38 15 7 14 39 15 7 14 3a 15 7 14 3b 15 7 14 3c 15 7 14 3d 15 7 14 3e 15 3 q
ecp 3 q ee5 3 1 eib 0 10h 8 6qz 6qz 6qz 6qz 0 2v 7 1m 1m 1p 6 1p 1p 7 1p 1p 1p 0 2t 6 8gt mw 0 47
1 2 0 3u 3 1c 2o 0 1c 3 1 2 0 1 3 1 gkt 3 1 5vv 3 1 gjx 0 2 4 3 3 1 gmv 3 1 gl5 3 1 gn1 3 1 gmz 0
1 3 1 2 0 2 3 1 2 0 6 3 1 her 3 1 he5 3 2 got 4 1d 3 1 2 0 8 3 1 2 0 1 3 1 2 0 4 3 1 2 0 1 1 5 0
19 1 1 0 1 1 5 0 1 1 2 0 1k 1 7 3 1 r 0 1 1 e 0 o 1 9 0 7 1 1 0 7 1 1 0 7 1 1 0 7 1 1 0 7 1 1 0 7
1 1 0 7 1 1 0 7 1 1 0 3i 1 y 0 q 1 1 0 4 3 1 o64 0 2b 3 1 18ig 1 c 3 1 c8w 3 1 cb2 3 1 cbs 3 1 cc8
3 1 cdm 3 1 cg0 3 1 cgc 3 1 che 3 1 cis 3 1 dik 3 1 dkm 3 1 dkw 3 1 dm4 3 1 dn6 3 1 doa 3 1 dr6 3
1 dsa 3 1 dsu 3 1 e1e 3 1 e6k 3 1 e82 3 1 e8a 3 1 e9w 3 1 eac 3 1 ebs 3 1 ecg 3 1 eds 3 1 egm 3 1
ehk 3 1 ej0 3 1 foy 3 1 fsw 3 1 gie 3 1 gjm 3 1 gk0 3 1 gkk 3 1 gli 3 1 gpo 3 1 hg4 3 1 hiq 3 1
hpc 3 1 hqk 3 1 hrk 3 1 hsq 3 1 hvo 3 1 hvs 3 1 ifu 3 1 igc 3 1 igy 3 1 ihm 3 1 io0 3 1 ioe 3 1
iom 3 1 iv2 3 1 ivk 3 1 iw8 3 1 iwm 3 1 izy 3 1 j0u 3 1 j1s 3 1 j66 3 1 k2e 3 1 k4w 3 1 k60 3 1
lb2 3 1 lba 3 1 lfu 3 1 lgo 3 1 lhc 3 1 lig 3 1 lkk 3 1 lks 3 1 lzk 3 1 m0u 3 1 m2k 3 1 nmy 3 1
nqk 3 1 nrs 3 1 nuy 3 1 nw8 3 1 nwo 3 1 nx0 3 1 nzu 3 1 o02 3 1 o1s 3 1 ppo 3 1 qeg 3 1 qf2 3 1
qfa 3 1 qfg 3 1 qfu 3 1 qgs 3 1 qgu 3 1 qla 3 1 qx8 3 1 qxg 3 1 rg8 3 1 rgq 3 1 rjg 3 1 rjs 3 1
rk8 3 1 rkm 3 1 rpm 3 1 rpy 3 1 s2k 3 1 s2w 3 1 s5k 3 1 s6g 3 1 s90 3 1 sm4 3 1 smg 3 1 snc 3 1
t5g 3 1 tce 3 1 tco 3 1 tmq 3 1 tri 3 1 tu0 3 1 uey 3 1 uma 3 1 vi4 3 1 vjk 3 1 vmo 3 1 vpg 3 1
vt6 3 1 vtq 3 1 vu0 3 1 vvs 3 1 vzy 3 1 w0g 3 1 wjm 3 1 wjy 3 1 wke 3 1 wku 3 1 wlo 3 1 wmg 3 1
wmm 3 1 wqy 3 1 wr4 3 1 wre 3 1 y9u 3 1 ybg 3 1 z1g 3 1 z22 3 1 z3a 3 1 ziy 3 1 zjm 3 1 zni 3 1
zq0 3 1 10lg 3 1 10m8 3 1 10n0 3 1 10ow 3 1 10qw 3 1 111w 3 1 112i 3 1 1166 3 1 11jw 3 1 11lk 3 1
11x4 3 1 11y8 3 1 11yg 3 1 12am 3 1 12ks 3 1 12ro 3 1 12ry 3 1 12s6 3 1 1480 3 1 148g 3 1 14h2 3 1
14pk 3 1 14po 3 1 14s8 3 1 14y0 3 1 14yo 3 1 14yu 3 1 14z6 3 1 154k 3 1 156e 3 1 156o 3 1 157e 3 1
15gm 3 1 15je 3 1 15jk 3 1 15to 3 1 15ts 3 1 15us 3 1 168q 3 1 16bc 3 1 16bo 3 1 16fi 3 1 16g0 3 1
16g4 3 1 16gm 3 1 16i8 3 1 1744 3 1 17qa 3 1 17qs 3 1 17su 3 1 17u0 3 1 17ue 3 1 17uw 3 1 17v2 3 1
17x8 3 1 17xe 3 1 17ya 3 1 17yi 3 1 17z6 3 1 180m 3 1 181e 3 1 181s 3 1 1850 3 1 185s 3 1 185y 1
16 3 1 iwv 0 1 3 1 iw7 0 1f 3 1 1z 0 1 3 1 dua 3 2 due 0 5 1 1 0 2e 1 2 0 2 6 w 9ll 6 w 9lm 0 2 6
9l4 9l6 0 2n 6 9mb 9mw 1 5 0 17 1 1 3 2 cpt 3 1 cgh 3 1 cpv 3 2 cgh 3 3 cpz 3 6 cgj 3 1 cp7 3 3
cqd 3 1 cp1 3 a cqf 3 l cm3 2 1 3 2 crl 3 2 chr 3 1 chl 3 1 chj 3 1 chb 3 1 ch5 3 1 ch3 3 1 crn 3
1 cgz 3 1 cgx 3 2 crr 3 1 crp 3 2 crn 3 1 crh 3 1 crf 3 5 crd 3 1 cr9 3 1 cr3 3 1 cql 3 1 cq9 3 1
cq1 3 2 cgx 3 3 cpl 3 2 cn9 3 1 cn5 3 2 cmp 3 1 cmn 3 1 cm5 3 1 cm1 1 1 0 2 3 1 b8c 3 1 bg2 3 1
b8q 3 1 eq4 3 1 b8o 3 1 bak 3 1 b8m 3 1 qpe 3 1 bcu 3 1 b98 3 1 b7u 3 1 fmg 3 1 euc 3 1 bhy 0 1y 1
a 0 g 7 14 3cw 15 7 14 3cy 15 7 14 3cz 15 7 14 3d1 15 7 14 3d2 15 7 14 3d3 15 7 14 3d5 15 7 14 3d7
15 7 14 3d8 15 7 14 3da 15 7 14 3db 15 7 14 3dc 15 7 14 3dd 15 7 14 3de 15 7 14 xz4 15 7 14 yvs 15
7 14 zc4 15 7 14 108s 15 7 14 10p4 15 7 14 115g 15 7 14 1224 15 7 14 12ys 15 7 14 13f4 15 7 14
14bs 15 7 14 14s4 15 7 14 158g 15 7 14 15os 15 7 14 1654 15 7 14 13p8 15 8 14 1350 13ic 15 8 14
1350 16f8 15 1 1 7 14 feo 15 7 14 fik 15 7 14 fex 15 7 14 h5n 15 7 14 fis 15 7 14 g31 15 7 14 fer
15 7 14 g2z 15 7 14 fh9 15 7 14 gg1 15 7 14 kco 15 7 14 m7f 15 7 14 ldg 15 7 14 kdk 15 7 14 ssx 15
7 14 h7j 15 7 14 k4l 15 7 14 kkq 15 7 14 kcp 15 7 14 ny6 15 7 14 glp 15 7 14 mm1 15 7 14 rs1 15 7
14 nz1 15 7 14 gc4 15 7 14 fkz 15 7 14 gos 15 7 14 i1y 15 7 14 nhf 15 7 14 flt 15 7 14 rt3 15 7 14
ggk 15 7 14 nzh 15 7 14 fm9 15 7 14 pnu 15 7 14 po3 15 3 1 due 3 1 hgu 3 1 k8y 3 1 sy8 0 8 7 34 38
2t 6 1e 1d 6 1e 1e 6 1e 1f 6 1e 1g 6 1e 1h 6 1e 1i 6 1e 1j 6 1e 1k 6 1e 1l 6 1f 1c 6 1f 1d 6 1f 1e
6 1f 1f 6 1f 1g 6 1f 1h 3 1 d6n 3 2 d6l 3 3 d6j 3 1 d6h 3 2 d6f 3 5 d6d 3 1 1c10 3 1 1dua 3 1 1eqw
3 1 1gk6 3 1 1hgs 3 1 1ide 3 1 1k6o 3 1 1lzy 3 1 1mwk 3 1 1opu 3 1 1pmg 3 1 1qj2 3 1 1rfo 3 1 1sca
6 14c8 y5c 6 13p8 13dk 3 1 1mjo 0 1 3 1 av4 3 1 b2u 3 1 avi 3 1 ecw 3 1 b34 3 1 c7k 3 1 auy 3 1
c7c 3 1 azu 3 1 cxc 3 1 kqk 3 1 og0 3 1 ms0 3 1 ks6 3 1 11mu 3 1 eg0 3 1 ka2 3 1 l6a 3 1 kq6 3 1
rx2 3 1 d82 3 1 p8o 3 1 zkm 3 1 ryk 3 1 coo 3 1 s5a 3 1 qbe 3 1 fcg 3 1 1122 3 1 c2i 3 1 cys 3 1
n0y 3 1 1422 3 1 b8g 3 1 c8e 3 1 mf4 3 1 ato 3 1 avk 3 1 atm 3 1 h32 3 1 d5i 3 1 cv8 3 1 g62 3 1
g3a 3 1 qy6 3 1 b6w 3 1 zle 3 1 cwa 3 1 f6g 6 1f 1i 6 1f 1j 6 1f 1k 6 1f 1l 6 1g 1c 6 1g 1d 6 1g
1e 6 1g 1f 6 1g 1g 6 1g 1h 6 1g 1i 6 1g 1j 6 1g 1k 6 1g 1l 6 1h 1c 6 1d kco 6 1e kco 6 1f kco 6 1g
kco 6 1h kco 6 1i kco 6 1j kco 6 1k kco 6 1l kco 7 1d 1c kco 7 1d 1d kco 7 1d 1e kco 6 2w 2v 7 2t
36 2v 6 2t 3a 7 30 38 2s 3 1 uz 3 1 ux 3 1 uv 3 1 ut 3 2 ur 3 1 up 3 1 un 3 1 ul 3 1 uj 3 1 uh 3 1
uf 3 1 ud 3 1 ub 3 1 u9 3 1 u7 3 1 u5 3 1 u1 3 1 tz 3 1 tx 3 6 tv 3 1 tr 3 1 tn 3 1 tj 3 1 tf 3 5
tb 3 1 t9 3 1 t7 3 6 t5 3 4 t3 6 fl0 gp8 8 9lu 9n5 9oc 9mw 8 9lu 9nv 9n9 9lt 8 9lu 9o3 9ne 9lu 7
9lu 9oc 9nv 8 9lw 9mz 9o3 9m8 7 9lw 9o3 9mp 7 9ly 9m1 9o3 9 9m0 9mh 9m7 9oc 9mx 8 9m0 9oc 9m3 9oc
7 9m2 9o3 9mh 7 9m2 9oc 9nk 7 9m3 9lw 9nu 8 9m3 9nt 9mr 9mw 8 9m3 9nx 9nu 9oc 7 9m4 9nx 9o3 7 9m4
9o3 9ni 6 9m6 9m4 7 9m6 9mz 9oc 8 9m5 9np 9nu 9oc 8 9m6 9nv 9mo 9oc 6 9m5 9nx 9 9m5 9nx 9m8 9nt
9nk a 9m5 9nx 9nl 9oc 9mw 9nv 9 9m5 9nx 9nz 9mr 9mw 7 9m8 9nt 9nk 9 9m8 9nt 9nk 9mw 9o3 9 9m7 9nv
9mk 9lw 9nx 8 9m7 9nx 9oc 9n1 7 9m9 9oc 9mh 7 9mb 9nv 9my 7 9mb 9oc 9nh 8 9md 9lw 9m7 9nv 9 9md
9o3 9mp 9oc 9nk 8 9mf 9nu 9o3 9m8 7 9mj 9o3 9mp 7 9mj 9o3 9mw 7 9mo 9oc 9mh 6 9mv 9mf 6 9mx 9nv 6
9mw 9o3 6 9my 9n2 7 9n2 9mr 9mw 7 9n3 9lw 9ms 9 9n5 9oc 9mj 9o3 9mw 7 9n5 9oc 9ms 8 9n4 9oc 9nw
9nv 9 9n8 9lu 9mh 9mw 9nv 7 9n8 9m7 9nv 6 9n8 9mb 6 9n7 9nv 9 9n9 9lt 9nt 9mr 9mx 8 9n9 9lv 9oc
9mw 9 9na 9mr 9mf 9lz 9nv 7 9n9 9nt 9o3 9 9nc 9m7 9mn 9oc 9nv 6 9ne 9ml 7 9ne 9mz 9n6 7 9nc 9nv
9ms 7 9ne 9o3 9mh 7 9ne 9oc 9mg 7 9nd 9oc 9mn 8 9nh 9lw 9o3 9mw 7 9ng 9nv 9mw 6 9nf 9o3 7 9nh 9o3
9mx 7 9nf 9oc 9nv 7 9nf 9oc 9o3 8 9ni 9lw 9m7 9nx 7 9ni 9lw 9nv 7 9ni 9mr 9n3 7 9ni 9nv 9m7 9 9ni
9o3 9mf 9nr 9o3 8 9nj 9m7 9nx 9o3 6 9nj 9nu 9 9nj 9nu 9n4 9oc 9nv 6 9nl 9m4 8 9nl 9m4 9mw 9o3 8
9nl 9oc 9mw 9nv 7 9no 9oc 9mx 7 9no 9oc 9nv 7 9nq 9lu 9o3 8 9nu 9mr 9mw 9nv 6 9nu 9nt 7 9nv 9n8
9oc 8 9nv 9oc 9na 9nv 6 9nw 9nk 9 9nw 9o3 9mw 9ma 9o3 7 9nz 9mr 9mw 6 1c m9l 6 1d m9l 6 1e m9l 6
1f m9l 6 1g m9l 6 1h m9l 6 1i m9l 6 1j m9l 6 1k m9l 6 1l m9l 7 1d 1c m9l 7 1d 1d m9l 7 1d 1e m9l 7
1d 1f m9l 7 1d 1g m9l 7 1d 1h m9l 7 1d 1i m9l 7 1d 1j m9l 7 1d 1k m9l 7 1d 1l m9l 7 1e 1c m9l 7 1e
1d m9l 7 1e 1e m9l 7 1e 1f m9l 7 1e 1g m9l 7 2w 34 2p 6 2s 2p 6 2p 39 7 2q 2p 36 6 33 3a 6 34 2r 6
2s 31 7 2s 31 1e 7 2s 31 1f 6 2x 39 6 inn jdc 6 k6l gp8 6 hlz l7n 6 k5q lh7 8 kkq irz fmi ny6 6 34
2p 6 32 2p 6 qk 2p 6 31 2p 6 2z 2p 6 2z 2q 6 31 2q 6 2v 2q 7 2r 2p 30 8 2z 2r 2p 30 6 34 2u 6 32
2u 6 qk 2u 6 qk 2v 6 31 2v 6 2z 2v 6 2w 3e 7 2z 2w 3e 7 31 2w 3e 7 2v 2w 3e 7 38 2w 3e 6 qk 30 6
31 30 6 2s 30 6 2z 30 6 2u 31 6 32 31 6 qk 31 6 31 31 6 2r 31 6 2z 31 7 31 31 1e 7 2r 31 1e 6 31
1e 7 2z 31 1e 7 31 31 1f 7 2r 31 1f 6 31 1f 7 2z 31 1f 7 31 6qd 37 8 31 6qd 37 1e 6 34 2p 7 2z 34
2p 7 31 34 2p 7 2v 34 2p 7 36 2p 2s 9 36 2p 2s 6qd 37 a 36 2p 2s 6qd 37 1e 6 34 37 6 32 37 6 qk 37
6 31 37 6 34 3a 6 32 3a 6 qk 3a 6 31 3a 6 2z 3a 6 31 3a 6 34 3b 6 32 3b 6 qk 3b 6 31 3b 6 2z 3b 6
31 3b 6 2z qx 6 31 qx 1 1 6 2q 35 6 2r 2r 6 2r 2s 8 2r 6qd 2z 2v 1 1 6 2s 2q 6 2v 3d 6 2w 2p 6 2w
34 6 2x 32 6 2z 2z 6 2z 31 6 2z 38 6 30 31 6 30 32 7 30 33 2v 6 30 3c 6 31 2q 7 31 2x 30 7 31 33
30 6 34 2w 1 1 7 34 34 31 6 34 36 6 37 36 6 37 3a 6 3b 2q 7 3a 6qd 31 7 2p 6qd 31 6 1d k4l 6 1e
k4l 6 1f k4l 6 1g k4l 6 1h k4l 6 1i k4l 6 1j k4l 6 1k k4l 6 1l k4l 7 1d 1c k4l 7 1d 1d k4l 7 1d 1e
k4l 7 1d 1f k4l 7 1d 1g k4l 7 1d 1h k4l 7 1d 1i k4l 7 1d 1j k4l 7 1d 1k k4l 7 1d 1l k4l 7 1e 1c
k4l 7 1e 1d k4l 7 1e 1e k4l 7 1e 1f k4l 7 1e 1g k4l 7 1e 1h k4l 7 1e 1i k4l 7 1e 1j k4l 7 1e 1k
k4l 7 1e 1l k4l 7 1f 1c k4l 7 1f 1d k4l 7 2v 2p 30 0 m8d 1 3 0 1j 1 9 0 9o 1 k 4 m 3 1 2 0 j 4 e 3
1 1s4j 3 1 1s4h 0 2i 1 8 0 y 4 6 3 1 2 0 3 4 v 3 1 1 0 8 4 2 3 1 1iiv 4 4 3 1 2 0 4 3 1 2 0 1 3 1
1t8v 0 2 3 1 2 0 1 3 1 2 0 3 4 a 3 1 1taf 3 1 1tb1 3 1 1tat 3 1 1ta9 3 1 1taf 0 1 3 1 1t7n 3 1
1t8z 3 1 1t7t 3 1 1fk 4 8 3 1 2n 3 1 1tad 3 1 1ilr 4 2 3 1 1tcd 4 8 3 1 1toh 1 k 3 1 1u63 3 1 1u71
3 1 1u6x 3 1 1u6d 3 1 2 0 2 3 1 1twh 3 1 1tu3 0 1f 1 3 0 a 1 6 0 1k 1 8 0 1y 1 8 0 c 1 6 0 38 1 b
0 u 1 3 0 26 1 1 0 b 1 4 0 x 1 1 0 1j 1 9 0 e 1 2 0 a 1 2 0 2v 1 o 0 s 1 a 0 6 1 2 0 6 1 2 0 6 1 9
0 7 1 1 0 7 1 1 0 18 3 1 1nt 3 1 23 3 1 1uqt 3 1 p 0 9 3 1 1upj 0 2 1 4 3 28 1nz3 0 1a 1 2 0 a 1 6
0 8mc 1 c 0 n 1 4 0 1d 1 6is 3 1 16y7 3 1 1lp5 3 1 15yn 3 1 16r9 3 1 1ilh 3 1 1vhh 3 1 1t8h 3 1
zbp 3 1 zbr 3 1 1r3j 3 1 14s1 3 1 1slj 3 1 1r47 3 1 1not 3 1 1fm1 3 1 1c0j 3 1 19cx 3 1 18rx 3 1
18ab 3 1 15af 3 1 1kir 3 1 1jar 3 1 1htl 3 1 1gmp 3 1 1a5x 3 1 14yl 3 1 11ld 3 1 1ve9 3 1 1tfx 3 1
1k4x 3 1 1hc5 3 1 19er 3 1 zyb 3 1 1pk1 3 1 1i7h 3 1 19kb 3 1 185b 3 1 1nef 3 1 1b4r 3 1 18nj 3 1
1ozf 3 1 1lpf 3 1 1j7j 3 1 1h0d 3 1 158b 3 1 1v0t 3 1 1u5p 3 1 1tpd 3 1 1mmv 3 1 1k8r 3 1 1hdv 3 1
1fh3 3 1 1bvp 3 1 19i5 3 1 19df 3 1 16dr 3 1 12q3 3 1 111v 3 1 101r 3 1 1eu5 3 1 1egp 3 1 1cu1 3 1
1aeh 3 1 14dx 3 1 zup 3 1 17md 3 1 1rd1 3 1 1oxp 3 1 1dc7 3 1 1bpp 3 1 1haf 3 1 1erd 3 1 16vf 3 1
12ub 3 1 1rdv 3 1 1pzl 3 1 1kkx 3 1 1j39 3 1 1im5 3 1 1d1b 3 1 1cmp 3 1 134b 3 1 1trz 3 1 1bpr 3 1
1u5r 3 1 1u6p 3 1 1e9f 3 1 1ctt 3 1 1adp 3 1 132f 3 1 17eb 3 1 1nh3 3 1 1kmr 3 1 17lp 3 1 1vm1 3 1
1q7j 3 1 1okb 3 1 1gvn 3 1 1g4j 3 1 1tp3 3 1 1eq9 3 1 1v0r 3 1 1oqh 3 1 1voz 3 1 1jjr 3 1 1mg1 3 1
1d3j 3 1 1tfz 3 1 1rmj 3 1 1fiv 3 1 1aa1 3 1 17rd 3 1 1jzf 3 1 15s1 3 1 1jo3 3 1 1nft 3 1 1au5 3 1
1n6x 3 1 1g69 3 1 1vgx 3 1 1ue5 3 1 1u8v 3 1 1l9t 3 1 1d7r 3 1 1b15 3 1 17px 3 1 14yl 3 1 1tsj 3 1
1ta3 3 1 1r8b 3 1 1p2j 3 1 1md7 3 1 1ibv 3 1 1eph 3 1 13g1 3 1 11kp 3 1 zxd 3 1 zud 3 1 1ty5 3 1
1lzd 3 1 1k4p 3 1 15xx 3 1 1p9v 3 1 1o1p 3 1 1nvj 3 1 1mul 3 1 1iot 3 1 1hub 3 1 1gk5 3 1 1ehh 3 1
1cub 3 1 1bv3 3 1 161v 3 1 1a39 3 1 15nx 3 1 14f5 3 1 1u6h 3 1 1tyr 3 1 1t4x 3 1 1i25 3 1 18l7 3 1
17u5 3 1 1p69 3 1 1opn 3 1 1nbl 3 1 1k31 3 1 1djj 3 1 1h0j 3 1 1vgn 3 1 1s9r 3 1 1qbp 3 1 1plt 3 1
1onz 3 1 1gxh 3 1 1gnd 3 1 1c89 3 1 1byr 3 1 14vt 3 1 1307 3 1 12vp 3 1 12k7 3 1 1v83 3 1 1ekv 3 1
1539 3 1 133z 3 1 1odr 3 1 1vmv 3 1 1upt 3 1 1qcb 3 1 1q7v 3 1 1mix 3 1 1ks9 3 1 1hpf 3 1 1fy5 3 1
1a4r 3 1 15l9 3 1 zn1 3 1 1m61 3 1 13cf 3 1 1u2j 3 1 1lsp 3 1 1lm3 3 1 1jip 3 1 1izh 3 1 1gud 3 1
1gbr 3 1 1f45 3 1 1da5 3 1 12hv 3 1 1uiv 3 1 1nwn 3 1 1391 3 1 1v0x 3 1 1px3 3 1 1j9z 3 1 1655 3 1
1oyh 3 1 1oa1 3 1 1ll1 3 1 1h2f 3 1 138r 3 1 1u93 3 1 1ti5 3 1 1q7n 3 1 1me1 3 1 1lwl 3 1 1ldf 3 1
1jp7 3 1 1gvv 3 1 1g5h 3 1 1cd5 3 1 18of 3 1 18nh 3 1 154p 3 1 134f 3 1 1tuf 3 1 1izn 3 1 1ti7 3 1
1hrv 3 1 1god 3 1 19t7 3 1 138b 3 1 10z9 3 1 102v 3 1 1ltl 3 1 1jdf 3 1 1bff 3 1 1e8n 3 1 1e3z 3 1
1djh 3 1 1hf7 3 1 1i9v 3 1 17pj 3 1 1vnd 3 1 1axb 3 1 1ua1 3 1 1ucx 3 1 1pdh 3 1 1nq5 3 1 1dg9 3 1
1qm5 3 1 1jnx 3 1 1m77 3 1 166v 3 1 18xj 3 1 13ef 3 1 18fx 3 1 1pbj 3 1 1uon 3 1 1swp 0 2 3 1 1rvv
0 1 3 1 1mbf 0 2 3 1 1ugd 3 1 1hav 3 1 1fvd 3 1 1ewn 3 1 1eut 3 1 1euh 3 1 1es7 3 1 130r 3 1 1dj1
3 1 1cch 0 1 3 1 19uj 0 1 3 1 17wz 0 2 3 1 15uh 3 1 15jl 0 3 3 1 12et 3 1 12e5 3 1 12br 3 1 10j5 3
1 15lr 3 1 13an 3 1 1vcz 3 1 1uvn 3 1 1uq1 3 1 1u4z 3 1 1u3j 3 1 1txj 3 1 1t0x 3 1 1sv5 3 1 1spr 3
1 1rzl 3 1 1rtv 3 1 1qct 3 1 1qcb 3 1 1opd 3 1 1odn 3 1 1obl 3 1 1o63 3 1 1mub 3 1 1mm7 3 1 1mcj 3
1 1lkt 3 1 1jmj 3 1 1jdj 3 1 1iyx 3 1 1i2b 3 1 1hrv 3 1 1gzz 3 1 1f8z 3 1 1ezf 3 1 1eyv 3 1 1eyz 3
1 1eyl 3 1 1eyb 3 1 1exz 3 2 1evd 3 1 1elj 3 1 1ehz 3 1 1e0b 3 1 1d51 3 1 1d3x 3 1 1d0v 3 1 1cjz 3
1 1cbv 3 1 1bkt 3 1 1bd3 3 1 1bd5 3 1 1amn 3 1 18rj 3 1 18k5 3 1 1801 3 1 17wz 3 1 17a9 3 1 177d 3
1 165b 3 1 15y5 3 1 13bd 3 1 12vn 3 1 12sd 3 1 1otn 3 1 3ls4 3 1 1bjd 1 2 3 1 1w2b 3 1 1unr 3 1
1us3 3 1 1vj9 3 1 1uu5 3 1 1uqx 3 1 1u8t 3 1 1u61 3 1 1t4l 3 1 1t8n 3 1 1t4x 3 1 1t0x 3 1 1s1v 3 1
1rwz 3 1 1roz 3 1 1ro5 3 1 1r97 3 1 1qy9 3 1 1pi7 3 1 1phv 3 1 1p9x 3 1 1p67 3 1 1opn 3 1 1oj5 3 1
1on3 3 1 1ofp 3 1 1oib 3 1 1oa9 3 1 1o6n 3 1 1nkh 3 1 1nfn 3 1 1ncp 3 1 1myb 3 1 1mih 3 1 1m9h 3 1
1m9b 3 1 1m63 3 1 1kjb 3 1 1kfr 3 1 1ju3 3 1 1j7d 3 1 1j8b 3 1 1j3j 3 1 1ipl 3 1 1i6z 3 1 1fqj 3 1
1hw1 3 1 1hpb 3 1 1hij 3 1 1h0f 3 1 1gs7 3 1 1gpb 3 1 1gct 3 1 1gcr 3 1 1g3b 3 1 1g2f 3 1 1g13 3 1
1fwd 3 1 1fwz 3 1 1fb1 3 1 1ek5 3 1 1e55 3 1 1dut 3 1 1dif 3 1 1d9z 3 1 1crp 3 1 1cgp 3 1 1b5t 3 1
1ax5 3 1 19iv 3 1 18tl 3 1 18pt 3 1 18oz 3 1 188j 3 1 185f 3 1 187z 3 1 1851 3 1 1859 3 1 1869 3 1
1823 3 1 17xn 3 1 17ch 3 1 16hf 3 1 1601 3 1 15jp 3 1 157h 3 1 13mb 3 1 13gn 3 1 13ab 3 1 132z 3 1
1311 3 1 130f 3 1 12xt 3 1 11th 3 1 100z 3 1 3b3q 3 1 3b3c 3 1 3fns 3 1 23jd 3 1 21rp 3 1 21px 3 1
3roo 3 1 3vuc 3 1 49a0 3 1 106h 3 1 102d 1 12 6 2u 2u 6 2u 2x 6 2u 30 7 2u 2u 2x 7 2u 2u 30 6 37
38 6 37 38 1 c 6 12s 12u 6 12s 12d 6 12s 12j 6 132 12u 6 12s 12l 1 5 6 15l 14k 0 1 6 16a 14n 3 1
2ovv 3 1 2owx 3 2 2owt 3 3 2owh 3 1 2ovx 3 1 2ovv 3 1 2r5n 6 161 14x 6 161 14y 7 161 14s 14x 7 161
14s 14y 6 15c 14n 6 15c 14o 6 15c 14s 6 15d 14s 6 15e 14s 6 15f 14s 6 15g 14s 6 15h 14s 6 15i 14s
1 1 6 15k 14s 6 15l 14s 6 15m 14s 6 15n 14s 6 15o 14s 1 1 6 15q 14s 1 1 6 15s 14s 6 15t 14s 1 1 6
15v 14s 6 15w 14s 1 1 6 15y 14s 6 15z 14s 6 160 14s 6 161 14s 6 162 14s 6 15h 14p 6 15d 14v 6 15n
14v 6 15w 14v 6 15c 15o 3 1 2oql 3 1 2oqn 3 1 2oq5 3 1 2oq7 3 1 2oq9 3 1 2oqb 3 1 2oq7 3 1 2oq9 3
1 2oqb 3 1 2oqd 3 1 2oqb 3 1 2oqd 3 1 2oqf 3 1 2oqh 3 1 2oqv 3 1 2oqx 3 1 2oqz 3 1 2or1 3 1 2oqt 3
1 2oqv 3 1 2oqx 3 1 2oqz 3 1 2ord 3 1 2orf 3 1 2orh 3 1 2orj 3 1 2op7 3 1 2op9 3 1 2opb 3 1 2opd 3
1 2opb 3 1 2opd 3 1 2opf 3 1 2oph 3 1 2orf 3 1 2orh 3 1 2orj 3 1 2orl 3 1 2orp 3 1 2orr 3 1 2ort 3
1 2orv 3 1 2orr 3 1 2ort 3 1 2orv 3 2 2orx 3 1 2orz 3 1 2os1 3 1 2os3 3 1 2ort 3 1 2orv 3 1 2orz 3
1 2os1 3 1 2orz 3 1 2os1 3 1 2osf 3 1 2osh 3 1 2orn 3 1 2orp 3 1 2os5 3 1 2os7 3 1 2oqx 3 1 2oqz 3
1 2or1 3 1 2or3 3 1 2oqt 3 1 2oqv 3 1 2oqx 3 1 2oqz 3 1 2oqt 3 1 2oqv 3 1 2oqx 3 1 2oqz 3 1 2or5 3
1 2or7 3 1 2or9 3 1 2orb 3 1 2oqv 3 2 2oqx 3 1 2oqz 3 1 2or1 3 1 2or3 3 1 2oqv 3 2 2oqx 3 1 2oqz 3
1 2or1 3 1 2or3 3 1 2orb 3 1 2ord 3 1 2orf 3 1 2orh 3 1 2oqf 3 2 2oqh 3 1 2oqj 0 x 3 1 2ouj 3 1
2oul 3 1 2oun 3 1 2oup 3 1 2otb 3 1 2otd 3 1 2oth 3 1 2otj 3 1 2oth 3 1 2otj 6 1c7 19w 3 1 2oth 3
1 2otj 3 1 2otx 3 1 2otz 3 1 2ott 3 1 2otv 3 1 2otj 3 1 2otl 3 1 2otn 3 1 2otp 3 1 2p19 3 1 2p1b 6
17q 17r 6 17q 17r 6 17q 1cl 6 17q 1cl 6 17q 18o 6 17q 18o 6 17q 1c7 6 17q 1c7 6 17q 1c6 6 17q 1c6
6 17q 1c8 6 17q 1c8 6 17q 1cg 6 17q 1cg 6 17q 1cg 6 17q 18p 6 17q 18p 6 17q 18p 3 1 2ov3 3 1 2ov5
3 1 2ov7 3 1 2ov9 6 17q 17w 6 17q 17x 6 17q 18l 6 17q 18p 6 17q 18q 6 17s 17w 6 17s 17x 6 17s 17y
6 17s 18l 6 17s 18p 6 17s 18q 6 17u 17w 6 17u 17x 6 17u 17y 6 17u 18l 6 17u 18p 6 17u 18q 6 17v
17w 6 17v 18l 6 17v 18p 6 17v 18q 6 17w 17x 6 17w 18l 6 17x 17w 6 17x 18l 6 17y 17w 6 17y 17x 6
17y 18l 6 183 17w 6 183 17x 6 183 17y 6 183 18l 6 185 17x 6 185 18l 6 186 17w 6 186 17x 6 186 17y
6 186 18l 6 187 17x 6 187 18l 6 188 18l 6 189 17w 6 189 18l 6 18a 17w 6 18a 18l 6 18h 17w 6 18h
17x 6 18h 17y 6 18h 18l 6 18h 18p 6 18h 18q 6 18i 17x 6 18i 18l 6 18i 18p 6 18i 18q 6 18j 17r 6
18j 17w 6 18j 17x 6 18j 17y 6 18j 18k 6 18j 18l 6 18j 18p 6 18j 18q 6 18k 17w 6 18k 17x 6 18k 17y
6 18k 18l 6 18k 18p 6 18k 18q 6 18l 17w 6 18l 17x 6 18l 17y 6 18l 18l 6 18l 18p 6 18l 18q 6 18m
17w 6 18m 17x 6 18m 17y 6 18m 18l 6 18m 18p 6 18m 18q 6 18n 17w 6 18n 18l 6 18n 18p 6 18n 18q 6
18q 17w 6 18q 17x 6 18q 17y 6 18q 18l 6 18q 18p 6 18q 18q 6 180 19s 6 181 19s 6 18p 19s 7 w 18s
18x 7 w 18t 18x 7 w 18u 18x 7 w 18v 18x 7 w 18w 18x 7 w 18x 19s 6 17q 181 6 17q 182 6 17q 18l 6
17q 18m 6 17q 18p 6 17q 18q 6 17s 181 6 17s 182 6 17s 18l 6 17s 18m 6 17s 18p 6 17s 18q 6 17u 181
6 17u 182 6 17u 18l 6 17u 18m 6 17u 18p 6 17u 18q 6 17v 181 6 17v 182 6 17v 18l 6 17v 18m 6 17v
18p 6 17v 18q 6 18h 18p 6 18h 18q 6 18i 18p 6 18i 18q 6 18j 17r 6 18j 18k 6 18j 18l 6 18j 18p 6
18j 18q 6 18k 18l 6 18k 18p 6 18k 18q 6 18l 17r 6 18l 18l 6 18m 181 6 18m 182 6 18m 18l 6 18m 18m
6 18m 18p 6 18m 18q 6 18p 19s 6 18q 181 6 18q 182 6 18q 18l 6 18q 18m 6 18q 18p 6 18q 18q 6 17q
17w 6 17q 17x 6 17q 17y 6 17q 18l 6 17q 18n 6 17s 17w 6 17s 17x 6 17s 17y 6 17s 18l 6 17s 18n 6
17u 17w 6 17u 17x 6 17u 17y 6 17u 18l 6 17u 18n 6 17v 18l 6 17w 17x 6 17w 18l 6 17x 17w 6 17x 18l
6 17y 17w 6 17y 18l 6 183 17w 6 183 17x 6 183 17y 6 183 18l 6 185 17x 6 185 17y 6 185 18l 6 186
17w 6 186 17x 6 186 17y 6 186 18l 6 187 17x 6 188 18l 6 189 17w 6 189 18l 6 18a 17w 6 18a 18l 6
18h 17w 6 18h 17x 6 18h 17y 6 18h 18l 6 18i 17x 6 18i 18l 6 18j 17w 6 18j 17x 6 18j 17y 6 18j 18k
6 18j 18l 6 18k 17w 6 18k 17x 6 18k 17y 6 18k 18l 6 18k 18n 6 18l 17w 6 18l 17x 6 18l 17y 6 18l
18l 6 18m 17w 6 18m 17x 6 18m 17y 6 18m 18l 6 18m 18n 6 18n 17w 6 18n 18l 6 18n 19s 6 18q 17w 6
18q 17x 6 18q 17y 6 18q 18l 6 18q 18n 6 17q 18l 6 17q 18n 6 17s 18l 6 17s 18n 6 17u 18l 6 17u 18n
6 17v 18l 6 17v 18n 6 183 18l 6 183 18n 6 184 18l 6 184 18n 6 18j 18k 6 18j 18l 6 18k 18l 6 18m
18l 6 18m 18n 6 18q 18l 6 18q 18n 7 18g 18u 18x 7 18g 18v 18x 7 18g 18w 18x 6 187 18p 6 187 18q 6
189 18p 6 189 18q 6 18a 18p 6 18a 18q 6 183 18p 6 183 18q 6 184 18p 6 184 18q 6 17x 18p 6 17x 18q
6 17w 18p 6 17w 18q 6 17y 18p 6 17y 18q 6 185 18p 6 185 18q 6 186 18p 6 186 18q 6 184 17w 6 184
17x 6 184 17y 6 184 18l 6 184 181 6 183 181 6 185 181 6 186 181 6 187 18p 6 187 18q 6 189 18p 6
189 18q 6 18a 18p 6 18a 18q 6 183 18p 6 183 18q 6 184 18p 6 184 18q 6 17x 18p 6 17x 18q 6 17w 18p
6 17w 18q 6 17y 18p 6 17y 18q 6 185 18p 6 185 18q 6 186 18p 6 186 18q 6 184 17w 6 184 17x 6 184
17y 6 184 18l 6 184 181 6 183 181 6 185 181 6 186 181 6 184 17w 6 184 17x 6 184 17y 6 184 18l 6
183 18n 6 184 18n 6 187 18l 6 183 17w 6 183 17x 6 183 17y 6 184 17w 6 184 17x 6 184 17y 6 187 18l
6 188 18l 6 17r 18r 6 17r 18r 0 i 7 17u 17w 18l 7 17u 17x 17w 7 17u 17x 17w 7 17u 17x 18l 7 17u
17y 18l 7 17u 18l 17w 7 17u 18l 17x 7 17u 18l 17y 7 17w 18l 17x 7 17w 18l 17x 7 17x 18l 18q 7 17x
18l 18p 7 183 17x 17w 7 183 17w 17x 7 183 17w 18p 7 183 18l 17x 7 183 18l 17x 7 183 18l 17w 7 183
18l 18l 7 183 18l 18l 7 185 17x 17x 7 185 17x 17x 7 185 18l 18l 7 184 17x 18l 7 184 17x 18l 7 184
17w 18q 7 184 18l 17y 7 184 18l 17y 7 184 18l 18l 7 184 18l 18l 7 186 17x 18p 7 186 17y 18l 7 186
17y 18l 7 187 18l 17x 7 187 18l 17x 7 187 18l 18l 7 187 18l 18q 7 189 17w 18l 7 189 18l 18l 7 189
18l 18l 7 189 18l 18p 7 18a 18l 18l 7 18a 18l 18q 7 18a 18l 18p 7 18h 17y 18l 7 18h 17y 18l 7 18i
18l 17x 7 18i 18l 18l 7 18k 17x 18l 7 18k 17x 18q 7 18k 17x 18p 7 18k 17w 17w 7 18k 17w 17w 7 18k
17y 18l 7 18k 17y 18l 7 18k 18l 17x 7 18k 18l 17x 7 18l 17x 17w 7 18l 17x 18l 7 18l 17x 18q 7 18l
17w 17x 7 18l 17w 18l 7 18l 17y 17w 7 18l 17y 18l 0 2 7 18l 17w 17y 7 18n 18l 17w 7 18n 18l 18l 7
18m 17x 18l 7 18m 17x 18p 7 18m 17w 18l 7 18m 17w 18l 7 18m 17w 18p 7 18m 18l 18q 7 18m 18l 18p 7
18q 18l 18l 7 18q 18l 18l 7 17s 17y 18q 7 17u 17w 18q 7 17u 17w 18p 7 17u 17y 18q 7 17u 17y 18p 7
17u 18l 18q 7 17u 18l 18p 7 17w 18l 18q 7 17w 17x 18p 7 17w 18l 18p 7 183 17y 18p 7 185 17x 18q 7
184 17x 18q 7 186 17x 18q 7 18k 17w 18q 7 18k 18l 18q 7 18q 17x 18q 7 18q 17w 18q 7 18q 18l 18q 7
18l 18l 18q 7 18i 18l 18q 7 18m 17x 18q 7 18i 18l 17x 7 18k 17x 18l 7 189 18l 18q 7 18j 18l 18q 7
18m 17w 17x 7 18l 17y 18q 7 18k 17w 18l 7 18j 18l 18l 7 18k 17w 18l 7 18m 17w 17x 7 17w 17x 18q 7
17x 17w 18q 7 18l 17w 18q 7 18h 18l 18q 7 17s 17x 18q 7 18j 18l 18l 7 189 17w 18l 7 185 18l 18l 7
183 17y 18q 7 18m 17w 18q 0 8 1 w 7 185 18k 1ci 7 18i 18k 1ci 8 17r 18k 18k 18n 8 17r 18j 17s 181
8 18l 17x 18l 17z 8 185 18k 189 18l 8 181 183 18o 18k 8 189 18k 18q 18n 8 18o 183 18k 18l 7 185
18k 18p m 185 18k 18p w 17r 18k 18k 18n w 189 18k 18q 18n w 18o 183 18k 18l c 17w 18k w 17w 18k
17r 18k 18n 8 181 1cc 17r 18k 0 3 2 g 3 1 2sav 3 1 29en 1 1 3 2 2sa9 3 1 2sbr 3 1 2sa5 3 2 29dt 1
7 0 g 1 1 3 1 2fqx 3 1 2fr1 3 1 2s9z 3 1 2sa1 3 2 2sd5 3 1 2s8n 3 1 2s8l 3 2 29ft 3 2 29g5 3 2
29gl 3 2 29gt 3 4 29gp 0 2 3 1 2sbb 3 1 2sb9 6 w lh 6 w lh 6 w lh 6 w lh 3 1 2sbf 3 1 2sbh 3 1
2sbj 3 1 2sef 3 1 29i7 1 2 3 1 2sdt 3 1 2sdx 3 1 2sdp 3 1 2sff 3 1 2ft3 3 2 2sf5 3 1 2san 3 1 2sal
3 2 29ht 3 1 2sfr 3 1 2sfn 3 2 2sfh 3 1 2sff 3 1 2sen 3 1 2sel 3 1 2sep 1 1 3 1 2sd3 3 2 2sg9 3 1
2set 1 4 6 w 18r 6 18g 18r 6 w 18s 0 1 6 w 18t 1 1 6 w 18u 6 18g 18u 6 w 18v 6 18g 18v 6 w 18w 6
18g 18w 6 w 18x 6 18g 18x 6 w 18y 6 18g 18y 3 2 2q4d 3 2 2q4f 3 2 2q4h 3 2 2q4j 3 2 2q4l 3 1 2q4n
3 1 2q4p 3 2 2q4r 3 2 2q4t 3 1 2q4v 3 1 2q4x 3 2 2q4z 3 2 2q51 3 1 2q53 3 1 2q55 3 2 2q57 3 1 2q59
3 1 2q5b 3 2 2q5d 3 1 2q5f 3 1 2q5h 3 2 2q5j 3 1 2q5l 3 1 2q5n 3 2 2q5p 3 1 2q5r 3 1 2q5t 3 2 2q5v
3 2 2q5x 3 2 2q5z 3 2 2q61 3 2 2q63 3 1 2q65 3 1 2q67 3 2 2q69 3 1 2q6b 3 1 2q6d 3 2 2q6f 3 1 2q6h
3 1 2q6j 3 2 2q6l 3 1 2q6n 3 1 2q6p 3 2 2q6r 3 1 2q6t 3 1 2q6v 3 2 2q6x 3 1 2q6z 3 1 2q71 3 2 2q73
3 1 2q75 3 1 2q77 3 2 2q79 3 1 2q7b 3 1 2q7d 3 1 2q7f 3 1 2q73 3 1 2q75 3 1 2q77 3 2 2q79 3 1 2q7b
3 1 2q7d 3 2 2q7f 3 1 2q7h 3 1 2q7j 3 2 2q7l 3 1 2q7n 3 1 2q7p 3 2 2q7r 3 1 2q7t 3 1 2q7v 3 2 2q7x
3 1 2q7z 3 1 2q81 3 2 2q83 3 1 2q85 3 1 2q87 3 2 2q89 3 2 2q8b 3 2 2q8d 3 1 2q8f 3 1 2q8h 3 1 2q8j
6 18k 17m 6 18k 17m 6 18k 17n 6 18k 17n 6 18k 17p 6 18k 17p 6 18k 17r 6 18k 17r 1 2 2 1 1 1 3 w
2sov 3 q 2sn3 3 10 2sov 3 2 2chf 3 1 2sth 3 2 29wr 3 1 29xh 3 1 29jn 3 1 29k7 3 1 29or 3 1 29op 3
1 29on 3 1 29ol 3 1 29oj 3 1 29ld 3 1 29lb 3 1 29l9 3 1 29nb 3 1 29k7 3 1 29p9 3 1 29p7 3 1 29p5 3
1 29p3 3 2 29p1 3 1 29oz 3 1 29ox 3 1 29ov 3 1 29ot 3 1 29or 3 1 29op 3 1 29on 3 1 29ol 3 1 29oj 3
1 29oh 3 1 29of 3 1 29ob 3 1 29o9 3 1 29o7 3 6 29o5 3 1 29o1 3 1 29nx 3 1 29nt 3 1 29np 3 5 29nl 3
1 29nj 3 1 29nh 3 6 29nf 3 1 29nd 3 1 29n7 3 2 29s9 2 1 3 2 2m9t 3 1 2m0h 3 1 2m9v 3 2 2m0h 3 3
2m9z 3 6 2m0j 3 1 2m97 3 3 2mad 3 1 2m91 3 a 2maf 1 3 3 6 2m69 1 2 3 6 2m6d 1 2 3 6 2m6h 1 2 3 3
2m6l 1 3 3 2 2su3 3 1 2stn 6 w lg 3 1 2su3 3 1 2su7 3 1 2g6x 1 1 3 1 2eh7 3 4 2fu9 3 1 2e8p 3 1
2e6d 1 h 0 c 1 1 0 q 1 1 0 j 1 1 0 2 1 1 0 f 1 2 0 e 1 y 0 3f 1 5 0 3 1 4 0 19 1 3 0 2g 1 1 0 d 1
3 0 1 1 1b 0 1a 1 3m 0 t 1 3 0 1d 1 f 0 s 1 4 0 10 1 9 0 u 1 5 0 17 1 5 0 u 1 1 0 11 1 4 0 e 1 16
3 14 28 0 3a 1 2 0 a 1 6 3 10 28 1 4 0 10 1 4 0 14 1 8 0 1g 1 b 0 1 3 b 26 1 1 3 f 26 1 1 3 7 26 1
1 3 2 26 1 1 0 b 1 1 0 f 1 1 0 7 1 1 0 2 1 3 0 1g 1 c 0 8n 1 9 0 m 1 a 0 8 1 o 0 1 3 2 2uzl 3 1
2vqx 3 1 2v2t 3 1 2v6r 1 1 3 1 2v2f 3 1 10eb 3 1 2v2f 3 1 2v2j 3 2 2v6x 3 1 2kfr 3 1 2v6z 3 1 2v6p
3 1 2v2l 3 1 2v6h 3 1 2v6n 3 1 2v6t 3 1 2v3l 3 1 2vob 3 1 2v3n 3 1 2v6n 3 1 2v53 3 2 2v31 3 1 2v6l
3 1 2d3k 3 1 11y5 3 1 2v6n 3 1 2d3g 3 1 2v4z 3 1 2d3e 3 1 2vrn 3 2 2v6h 3 1 2vzb 3 1 2v6f 3 1 2d36
3 2 2v6d 3 1 2v6b 3 1 2v45 3 1 2v4b 3 1 10gb 3 1 2v4d 3 1 2v65 3 1 2em5 1 1 3 1 2v5x 3 2 2v4z 3 1
2v5l 3 3 2vhn 3 1 2d2a 3 1 2d3c 1 1x 0 6 1 2 0 1 1 1 0 18 1 1 0 2 1 3 0 1 1 2 0 n 1 1 0 20 1 8 0 9
1 1c 0 j 1 1 0 2 1 5 0 x 1 3 0 r 1 5 0 r 1 12 0 1k 1 4 0 k 1 2 0 1e 1 1 0 2 1 5 0 8 1 1 0 3 1 1 0
t 1 2 0 3 1 4 0 a 1 7 0 9 1 7 0 1s 1 w 0 13 1 4 0 c 1 9 0 1i 1 3 0 t 1 2 0 r 1 5 0 q 1 7 0 4 1 c 0
7 1 28 0 21 1 1j 3 1f 3k 1 d 0 1f 1 7 0 1a 1 8 0 a 1 6 0 g 3 m 1s 1 3 0 t 1 8 0 2 1 5s 0 v 1 1 0
16 1 1 0 3 1 2 0 2 1 g 0 6 1 8 0 9 1 x 0 1a 1 8 0 16 1 m 0 q 1 12 0 s 1 k 0 n 1 9 0 26 1 4 0 10 1
9 0 1q 1 1 0 5 1 d 0 p 1 7 0 a 1 6 0 1h 1 1 0 i 1 8 0 13 1 9 0 2o 1 1 0 k 1 b 0 i 1 1 0 1b 1 1q 0
7 1 1 0 1 1 1 0 4 1 1 0 f 1 1 0 b 1 6 0 1n 1 5 0 a 1 6 0 4 1 1 0 8 1 2 0 2 1 2 0 m 1 1 0 7 1 1 0 2
1 1 0 5 1 1 0 a 1 2 0 2 1 2 0 3 1 2 0 1 1 6 0 1 1 5 0 7 1 2 0 7 1 3 0 5 1 b 0 a 1 1 0 1 1 2 0 1 1
1 0 12 1 1 0 a 1 1 0 1 1 2 0 1 1 1 0 4 1 1 0 a 1 1 0 2 1 8 0 2 1 t 0 2k 1 1 0 5 1 u 0 20 1 8 0 a 1
4m 0 1i 1 2 0 12 1 y 0 1x 1 b 0 a 1 6 0 d 1 j 0 1m 1 6 0 a 1 6 0 k 1 s 0 r 1 2 0 f 1 4 0 n 1 55 0
1o 1 2s 3 w 1s 0 1f 1 c 0 8 1 2 0 1 1 2 0 8 1 1 0 2 1 1 0 u 1 1 0 2 1 2 0 c 1 9 0 a 1 1y 0 8 1 2 0
1a 1 2 0 b 1 r 0 20 1 8 0 2b 1 d 0 21 1 7 0 a 1 2e 0 8 1 2g 0 y 1 e 0 a 1 6 0 9 1 1 0 19 1 1 0 e 1
a 0 t 1 3 0 w 1 2 0 m 1 1 0 e 1 21 0 7 1 1 0 2 1 1 0 18 1 3 0 1 1 1 0 2 1 1 0 9 1 8 0 a 1 6 0 6 1
1 0 2 1 1 0 11 1 1 0 2 1 1 0 6 1 7 0 a 1 6 0 18 1 4 0 a 1 6u 0 p 1 7 0 h 1 1 0 15 1 3 0 t 1 2d 0 1
1 f 0 1e 1 d 0 pn 1 2u 0 33 1 1 0 5 1 b 0 5g 1 218 0 2r 1 d 0 ts 1 g 0 m 1 a 0 32z 1 5 0 g7 1 5a1
0 1m 1 1c6 0 ft 1 7 0 v 1 1 0 a 1 4 0 29 1 1 0 a 1 6 0 u 1 2 0 6 1 a 0 1y 1 a 0 a 1 1 0 7 1 1 0 l
1 5 0 j 1 c0 0 1m 1 5i 3 w 1s 0 1n 1 5 3 p 1i 1 2 0 p 1 18 0 23 1 4 0 1l 1 7 0 h 1 1s 0 5 1 b 0 7
1 9 0 5p2 1 15 0 w 1 2p 0 37 1 6pp 0 4 1 1 0 7 1 1 0 2 1 1 0 83 1 f 0 1 1 t 0 3 1 2 0 1 1 e 0 4 1
8 0 b0 1 1s4 0 2z 1 5 0 d 1 3 0 9 1 7 0 a 1 2 0 4 2 4 1 318 0 5y 3 q 51wp 3 a 520v 0 3 1 3 0 c4 1
6 0 n 1 f 0 h 1 f 0 1a 1 2 0 n 1 9 0 38 1 1o 0 6u 1 a 0 13 1 2 0 1h 6 2jx3 2jxh 6 2jx4 2jxh 7 2jx4
2jxh 2jxq 7 2jx4 2jxh 2jxr 7 2jx4 2jxh 2jxs 7 2jx4 2jxh 2jxt 7 2jx4 2jxh 2jxu 0 e 2 8 0 1s 6 2jzt
2jxh 6 2jzu 2jxh 7 2jzt 2jxh 2jxq 7 2jzu 2jxh 2jxq 7 2jzt 2jxh 2jxr 7 2jzu 2jxh 2jxr 0 16 1 l 0 1y
1 3e 0 k 1 c 0 k 1 c 0 2f 1 9 0 p 1 3r 3 q 54ql 3 q 54s1 3 q 54th 3 7 54ux 1 1 3 i 54ux 3 q 54wd 3
q 54xt 3 1 54z9 1 1 3 2 54z9 1 2 3 1 54z9 1 2 3 2 54z9 1 2 3 4 54z9 1 1 3 8 54z9 3 4 550p 1 1 3 1
550p 1 1 3 7 550p 1 1 3 b 550p 3 q 5525 3 q 553l 3 2 5551 1 1 3 4 5551 1 2 3 8 5551 1 1 3 7 5551 1
1 3 q 556h 3 2 557x 1 1 3 4 557x 1 1 3 5 557x 1 1 3 1 557x 1 3 3 7 557x 1 1 3 q 559d 3 q 55at 3 q
55c9 3 q 55dp 3 q 55f5 3 q 55gl 3 q 55i1 3 q 55jh 3 q 55kx 3 q 55md 3 q 55nt 3 q 55p9 3 q 55qp 3 1
55gl 3 1 5523 1 2 3 h 54h9 3 1 54ht 3 7 54h9 3 1 4sj7 3 h 54ip 3 1 54in 3 7 54ip 3 1 4skx 3 1 54jx
3 1 54jt 3 1 54jr 3 1 54j5 3 1 54jh 3 1 54jl 3 h 54kh 3 1 54l1 3 7 54kh 3 1 4smf 3 h 54lx 3 1 54lv
3 7 54lx 3 1 4so5 3 1 54n5 3 1 54n1 3 1 54mz 3 1 54md 3 1 54mp 3 1 54mt 3 h 54np 3 1 54o9 3 7 54np
3 1 4spn 3 h 54p5 3 1 54p3 3 7 54p5 3 1 4srd 3 1 54qd 3 1 54q9 3 1 54q7 3 1 54pl 3 1 54px 3 1 54q1
3 h 54qx 3 1 54rh 3 7 54qx 3 1 4ssv 3 h 54sd 3 1 54sb 3 7 54sd 3 1 4sul 3 1 54tl 3 1 54th 3 1 54tf
3 1 54st 3 1 54t5 3 1 54t9 3 h 54u5 3 1 54up 3 7 54u5 3 1 4sw3 3 h 54vl 3 1 54vj 3 7 54vl 3 1 4sxt
3 1 54wt 3 1 54wp 3 1 54wn 3 1 54w1 3 1 54wd 3 1 54wh 3 1 54ux 3 1 54uz 1 2 3 a 56bf 3 a 56bz 3 a
56cj 3 a 56d3 3 a 56dn 0 i4 1 f 0 5 1 1 0 f 1 uo 0 v 1 6 0 6 1 5x 0 7 1 1 0 h 1 2 0 7 1 1 0 2 1 1
0 5 1 5 3 9 581r 3 3 581p 3 b 581n 3 1 581j 3 2 581h 3 1 3fy9 3 1 57tv 3 1 5817 3 1 5815 3 1 57t5
3 1 57wf 3 1 57up 3 9 583l 3 2 583j 3 2 583f 3 1 583d 3 6 583b 3 2 5839 3 1 57zf 3 1 582r 3 1 582v
3 1 582d 3 1 57y7 3 1 3g39 3 1 57xz 1 x 0 1 1 34 0 19 1 3 0 e 1 2 0 a 1 4 0 2 1 8w 0 v 1 h 0 1m 1
5 0 1 1 cw 0 16 1 5y 0 17 1 4 0 1 1 5c 0 v 1 1 0 m 1 8 0 2 1 68 0 7 1 1 0 4 1 1 0 2 1 1 0 f 1 1 0
5h 1 2 0 g 1 15 3 y 1w 0 16 1 4 0 a 1 4 0 2 1 lt 0 1w 1 24 0 1p 1 5e 3 2 5cq9 3 1 5cq3 3 1 5cpz 1
1 3 1 5cop 3 1 5cpz 3 1 5cqb 3 1 5cpt 3 1 5cot 3 4 5cp9 3 1 5cqd 3 1 5cq3 3 1 5cpp 3 1 5cqf 3 1
5cpr 3 1 5cqr 3 1 5cqn 3 2 5cr9 3 1 5cr5 3 1 5cr3 3 1 5cqt 3 1 5cqr 3 1 5cqp 3 1 5cnv 3 1 5cjp 3 1
5cl5 3 1 5cnz 1 1 3 1 5cs1 3 1 5crv 1 1 3 1 5cqh 1 2 3 1 5cs3 1 1 3 1 5cql 3 4 5cr1 3 1 5cs5 3 1
5crv 3 1 5crh 3 1 5cs7 3 1 5crj 1 1 3 1 5csf 3 2 5ct1 3 1 5csx 1 1 3 1 5csl 1 1 3 1 5csh 1 6 3 1
5ctn 1 4 3 1 5ctv 1 1 3 1 5csd 1 1 3 1 5cst 1 1 3 1 5cst 3 1 5ctx 3 1 5ctn 1 1 3 1 5ctz 3 1 5ctb 1
1 3 1 5cu7 1 2 3 1 5cup 1 1 3 1 5cud 1 1 3 1 5cu9 1 1 3 1 5cn9 1 1 3 1 5crj 1 1 3 1 5cvl 3 1 5cvf
1 1 3 1 5cu1 1 2 3 1 5cvn 3 1 5cv5 3 1 5cu5 3 1 5cul 1 1 3 2 5cul 3 1 5cvp 3 1 5cvf 3 1 5cv1 3 1
5cvr 3 1 5cv3 1 1 3 1 5cvz 3 2 5cwl 3 1 5cwh 1 1 3 1 5cw5 3 1 5cw3 3 1 5cw1 3 1 5ct7 1 1 3 1 5cqh
1 1 3 2 5cxd 3 1 5cx7 3 1 5cx3 3 2 5cvt 3 1 5cx3 3 1 5cxf 3 1 5cwx 3 1 5cvx 1 1 3 3 5cwd 3 1 5cxh
3 1 5cx7 3 1 5cwt 3 1 5cxj 3 1 5cwv 3 1 5cxv 3 1 5cxr 3 2 5cyd 3 1 5cy9 3 1 5cy7 3 1 5cxx 3 1 5cxv
3 1 5cxt 1 5 3 1 5cz5 3 1 5cyz 3 1 5cyv 1 1 3 1 5cxl 3 1 5cyv 3 1 5cz7 3 1 5cyp 3 1 5cxp 1 1 3 3
5cy5 3 1 5cz9 3 1 5cyz 3 1 5cyl 3 1 5czb 3 1 5cyn 3 1 5czn 3 1 5czj 3 2 5d05 3 1 5d01 3 1 5czz 3 1
5czp 3 1 5czn 3 1 5czl 1 1g 0 2 1 7i 0 18 1 4 0 2s 1 c 0 f 1 2 0 f 1 1 0 f 1 1 0 11 1 b 6 1c 18 6
1d 18 6 1e 18 6 1f 18 6 1g 18 6 1h 18 6 1i 18 6 1j 18 6 1k 18 6 1l 18 0 5 7 14 2p 15 7 14 2q 15 7
14 2r 15 7 14 2s 15 7 14 2t 15 7 14 2u 15 7 14 2v 15 7 14 2w 15 7 14 2x 15 7 14 2y 15 7 14 2z 15 7
14 30 15 7 14 31 15 7 14 32 15 7 14 33 15 7 14 34 15 7 14 35 15 7 14 36 15 7 14 37 15 7 14 38 15 7
14 39 15 7 14 3a 15 7 14 3b 15 7 14 3c 15 7 14 3d 15 7 14 3e 15 7 9hw 37 9hx 3 1 5g9b 3 1 5g8j 6
2r 2s 6 3b 3e 0 1 3 q 5g9p 6 2w 3a 6 31 3a 6 37 2s 6 37 37 7 34 34 3a 6 3b 2r 0 q 6 31 2r 6 31 2s
6 31 36 0 z 6 2s 2y 0 t 1 1k 0 q 6 9kr 9jf 6 9mb 9mb 3 1 4xi1 1 d 3 1 4dxl 3 1 4goj 3 1 4jnv 3 1
4xhz 3 1 4lqn 3 1 4hkl 3 1 3yat 3 1 4hjv 3 1 4lpj 3 1 4cfl 3 1 4835 3 1 4cn7 3 1 4k9p 3 1 4f1d 3 1
4kkh 3 1 4cm5 3 1 4kcl 3 1 43b1 3 1 46it 3 1 3x83 3 1 4hnr 3 1 4jiv 3 1 48wz 3 1 4dur 3 1 4dk5 3 1
4lzl 3 1 4lz5 3 1 3vsx 3 1 4fpn 3 1 4lxb 3 1 4jn9 3 1 4dov 3 1 3wxr 3 1 4dyz 3 1 44td 3 1 44fl 3 1
4jmf 3 1 4961 3 1 4c49 3 1 4c4d 3 1 46ix 3 1 4k99 3 1 4iyv 3 1 3vff 1 4 7 9hw kdo 9hx 7 9hw fex
9hx 7 9hw fik 9hx 7 9hw i2x 9hx 7 9hw m9l 9hx 7 9hw jf7 9hx 7 9hw nh3 9hx 7 9hw gd9 9hx 7 9hw k0n
9hx 1 7 3 1 4f3l 3 1 4jpf 1 e 0 6 1 4a 0 rd 1 3 0 h 1 3 0 d 1 3 0 62 1 6 0 c 1 4 0 1 1 f 0 c 1 4 0
1k 1 8 0 a 1 6 0 14 1 8 0 u 1 2 0 c 1 4 0 2 1 e 0 9 1 13 0 9k 1 8 0 e 1 2 0 d 1 3 0 b 1 3 0 1l 1 1
0 1 1 4 0 g 1 2 0 c 1 4 0 a 1 7 0 43 1 1 0 2k 3 a 5klb 0 1 1 sl 0 wyo 1 w 0 3dq 1 2 0 4ge 1 2 0
5rl 1 f 0 ha 1 1wi 3 1 7hc5 3 1 7hch 3 1 7hc1 3 1 2pj5 3 1 7gw7 3 1 7grx 3 1 7gr9 3 1 7gnd 3 1
7ggr 3 1 7gf3 3 1 7gat 3 1 7gc7 3 1 7rh7 3 1 2nj9 3 1 7g5d 3 1 7g51 3 1 7g47 3 1 7g37 3 1 2nzf 3 1
7rg3 3 1 7g49 3 1 7g27 3 1 2nx1 3 1 7g1r 3 1 7g13 3 1 7h5l 3 1 7g0r 3 1 7g0b 3 1 14e1 3 1 7fwv 3 1
7fw5 3 1 7ren 3 1 7ft5 3 1 7fsl 3 1 7fq7 3 1 7fpz 3 1 7rbx 3 1 7fln 3 1 7fll 3 1 7fk5 3 1 7fiz 3 2
7fif 3 1 7fhj 3 1 7fet 3 1 7fef 3 1 7fdz 3 1 7fcn 3 1 7fc5 3 1 7fc3 3 1 7fc5 3 1 7fc7 3 1 2m1b 3 1
73wp 3 1 7f87 3 1 7f73 3 1 2lk9 3 1 7f6j 3 1 7f69 3 1 7f55 3 1 7ewr 3 1 7f2h 3 1 7f1n 3 1 7ezx 3 1
7ewr 3 1 7es5 3 1 7eqr 3 1 7en3 3 1 7em9 3 1 7ekh 3 1 7ekj 3 1 7ejf 3 1 7eih 3 1 7ei3 3 1 7ehb 3 1
7dyh 3 1 7edn 3 1 7dyj 3 1 7e9l 3 1 7e7p 3 1 7fyp 3 1 7d8l 3 1 7don 3 1 7dml 3 1 7dl9 3 1 7dsj 3 1
7djb 3 1 7djf 3 1 7dcn 3 1 2hux 3 1 7d8v 3 1 7d8n 3 1 7d7v 3 1 7d6t 3 1 7d6f 3 1 7d2x 3 1 2h67 3 1
2h2l 3 1 7cvf 3 1 7csv 3 1 7cs9 3 1 7cwp 3 1 7cov 3 1 7qpd 3 1 7qon 3 1 7cg1 3 1 7cd3 3 1 7cd5 3 1
2fyf 3 1 7c5v 3 1 7c4r 3 1 7c3z 3 1 7c3d 3 1 2fg1 3 1 7c2t 3 1 7c2h 3 1 7arl 3 1 7c11 3 1 7qi1 3 1
7bxp 3 1 7bwz 3 1 7bsh 3 1 7bvd 3 1 2ect 3 1 7bld 3 1 2ect 3 1 7bj3 3 1 7bjb 3 1 7bif 3 2 7bcv 3 1
7q93 3 1 7bbh 3 1 7b95 3 1 7b81 3 1 7b5n 3 1 7q6j 3 1 2cy3 3 1 7q57 3 1 7b1x 3 1 7b1t 3 1 7b1p 3 1
7b0n 3 1 xkp 3 1 7axv 3 1 2can 3 1 2cap 3 1 6x43 3 1 7aw3 3 1 7aw5 3 1 7q1p 3 1 2665 3 1 1njv 3 1
7ast 3 1 7asd 3 1 7q0f 3 1 7apv 3 1 7an3 3 1 7aml 3 1 7akr 3 1 7ad9 3 1 7pvx 3 1 7pxn 3 1 7acd 3 1
2avz 3 1 7a9n 3 1 7a2j 3 1 7a2d 3 1 7a2b 3 1 7a2h 3 1 79zz 3 1 79yx 3 1 79wz 3 1 79xt 3 1 79x9 3 1
79up 3 1 79tn 3 1 79th 3 1 79s3 3 1 79rj 3 1 79nx 3 1 79jb 3 1 79hf 3 1 79al 3 1 2993 3 1 79br 3 1
79ff 3 1 799h 3 1 7981 3 1 792p 3 1 28wp 3 1 78zd 3 1 794l 3 1 7967 3 1 7pk7 3 1 78vn 3 1 78uj 3 1
78sv 3 1 78v1 3 1 7ph1 3 1 78j5 3 1 78hl 3 1 27b3 3 1 78b3 3 1 77vr 3 1 785j 3 1 7p7t 3 1 781n 3 1
7p8v 3 1 7pax 3 1 7gcf 3 1 7gcb 3 1 77vr 3 1 781d 3 1 6xqp 3 1 7lrv 3 1 77up 3 1 77uj 3 1 77u9 3 1
77qx 3 1 77rl 3 1 25v7 3 1 7p61 3 1 77ih 3 1 77p1 3 1 77dp 3 1 77ax 3 1 25m3 3 1 77aj 3 1 77gr 3 1
7737 3 1 7p1v 3 1 770r 3 1 76vf 3 1 76rj 3 1 76h1 3 1 24r5 3 1 76eb 3 1 7ovf 3 1 76aj 3 1 23yp 3 1
767t 3 1 7osn 3 1 7669 3 1 763t 3 2 762d 3 1 2383 3 1 2evt 3 1 2325 3 1 75uf 3 1 22d9 3 1 75o9 3 1
75nj 3 1 75t9 3 1 75jl 3 1 75hf 3 1 75eb 3 1 75hd 3 1 75f7 3 1 75ef 3 1 75dr 3 1 228f 3 1 75id 3 1
754h 3 1 7511 3 1 7oh9 3 1 74vz 3 1 74w9 3 1 21kn 3 1 757t 3 1 74n5 3 1 21cz 3 1 21ad 3 1 74if 3 1
74c3 3 1 74dn 3 1 74dv 3 1 7ocf 3 1 74bd 3 1 748l 3 1 748z 3 1 7461 3 1 2odn 3 1 73xp 3 1 206r 3 1
73sz 3 1 1zon 3 1 73lb 3 1 73kn 3 1 73j7 3 1 1yr9 3 1 73gn 3 1 73fj 3 1 1yap 3 1 1xyd 3 1 732z 3 1
7323 3 1 7ny3 3 1 730r 3 1 7nxj 3 1 7nxl 3 1 72rx 3 1 72qt 3 1 72pp 3 1 72on 3 1 72kv 3 1 7nsf 3 1
72fz 3 1 1wcd 3 1 72en 3 1 1w7d 3 1 72bz 3 1 2d6b 3 1 7237 3 1 1v03 3 1 1uyv 3 1 1ur5 3 1 7ngj 3 1
7nfx 3 1 71qv 3 1 1uhn 3 1 1uhr 3 1 1ufn 3 1 1ue9 3 2 71ot 3 1 71ov 3 1 71mj 3 1 7ndr 3 1 71j1 3 1
7nd5 3 1 7n8r 3 1 1t9b 3 1 718f 3 1 7151 3 1 711j 3 1 7n4r 3 1 1sgn 3 1 70u1 3 1 1sab 3 1 1s7z 3 1
70r1 3 1 70lz 3 1 7n0x 3 1 70hd 3 1 70gv 3 1 70gn 3 1 1r5r 3 1 1qp7 3 1 1qp9 3 1 7081 3 1 7mpn 3 1
1qaz 3 1 6zw7 3 1 6zw3 3 1 7mnt 3 1 1pzd 3 1 6zhj 3 1 7mh9 3 1 6zgf 3 1 6zgr 3 1 6zf7 3 1 1osp 3 1
6z9t 3 1 7mc7 3 1 6z4d 3 1 6z15 3 1 6yxh 3 1 7m9l 3 1 1nrn 3 1 1npz 3 1 7m7p 3 1 1nhz 3 1 6ygn 3 1
1nch 3 1 6yf9 3 1 6y9p 3 1 6y95 3 1 1mpt 3 1 1mlt 3 1 6y49 3 1 1mej 3 1 6y3h 3 1 269t 3 1 7m1j 3 1
6xzz 3 1 6xvj 3 1 7lyp 3 1 6xsd 3 1 7d0h 3 1 1lmn 3 1 1llx 3 1 267f 3 1 266z 3 1 6xhv 3 1 6xhr 3 1
6s4d 3 1 7ltx 3 1 6xa3 3 1 6xah 3 1 6x9j 3 1 7g71 3 1 6x8j 3 1 6x8h 3 1 6x7z 3 1 6x5r 3 1 1k8l 3 1
6x5x 3 1 6x2v 3 1 6wz1 3 1 6wuz 3 1 6x2p 3 1 6wu7 3 1 6wrx 3 1 6wlr 3 1 6x09 3 1 6wtp 3 1 6wtn 3 1
6wst 3 1 1jvf 3 1 1jeb 3 1 1jmp 3 1 7lkn 3 1 6wdp 3 1 6wdn 3 1 6wbr 3 1 1gw1 3 1 6w7j 3 1 1ipt 3 1
7li9 3 1 7li3 3 1 1iil 3 1 1i2l 3 1 7lhp 3 1 6vut 3 1 6vu7 3 1 6vtn 3 1 6vtl 3 1 6vq3 3 1 6vrz 3 1
6vkl 3 1 6vn3 3 1 6ver 3 1 6vjb 3 1 6vfn 3 1 6ve7 3 1 7lcf 3 1 6v99 3 1 6v7j 3 1 7lap 3 1 6v2d 3 1
6v29 3 1 1fwb 3 1 6uvx 3 1 6uvl 3 1 7l7p 3 1 6uu5 3 1 7s4d 3 1 1f09 3 1 1eq3 3 1 7l0d 3 1 7kzx 3 1
6u71 3 1 6u2t 3 1 6tu5 3 1 6tix 3 1 1dg5 3 1 6te9 3 1 6td3 3 1 6t85 3 1 6t33 3 1 1cgh 3 1 2njd 3 1
6syl 3 1 6szh 3 1 6swn 3 1 2n7h 3 1 6sk3 3 1 6sel 3 1 19uj 3 1 19t3 3 1 6rvf 3 1 6rqb 3 1 6rol 3 1
19bh 3 1 6ro5 3 1 6r8d 3 2 6qzl 3 1 6r4r 3 1 6qjn 3 1 6qi5 3 1 17fp 3 1 6pxh 3 1 7jxv 3 1 6pv5 3 1
16ur 3 1 7jtj 3 1 6pgf 3 1 7c03 3 1 6pb7 3 1 15cx 3 1 1515 3 1 7jmb 3 1 7jlx 3 1 6p0z 3 1 149t 3 1
7jir 3 1 1425 3 1 6oyt 3 1 6oyv 3 1 6ox9 3 1 13md 3 1 6on3 3 1 7jbz 3 1 6oj9 3 1 6ocb 3 1 6oav 3 1
6o7l 3 1 7j3n 3 1 11gx 3 1 6nsf 3 1 6nbp 3 1 6n19 3 1 7ipp 3 1 7io1 3 1 6mvj 3 1 z9f 3 1 7inl 3 1
z6h 3 1 yrt 3 1 ykl 3 1 6mcz 3 1 7iin 3 1 6m9n 3 1 6m9f 3 1 6m93 3 1 6m8l 3 1 6m89 3 1 6m69 3 1
x89 1 15u 0 3t7 1 5 0 6ju 1 f62u 2 6o 1 47bk")

def action (c : Char) : Action × Nat :=
  match actionTable.find? fun range => c.toNat < range.first + range.count with
  | some range => (range.action, c.toNat - range.first)
  | none => (.refuse, 0)

def mapChar? (c : Char) : Option Text :=
  match action c with
  | (.keep, _) => some [c]
  | (.refuse, _) => none
  | (.drop, _) => some []
  | (.shift distance, _) => some [Char.ofNat (c.toNat + distance).toNat]
  | (.alternate, offset) => some [if offset % 2 = 0 then Char.ofNat (c.toNat + 1) else c]
  | (.replace characters, _) => some (characters.map Char.ofNat)

def isValidChar (c : Char) : Bool := mapChar? c == some [c]

end ApiGateway.Domain
