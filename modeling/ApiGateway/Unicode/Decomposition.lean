import ApiGateway.Unicode.CharSet

/-! # Canonical decompositions

The characters other than Hangul syllables that canonical decomposition changes, with all steps
taken, and the pairs of characters that canonical composition joins.
-/

namespace ApiGateway.Unicode

/-- A table lists the gap before a character, the length of its decomposition, and the latter. The
fuel bounds the number of entries. -/
def decompositionEntries : Nat → Nat → List Nat → List (Nat × List Nat)
  | 0, _, _ => []
  | fuel + 1, start, gap :: length :: rest =>
    (start + gap, rest.take length) ::
      decompositionEntries fuel (start + gap + 1) (rest.drop length)
  | _, _, _ => []

/-- A table lists the gap before a character and the two characters that compose to it. -/
def compositionEntries (start : Nat) : List Nat → List ((Nat × Nat) × Nat)
  | gap :: a :: b :: rest => ((a, b), start + gap) :: compositionEntries (start + gap + 1) rest
  | _ => []

def decompositions : List (Nat × List Nat) := decompositionEntries 2081 0 (tableNumbers "
5c 2 1t lc 0 2 1t ld 0 2 1t le 0 2 1t lf 0 2 1t lk 0 2 1t lm 1 2 1v mf 0 2 1x lc 0 2 1x ld 0 2 1x
le 0 2 1x lk 0 2 21 lc 0 2 21 ld 0 2 21 le 0 2 21 lk 1 2 26 lf 0 2 27 lc 0 2 27 ld 0 2 27 le 0 2
27 lf 0 2 27 lk 2 2 2d lc 0 2 2d ld 0 2 2d le 0 2 2d lk 0 2 2h ld 2 2 2p lc 0 2 2p ld 0 2 2p le 0
2 2p lf 0 2 2p lk 0 2 2p lm 1 2 2r mf 0 2 2t lc 0 2 2t ld 0 2 2t le 0 2 2t lk 0 2 2x lc 0 2 2x ld
0 2 2x le 0 2 2x lk 1 2 32 lf 0 2 33 lc 0 2 33 ld 0 2 33 le 0 2 33 lf 0 2 33 lk 2 2 39 lc 0 2 39
ld 0 2 39 le 0 2 39 lk 0 2 3d ld 1 2 3d lk 0 2 1t lg 0 2 2p lg 0 2 1t li 0 2 2p li 0 2 1t mg 0 2
2p mg 0 2 1v ld 0 2 2r ld 0 2 1v le 0 2 2r le 0 2 1v lj 0 2 2r lj 0 2 1v lo 0 2 2r lo 0 2 1w lo 0
2 2s lo 2 2 1x lg 0 2 2t lg 0 2 1x li 0 2 2t li 0 2 1x lj 0 2 2t lj 0 2 1x mg 0 2 2t mg 0 2 1x lo
0 2 2t lo 0 2 1z le 0 2 2v le 0 2 1z li 0 2 2v li 0 2 1z lj 0 2 2v lj 0 2 1z mf 0 2 2v mf 0 2 20
le 0 2 2w le 2 2 21 lf 0 2 2x lf 0 2 21 lg 0 2 2x lg 0 2 21 li 0 2 2x li 0 2 21 mg 0 2 2x mg 0 2
21 lj 3 2 22 le 0 2 2y le 0 2 23 mf 0 2 2z mf 1 2 24 ld 0 2 30 ld 0 2 24 mf 0 2 30 mf 0 2 24 lo 0
2 30 lo 4 2 26 ld 0 2 32 ld 0 2 26 mf 0 2 32 mf 0 2 26 lo 0 2 32 lo 3 2 27 lg 0 2 33 lg 0 2 27 li
0 2 33 li 0 2 27 ln 0 2 33 ln 2 2 2a ld 0 2 36 ld 0 2 2a mf 0 2 36 mf 0 2 2a lo 0 2 36 lo 0 2 2b
ld 0 2 37 ld 0 2 2b le 0 2 37 le 0 2 2b mf 0 2 37 mf 0 2 2b lo 0 2 37 lo 0 2 2c mf 0 2 38 mf 0 2
2c lo 0 2 38 lo 2 2 2d lf 0 2 39 lf 0 2 2d lg 0 2 39 lg 0 2 2d li 0 2 39 li 0 2 2d lm 0 2 39 lm 0
2 2d ln 0 2 39 ln 0 2 2d mg 0 2 39 mg 0 2 2f le 0 2 3b le 0 2 2h le 0 2 3d le 0 2 2h lk 0 2 2i ld
0 2 3e ld 0 2 2i lj 0 2 3e lj 0 2 2i lo 0 2 3e lo x 2 27 m3 0 2 33 m3 d 2 2d m3 0 2 39 m3 s 2 1t
lo 0 2 2p lo 0 2 21 lo 0 2 2x lo 0 2 27 lo 0 2 33 lo 0 2 2d lo 0 2 39 lo 0 3 2d lk lg 0 3 39 lk lg
0 3 2d lk ld 0 3 39 lk ld 0 3 2d lk lo 0 3 39 lk lo 0 3 2d lk lc 0 3 39 lk lc 1 3 1t lk lg 0 3 2p
lk lg 0 3 1t lj lg 0 3 2p lj lg 0 2 5i lg 0 2 6e lg 2 2 1z lo 0 2 2v lo 0 2 23 lo 0 2 2z lo 0 2 27
mg 0 2 33 mg 0 3 27 mg lg 0 3 33 mg lg 0 2 c7 lo 0 2 ia lo 0 2 2y lo 3 2 1z ld 0 2 2v ld 2 2 26 lc
0 2 32 lc 0 3 1t lm ld 0 3 2p lm ld 0 2 5i ld 0 2 6e ld 0 2 60 ld 0 2 6w ld 0 2 1t lr 0 2 2p lr 0
2 1t lt 0 2 2p lt 0 2 1x lr 0 2 2t lr 0 2 1x lt 0 2 2t lt 0 2 21 lr 0 2 2x lr 0 2 21 lt 0 2 2x lt
0 2 27 lr 0 2 33 lr 0 2 27 lt 0 2 33 lt 0 2 2a lr 0 2 36 lr 0 2 2a lt 0 2 36 lt 0 2 2d lr 0 2 39
lr 0 2 2d lt 0 2 39 lt 0 2 2b me 0 2 37 me 0 2 2c me 0 2 38 me 2 2 20 lo 0 2 2w lo 6 2 1t lj 0 2
2p lj 0 2 1x mf 0 2 2t mf 0 3 27 lk lg 0 3 33 lk lg 0 3 27 lf lg 0 3 33 lf lg 0 2 27 lj 0 2 33 lj
0 3 27 lj lg 0 3 33 lj lg 0 2 2h lg 0 2 3d lg 7g 1 lc 0 1 ld 1 1 lv 0 2 lk ld 1b 1 jd 9 1 1n 6 2
4o ld 0 2 pd ld 0 1 53 0 2 ph ld 0 2 pj ld 0 2 pl ld 1 2 pr ld 1 2 px ld 0 2 q1 ld 0 3 qh lk ld p
2 pl lk 0 2 px lk 0 2 q9 ld 0 2 qd ld 0 2 qf ld 0 2 qh ld 0 3 qt lk ld p 2 qh lk 0 2 qt lk 0 2 qn
ld 0 2 qt ld 0 2 qx ld 4 2 r6 ld 0 2 r6 lk 17 2 t1 lc 0 2 t1 lk 1 2 sz ld 3 2 sm lk 4 2 t6 ld 0 2
t4 lc 0 2 tf li a 2 t4 li v 2 u0 li m 2 tx lc 0 2 tx lk 1 2 tv ld 3 2 uu lk 4 2 u2 ld 0 2 u0 lc 0
2 ub li n 2 vo lr 0 2 vp lr 21 2 t2 li 0 2 ty li d 2 sw li 0 2 ts li 0 2 sw lk 0 2 ts lk 2 2 t1 li
0 2 tx li 2 2 yg lk 0 2 yh lk 0 2 t2 lk 0 2 ty lk 0 2 t3 lk 0 2 tz lk 2 2 t4 lg 0 2 u0 lg 0 2 t4
lk 0 2 u0 lk 0 2 ta lk 0 2 u6 lk 2 2 yw lk 0 2 yx lk 0 2 tp lk 0 2 ul lk 0 2 tf lg 0 2 ub lg 0 2
tf lk 0 2 ub lk 0 2 tf ln 0 2 ub ln 0 2 tj lk 0 2 uf lk 2 2 tn lk 0 2 uj lk 88 2 17r 18z 0 2 17r
190 0 2 18o 190 0 2 17r 191 0 2 18q 190 49 2 1cl 190 1 2 1c1 190 g 2 1ci 190 gl 2 1t4 1to 7 2 1tc
1to 2 2 1tf 1to z 2 1sl 1to 0 2 1sm 1to 0 2 1sn 1to 0 2 1ss 1to 0 2 1sx 1to 0 2 1sy 1to 0 2 1t7
1to 0 2 1tb 1to 2z 2 1xj 1xa 0 2 1xj 1xz f 2 1wh 1x8 0 2 1wi 1x8 1 2 1wv 1x8 2b 2 20i 20s 2 2 20o
20s y 2 1zq 20s 0 2 1zr 20s 0 2 1zw 20s 2 2 20b 20s 6h 2 287 28m 2 2 287 27y 0 2 287 28n f 2 275
27w 0 2 276 27w 1i 2 2aa 2c7 1h 2 2bq 2bi 0 2 2br 2bi 0 2 2bq 2c7 3f 2 2fa 2fq 3b 2 2in 2j9 6 2
2iu 2j9 0 2 2iu 2ja 1 2 2iu 2iq 0 3 2iu 2iq 2j9 3i 2 2me 2m6 0 2 2mf 2m6 0 2 2me 2mv 3x 2 2qh 2q2
1 2 2qh 2q7 0 3 2qh 2q7 2q2 0 2 2qh 2qn 9w 2 30i 33r 9 2 30s 33r 4 2 30x 33r 4 2 312 33r 4 2 317
33r c 2 30g 33p 9 2 31t 31u 1 2 31t 31w 0 2 33m 328 1 2 33n 328 8 2 31t 328 h 2 32q 33r 9 2 330
33r 4 2 335 33r 4 2 33a 33r 4 2 33f 33r c 2 32o 33p 30 2 36t 372 25b 2 5c5 5dh 1 2 5c7 5dh 1 2 5c9
5dh 1 2 5cb 5dh 1 2 5cd 5dh 3 2 5ch 5dh 14 2 5dm 5dh 1 2 5do 5dh 2 2 5dq 5dh 0 2 5dr 5dh 1 2 5du
5dh jg 2 1t md 0 2 2p md 0 2 1u lj 0 2 2q lj 0 2 1u mb 0 2 2q mb 0 2 1u mp 0 2 2q mp 0 3 1v mf ld
0 3 2r mf ld 0 2 1w lj 0 2 2s lj 0 2 1w mb 0 2 2s mb 0 2 1w mp 0 2 2s mp 0 2 1w mf 0 2 2s mf 0 2
1w ml 0 2 2s ml 0 3 1x lg lc 0 3 2t lg lc 0 3 1x lg ld 0 3 2t lg ld 0 2 1x ml 0 2 2t ml 0 2 1x mo
0 2 2t mo 0 3 1x mf li 0 3 2t mf li 0 2 1y lj 0 2 2u lj 0 2 1z lg 0 2 2v lg 0 2 20 lj 0 2 2w lj 0
2 20 mb 0 2 2w mb 0 2 20 lk 0 2 2w lk 0 2 20 mf 0 2 2w mf 0 2 20 mm 0 2 2w mm 0 2 21 mo 0 2 2x mo
0 3 21 lk ld 0 3 2x lk ld 0 2 23 ld 0 2 2z ld 0 2 23 mb 0 2 2z mb 0 2 23 mp 0 2 2z mp 0 2 24 mb 0
2 30 mb 0 3 24 mb lg 0 3 30 mb lg 0 2 24 mp 0 2 30 mp 0 2 24 ml 0 2 30 ml 0 2 25 ld 0 2 31 ld 0 2
25 lj 0 2 31 lj 0 2 25 mb 0 2 31 mb 0 2 26 lj 0 2 32 lj 0 2 26 mb 0 2 32 mb 0 2 26 mp 0 2 32 mp 0
2 26 ml 0 2 32 ml 0 3 27 lf ld 0 3 33 lf ld 0 3 27 lf lk 0 3 33 lf lk 0 3 27 lg lc 0 3 33 lg lc 0
3 27 lg ld 0 3 33 lg ld 0 2 28 ld 0 2 34 ld 0 2 28 lj 0 2 34 lj 0 2 2a lj 0 2 36 lj 0 2 2a mb 0 2
36 mb 0 3 2a mb lg 0 3 36 mb lg 0 2 2a mp 0 2 36 mp 0 2 2b lj 0 2 37 lj 0 2 2b mb 0 2 37 mb 0 3 2b
ld lj 0 3 37 ld lj 0 3 2b lo lj 0 3 37 lo lj 0 3 2b mb lj 0 3 37 mb lj 0 2 2c lj 0 2 38 lj 0 2 2c
mb 0 2 38 mb 0 2 2c mp 0 2 38 mp 0 2 2c ml 0 2 38 ml 0 2 2d mc 0 2 39 mc 0 2 2d mo 0 2 39 mo 0 2
2d ml 0 2 39 ml 0 3 2d lf ld 0 3 39 lf ld 0 3 2d lg lk 0 3 39 lg lk 0 2 2e lf 0 2 3a lf 0 2 2e mb
0 2 3a mb 0 2 2f lc 0 2 3b lc 0 2 2f ld 0 2 3b ld 0 2 2f lk 0 2 3b lk 0 2 2f lj 0 2 3b lj 0 2 2f
mb 0 2 3b mb 0 2 2g lj 0 2 3c lj 0 2 2g lk 0 2 3c lk 0 2 2h lj 0 2 3d lj 0 2 2i le 0 2 3e le 0 2
2i mb 0 2 3e mb 0 2 2i mp 0 2 3e mp 0 2 2w mp 0 2 38 lk 0 2 3b lm 0 2 3d lm 1 2 an lj 4 2 1t mb 0
2 2p mb 0 2 1t ll 0 2 2p ll 0 3 1t le ld 0 3 2p le ld 0 3 1t le lc 0 3 2p le lc 0 3 1t le ll 0 3
2p le ll 0 3 1t le lf 0 3 2p le lf 0 3 1t mb le 0 3 2p mb le 0 3 1t li ld 0 3 2p li ld 0 3 1t li
lc 0 3 2p li lc 0 3 1t li ll 0 3 2p li ll 0 3 1t li lf 0 3 2p li lf 0 3 1t mb li 0 3 2p mb li 0 2
1x mb 0 2 2t mb 0 2 1x ll 0 2 2t ll 0 2 1x lf 0 2 2t lf 0 3 1x le ld 0 3 2t le ld 0 3 1x le lc 0 3
2t le lc 0 3 1x le ll 0 3 2t le ll 0 3 1x le lf 0 3 2t le lf 0 3 1x mb le 0 3 2t mb le 0 2 21 ll 0
2 2x ll 0 2 21 mb 0 2 2x mb 0 2 27 mb 0 2 33 mb 0 2 27 ll 0 2 33 ll 0 3 27 le ld 0 3 33 le ld 0 3
27 le lc 0 3 33 le lc 0 3 27 le ll 0 3 33 le ll 0 3 27 le lf 0 3 33 le lf 0 3 27 mb le 0 3 33 mb
le 0 3 27 m3 ld 0 3 33 m3 ld 0 3 27 m3 lc 0 3 33 m3 lc 0 3 27 m3 ll 0 3 33 m3 ll 0 3 27 m3 lf 0 3
33 m3 lf 0 3 27 m3 mb 0 3 33 m3 mb 0 2 2d mb 0 2 39 mb 0 2 2d ll 0 2 39 ll 0 3 2d m3 ld 0 3 39 m3
ld 0 3 2d m3 lc 0 3 39 m3 lc 0 3 2d m3 ll 0 3 39 m3 ll 0 3 2d m3 lf 0 3 39 m3 lf 0 3 2d m3 mb 0 3
39 m3 mb 0 2 2h lc 0 2 3d lc 0 2 2h mb 0 2 3d mb 0 2 2h ll 0 2 3d ll 0 2 2h lf 0 2 3d lf 6 2 q9 lv
0 2 q9 lw 0 3 q9 lv lc 0 3 q9 lw lc 0 3 q9 lv ld 0 3 q9 lw ld 0 3 q9 lv n6 0 3 q9 lw n6 0 2 pd lv
0 2 pd lw 0 3 pd lv lc 0 3 pd lw lc 0 3 pd lv ld 0 3 pd lw ld 0 3 pd lv n6 0 3 pd lw n6 0 2 qd lv
0 2 qd lw 0 3 qd lv lc 0 3 qd lw lc 0 3 qd lv ld 0 3 qd lw ld 2 2 ph lv 0 2 ph lw 0 3 ph lv lc 0 3
ph lw lc 0 3 ph lv ld 0 3 ph lw ld 2 2 qf lv 0 2 qf lw 0 3 qf lv lc 0 3 qf lw lc 0 3 qf lv ld 0 3
qf lw ld 0 3 qf lv n6 0 3 qf lw n6 0 2 pj lv 0 2 pj lw 0 3 pj lv lc 0 3 pj lw lc 0 3 pj lv ld 0 3
pj lw ld 0 3 pj lv n6 0 3 pj lw n6 0 2 qh lv 0 2 qh lw 0 3 qh lv lc 0 3 qh lw lc 0 3 qh lv ld 0 3
qh lw ld 0 3 qh lv n6 0 3 qh lw n6 0 2 pl lv 0 2 pl lw 0 3 pl lv lc 0 3 pl lw lc 0 3 pl lv ld 0 3
pl lw ld 0 3 pl lv n6 0 3 pl lw n6 0 2 qn lv 0 2 qn lw 0 3 qn lv lc 0 3 qn lw lc 0 3 qn lv ld 0 3
qn lw ld 2 2 pr lv 0 2 pr lw 0 3 pr lv lc 0 3 pr lw lc 0 3 pr lv ld 0 3 pr lw ld 2 2 qt lv 0 2 qt
lw 0 3 qt lv lc 0 3 qt lw lc 0 3 qt lv ld 0 3 qt lw ld 0 3 qt lv n6 0 3 qt lw n6 1 2 px lw 1 3 px
lw lc 1 3 px lw ld 1 3 px lw n6 0 2 qx lv 0 2 qx lw 0 3 qx lv lc 0 3 qx lw lc 0 3 qx lv ld 0 3 qx
lw ld 0 3 qx lv n6 0 3 qx lw n6 0 2 q1 lv 0 2 q1 lw 0 3 q1 lv lc 0 3 q1 lw lc 0 3 q1 lv ld 0 3 q1
lw ld 0 3 q1 lv n6 0 3 q1 lw n6 0 2 q9 lc 0 2 q9 ld 0 2 qd lc 0 2 qd ld 0 2 qf lc 0 2 qf ld 0 2 qh
lc 0 2 qh ld 0 2 qn lc 0 2 qn ld 0 2 qt lc 0 2 qt ld 0 2 qx lc 0 2 qx ld 2 3 q9 lv n9 0 3 q9 lw n9
0 4 q9 lv lc n9 0 4 q9 lw lc n9 0 4 q9 lv ld n9 0 4 q9 lw ld n9 0 4 q9 lv n6 n9 0 4 q9 lw n6 n9 0
3 pd lv n9 0 3 pd lw n9 0 4 pd lv lc n9 0 4 pd lw lc n9 0 4 pd lv ld n9 0 4 pd lw ld n9 0 4 pd lv
n6 n9 0 4 pd lw n6 n9 0 3 qf lv n9 0 3 qf lw n9 0 4 qf lv lc n9 0 4 qf lw lc n9 0 4 qf lv ld n9 0
4 qf lw ld n9 0 4 qf lv n6 n9 0 4 qf lw n6 n9 0 3 pj lv n9 0 3 pj lw n9 0 4 pj lv lc n9 0 4 pj lw
lc n9 0 4 pj lv ld n9 0 4 pj lw ld n9 0 4 pj lv n6 n9 0 4 pj lw n6 n9 0 3 qx lv n9 0 3 qx lw n9 0
4 qx lv lc n9 0 4 qx lw lc n9 0 4 qx lv ld n9 0 4 qx lw ld n9 0 4 qx lv n6 n9 0 4 qx lw n6 n9 0 3
q1 lv n9 0 3 q1 lw n9 0 4 q1 lv lc n9 0 4 q1 lw lc n9 0 4 q1 lv ld n9 0 4 q1 lw ld n9 0 4 q1 lv n6
n9 0 4 q1 lw n6 n9 0 2 q9 li 0 2 q9 lg 0 3 q9 lc n9 0 2 q9 n9 0 3 q9 ld n9 1 2 q9 n6 0 3 q9 n6 n9
0 2 pd li 0 2 pd lg 0 2 pd lc 0 2 pd ld 0 2 pd n9 1 1 qh 2 2 4o n6 0 3 qf lc n9 0 2 qf n9 0 3 qf
ld n9 1 2 qf n6 0 3 qf n6 n9 0 2 ph lc 0 2 ph ld 0 2 pj lc 0 2 pj ld 0 2 pj n9 0 2 69r lc 0 2 69r
ld 0 2 69r n6 0 2 qh li 0 2 qh lg 0 3 qh lk lc 0 3 qh lk ld 2 2 qh n6 0 3 qh lk n6 0 2 pl li 0 2
pl lg 0 2 pl lc 0 2 pl ld 1 2 6bi lc 0 2 6bi ld 0 2 6bi n6 0 2 qt li 0 2 qt lg 0 3 qt lk lc 0 3 qt
lk ld 0 2 qp lv 0 2 qp lw 0 2 qt n6 0 3 qt lk n6 0 2 px li 0 2 px lg 0 2 px lc 0 2 px ld 0 2 pt lw
0 2 4o lc 0 2 4o ld 0 1 2o 2 3 qx lc n9 0 2 qx n9 0 3 qx ld n9 1 2 qx n6 0 3 qx n6 n9 0 2 pr lc 0
2 pr ld 0 2 q1 lc 0 2 q1 ld 0 2 q1 n9 0 1 50 2 1 6bm 0 1 6bn 84 1 q1 3 1 23 0 2 1t lm 32 2 6mo mw
0 2 6mq mw i 2 6ms mw u 2 6og mw 0 2 6ok mw 0 2 6oi mw 1g 2 6pv mw 4 2 6q0 mw 2 2 6q3 mw n 2 6qr
mw 1 2 6qt mw q 2 6rg mw 2 2 6rn mw 2 2 6rp mw 1 2 6rs mw m 2 1p mw 1 2 6sh mw a 2 6rx mw 0 2 1o
mw 0 2 1q mw 0 2 6sk mw 0 2 6sl mw 2 2 6sy mw 0 2 6sz mw 2 2 6t2 mw 0 2 6t3 mw 6 2 6t6 mw 0 2 6t7
mw 2 2 6te mw 0 2 6tf mw 2 2 6ti mw 0 2 6tj mw y 2 6ua mw 0 2 6ug mw 0 2 6uh mw 0 2 6uj mw 1c 2
6t8 mw 0 2 6t9 mw 0 2 6tt mw 0 2 6tu mw 6 2 6uq mw 0 2 6ur mw 0 2 6us mw 0 2 6ut mw 1n 1 9hk 0 1
9hl 1ip 2 8gt mw 12n 2 9jf 9ll 1 2 9jh 9ll 1 2 9jj 9ll 1 2 9jl 9ll 1 2 9jn 9ll 1 2 9jp 9ll 1 2 9jr
9ll 1 2 9jt 9ll 1 2 9jv 9ll 1 2 9jx 9ll 1 2 9jz 9ll 1 2 9k1 9ll 2 2 9k4 9ll 1 2 9k6 9ll 1 2 9k8
9ll 6 2 9kf 9ll 0 2 9kf 9lm 1 2 9ki 9ll 0 2 9ki 9lm 1 2 9kl 9ll 0 2 9kl 9lm 1 2 9ko 9ll 0 2 9ko
9lm 1 2 9kr 9ll 0 2 9kr 9lm m 2 9ja 9ll 9 2 9lp 9ll d 2 9m3 9ll 1 2 9m5 9ll 1 2 9m7 9ll 1 2 9m9
9ll 1 2 9mb 9ll 1 2 9md 9ll 1 2 9mf 9ll 1 2 9mh 9ll 1 2 9mj 9ll 1 2 9ml 9ll 1 2 9mn 9ll 1 2 9mp
9ll 2 2 9ms 9ll 1 2 9mu 9ll 1 2 9mw 9ll 6 2 9n3 9ll 0 2 9n3 9lm 1 2 9n6 9ll 0 2 9n6 9lm 1 2 9n9
9ll 0 2 9n9 9lm 1 2 9nc 9ll 0 2 9nc 9lm 1 2 9nf 9ll 0 2 9nf 9lm m 2 9ly 9ll 2 2 9nz 9ll 0 2 9o0
9ll 0 2 9o1 9ll 0 2 9o2 9ll 3 2 9od 9ll 13i9 1 rpk 0 1 kc4 0 1 s7e 0 1 rt4 0 1 lw1 0 1 fg2 0 1 gkl
0 1 vj0 0 1 vj0 0 1 hn5 0 1 ssx 0 1 gw7 0 1 hmw 0 1 jcm 0 1 ne1 0 1 p6t 0 1 qin 0 1 qt6 0 1 r20 0
1 sjz 0 1 kxu 0 1 ljv 0 1 mah 0 1 mvy 0 1 q4d 0 1 sq2 0 1 uep 0 1 fia 0 1 ghh 0 1 l50 0 1 mjf 0 1
qi5 0 1 v8e 0 1 ifk 0 1 m3v 0 1 qfh 0 1 r50 0 1 jih 0 1 pnc 0 1 qvz 0 1 iq2 0 1 kd3 0 1 lm2 0 1
mpo 0 1 slq 0 1 fpi 0 1 g53 0 1 gda 0 1 jwk 0 1 l3n 0 1 mj4 0 1 nhj 0 1 pa9 0 1 qh2 0 1 qjg 0 1
s1b 0 1 tv6 0 1 upb 0 1 v7e 0 1 nt8 0 1 nzz 0 1 otc 0 1 q15 0 1 t1g 0 1 vb3 0 1 rfa 0 1 hjz 0 1
iro 0 1 okg 0 1 pdq 0 1 mle 0 1 nuy 0 1 rsy 0 1 ttj 0 1 hjs 0 1 i8y 0 1 kyb 0 1 lp6 0 1 lxr 0 1
oq7 0 1 oxj 0 1 tor 0 1 gcy 0 1 pe3 0 1 g64 0 1 g5o 0 1 o4c 0 1 ou6 0 1 q29 0 1 tpx 0 1 rk0 0 1
jin 0 1 kxu 0 1 rge 0 1 fg9 0 1 i5j 0 1 iz6 0 1 mtj 0 1 n74 0 1 gev 0 1 nwb 0 1 fr3 0 1 iw9 0 1
ff1 0 1 lho 0 1 k1k 0 1 opu 0 1 gjn 0 1 hge 0 1 ni9 0 1 q4p 0 1 re2 0 1 la2 0 1 sds 0 1 lfs 0 1
jjy 0 1 put 0 1 jog 0 1 n6t 0 1 fji 0 1 g2x 0 1 g5l 0 1 kn5 0 1 oo7 0 1 prj 0 1 rf6 0 1 ssv 0 1
gdx 0 1 gn6 0 1 ho3 0 1 ir0 0 1 k3p 0 1 m4e 0 1 nxm 0 1 tkd 0 1 ui2 0 1 vbr 0 1 vda 0 1 gbf 0 1
kau 0 1 l87 0 1 sbm 0 1 ino 0 1 j9s 0 1 jcw 0 1 jve 0 1 lyb 0 1 mdl 0 1 n0p 0 1 o22 0 1 ovo 0 1
pdb 0 1 s9y 0 1 q9a 0 1 sgz 0 1 t3e 0 1 g7r 0 1 gbn 0 1 gql 0 1 ma0 0 1 r0i 0 1 re2 0 1 iq1 0 1
iyd 0 1 jnf 0 1 l9q 0 1 oji 0 1 mt1 0 1 fl0 0 1 h6h 0 1 i5j 0 1 iii 0 1 izg 0 1 muq 0 1 mzt 0 1
p7e 0 1 pc6 0 1 svo 0 1 tti 0 1 tvs 0 1 u1k 0 1 fpn 0 1 o1a 0 1 ss4 0 1 trs 0 1 j4x 0 1 fie 0 1
fyy 0 1 i5q 0 1 i7z 0 1 k2h 0 1 kxu 0 1 mha 0 1 ncy 0 1 q9o 0 1 sjg 0 1 vil 0 1 k94 0 1 tny 0 1
gax 0 1 kfv 0 1 kj7 0 1 lkx 0 1 luk 0 1 mx5 0 1 n6h 0 1 nsb 0 1 opc 0 1 u3i 0 1 g31 0 1 je6 0 1
tq0 0 1 fu3 0 1 ie1 0 1 lpm 0 1 sa2 0 1 ivf 0 1 j7o 0 1 kk7 0 1 mtj 0 1 tqe 0 1 g89 0 1 glr 0 1
i91 0 1 k5v 0 1 kem 0 1 ko8 0 1 lid 0 1 mx2 0 1 naa 0 1 p6h 0 1 r0v 0 1 r1d 0 1 sss 0 1 tsy 0 1
gfz 0 1 lve 0 1 gm5 0 1 mhc 0 1 n14 0 1 qgq 0 1 tr7 0 1 uvr 0 1 vbz 0 1 kgn 0 1 lor 0 1 pns 0 1
o97 0 1 obk 0 1 olu 0 1 mo0 0 1 m8p 0 1 riw 0 1 fk0 0 1 px2 0 1 g8q 0 1 g7b 0 1 ip2 0 1 jir 0 1
onq 0 1 i2t 0 1 ljy 0 1 kac 0 1 saj 0 1 qx8 0 1 tot 0 1 r63 0 1 iqb 0 1 g1s 0 1 gxs 2 1 hga 1 1
k8k 2 1 g66 0 1 mqy 0 1 ngq 0 1 ny4 0 1 nz2 0 1 nz9 0 1 o0f 0 1 tw6 0 1 on2 0 1 p8d 1 1 qhe 1 1
rg8 2 1 shk 0 1 sn1 3 1 u7j 0 1 u7w 0 1 u94 0 1 v5g 0 1 sm6 0 1 trr 0 1 fqm 0 1 fzb 0 1 g25 0 1
gcp 0 1 gdg 0 1 ggh 0 1 gwt 0 1 gzq 0 1 h2g 0 1 hfk 0 1 hig 0 1 i90 0 1 i9a 0 1 j2s 0 1 j8o 0 1
j9q 0 1 jci 0 1 k0f 0 1 k4i 0 1 k9d 0 1 kn9 0 1 lmf 0 1 lqy 0 1 lya 0 1 mem 0 1 mjv 0 1 mxu 0 1
ntd 0 1 ny6 0 1 nyh 0 1 nyg 0 1 nyo 0 1 nyu 0 1 nz1 0 1 o0d 0 1 o0e 0 1 o5c 0 1 o75 0 1 og0 0 1
ovo 0 1 ow9 0 1 oxt 0 1 p6a 0 1 pad 0 1 pnx 0 1 prt 0 1 prt 0 1 q53 0 1 r2o 0 1 r6e 0 1 rgh 0 1
ri1 0 1 rtf 0 1 ruw 0 1 sdy 0 1 shk 0 1 tsz 0 1 u0v 0 1 u2j 0 1 j1x 0 1 36cu 0 1 pp4 2 1 ffq 0 1
g51 0 1 g2w 0 1 fpc 0 1 g1x 0 1 g3k 0 1 gcn 0 1 ge2 0 1 gwt 0 1 gut 0 1 gwp 0 1 gyq 0 1 hga 0 1
hir 0 1 hms 0 1 hn8 0 1 huq 0 1 i08 0 1 iqa 0 1 iqh 0 1 iuh 0 1 iwd 0 1 j4o 0 1 j7y 0 1 j60 0 1
j9q 0 1 j8g 0 1 jci 0 1 jec 0 1 jpg 0 1 jrw 0 1 jte 0 1 k0m 0 1 k8k 0 1 kd3 0 1 kd7 0 1 keu 0 1
l89 0 1 la2 0 1 lkx 0 1 lwb 0 1 lvv 0 1 lya 0 1 m5a 0 1 mem 0 1 nmv 0 1 mk5 0 1 mnj 0 1 mqy 0 1
n01 0 1 n46 0 1 n5n 0 1 nbx 0 1 nbz 0 1 ngq 0 1 nh7 0 1 nhw 0 1 nka 0 1 nk0 0 1 nv0 0 1 o8h 0 1
og0 0 1 ol7 0 1 orf 0 1 ovo 0 1 p4u 0 1 pad 0 1 pxu 0 1 q27 0 1 qrd 0 1 r41 0 1 r5y 0 1 r6e 0 1
ren 0 1 rg8 0 1 rez 0 1 rgh 0 1 rge 0 1 rfx 0 1 ri1 0 1 rka 0 1 ruw 0 1 sag 0 1 sj6 0 1 srd 0 1
sxi 0 1 tq4 0 1 tsz 0 1 tw6 0 1 tzv 0 1 u0v 0 1 u17 0 1 u2j 0 1 umq 0 1 vj0 0 1 313e 0 1 3138 0 1
33dh 0 1 brx 0 1 cns 0 1 cop 0 1 39e1 0 1 3bgw 0 1 3i6r 0 1 vgj 0 1 vim 1v 2 15l 14k 1 2 16a 14n a
2 161 14x 0 2 161 14y 0 3 161 14s 14x 0 3 161 14s 14y 0 2 15c 14n 0 2 15c 14o 0 2 15c 14s 0 2 15d
14s 0 2 15e 14s 0 2 15f 14s 0 2 15g 14s 0 2 15h 14s 0 2 15i 14s 1 2 15k 14s 0 2 15l 14s 0 2 15m
14s 0 2 15n 14s 0 2 15o 14s 1 2 15q 14s 1 2 15s 14s 0 2 15t 14s 1 2 15v 14s 0 2 15w 14s 1 2 15y
14s 0 2 15z 14s 0 2 160 14s 0 2 161 14s 0 2 162 14s 0 2 15h 14p 0 2 15d 14v 0 2 15n 14v 0 2 15w
14v 22i 2 1fpu lj q 2 1fq2 lj 245 2 1huh 1hve 1 2 1huj 1hve e 2 1hut 1hve 3m 2 1hyp 1hyf 0 2 1hyq
1hyf ez 2 1idj 1ida 0 2 1idj 1idz 1i 2 1if6 1ih5 1 2 1if8 1igr 8 2 1iff 1igy 2 2 1ifk 1ih5 1f 2
1igy 1igy 1 2 1igy 1igo 0 2 1igy 1ih5 6q 2 1int 1inu 0 2 1int 1ink 1 2 1int 1inx 6z 2 1iuw 1iun 0
2 1iux 1iun os 2 1jjp 1jjk e7c 2 1xr2 1xr2 0 2 1xr2 1xrd 0 2 1xr2 1xr3 0 2 1xrd 1xr3 0 2 1xr2 1xr4
0 3 1xr2 1xr2 1xr3 0 3 1xr2 1xrd 1xr3 0 3 1xr2 1xr2 1xr4 2f3 2 206f 206f 0 2 206b 206f 0 3 206b
206f 206f jqr 2 2jx3 2jxh 0 2 2jx4 2jxh 0 3 2jx4 2jxh 2jxq 0 3 2jx4 2jxh 2jxr 0 3 2jx4 2jxh 2jxs 0
3 2jx4 2jxh 2jxt 0 3 2jx4 2jxh 2jxu 2e 2 2jzt 2jxh 0 2 2jzu 2jxh 0 3 2jzt 2jxh 2jxq 0 3 2jzu 2jxh
2jxq 0 3 2jzt 2jxh 2jxr 0 3 2jzu 2jxh 2jxr 1m4f 1 fgd 0 1 fg8 0 1 fgh 0 1 2tcy 0 1 fog 0 1 fqm 0 1
fqz 0 1 fsy 0 1 fwa 0 1 fx5 0 1 fzb 0 1 fyn 0 1 ae6 0 1 2ud6 0 1 g25 0 1 g2c 0 1 g2s 0 1 g3b 0 1
2u58 0 1 aex 0 1 g2v 0 1 g3x 0 1 2u6j 0 1 g47 0 1 g4k 0 1 fkc 0 1 g4s 0 1 g51 0 1 3ly7 0 1 g6t 0 1
g77 0 1 afz 0 1 g8r 0 1 g92 0 1 gaa 0 1 gaf 0 1 ahh 0 1 gcn 0 1 gcp 0 1 gdg 0 1 ge2 0 1 ged 0 1
gee 0 1 gev 0 1 gg9 0 1 ggh 0 1 ggq 0 1 ghf 0 1 ghp 0 1 ghr 0 1 ghr 0 1 ghr 0 1 2v58 0 1 m7k 0 1
gju 0 1 gkf 0 1 2vdv 0 1 gkr 0 1 gkx 0 1 gli 0 1 gpq 0 1 gmw 0 1 gnc 0 1 go8 0 1 gpu 0 1 gs6 0 1
gsw 0 1 gur 0 1 gv7 0 1 gw4 0 1 gw4 0 1 gwp 0 1 gx7 0 1 gxf 0 1 gxu 0 1 h7a 0 1 gzq 0 1 h7b 0 1
h1t 0 1 h2s 0 1 g7b 0 1 hke 0 1 hce 0 1 hdg 0 1 he5 0 1 haj 0 1 hf6 0 1 hf5 0 1 hik 0 1 2x9g 0 1
hki 0 1 hkn 0 1 hl2 0 1 hlm 0 1 hlu 0 1 hnm 0 1 2xm0 0 1 2xnu 0 1 hrg 0 1 hsr 0 1 ht3 0 1 hqw 0 1
huu 0 1 aum 0 1 av0 0 1 hzc 0 1 i0u 0 1 i0u 0 1 2y88 0 1 i4j 0 1 i54 0 1 i5j 0 1 i5v 0 1 2yhk 0 1
i67 0 1 i6e 0 1 itv 0 1 i76 0 1 ayp 0 1 i8w 0 1 i9a 0 1 ibk 0 1 ia5 0 1 2z1g 0 1 if7 0 1 2z1i 0 1
ige 0 1 igb 0 1 igs 0 1 ijl 0 1 ijm 0 1 b3j 0 1 ikd 0 1 ilk 0 1 im5 0 1 ind 0 1 b4y 0 1 2zr7 0 1
b5o 0 1 ipc 0 1 ipf 0 1 ipi 0 1 iq2 0 1 3pg2 0 1 iri 0 1 3035 0 1 3035 0 1 poh 0 1 isi 0 1 isi 0 1
b7r 0 1 335k 0 1 3cgq 0 1 iua 0 1 iuj 0 1 b8j 0 1 ivu 0 1 ix9 0 1 ixj 0 1 iyh 0 1 j29 0 1 bay 0 1
ba4 0 1 j2s 0 1 30t0 0 1 j47 0 1 j7s 0 1 j7w 0 1 j7y 0 1 j7w 0 1 j96 0 1 j9q 0 1 jaq 0 1 jac 0 1
jan 0 1 jby 0 1 jci 0 1 jcm 0 1 jdc 0 1 jdn 0 1 jfh 0 1 jht 0 1 jis 0 1 jm8 0 1 31n0 0 1 jlp 0 1
jjw 0 1 jmw 0 1 jnn 0 1 jqc 0 1 31td 0 1 js2 0 1 jph 0 1 jop 0 1 bhq 0 1 ju1 0 1 jum 0 1 jvh 0 1
juf 0 1 bjg 0 1 k0f 0 1 k18 0 1 32mi 0 1 k4j 0 1 kc8 0 1 k7d 0 1 bo9 0 1 k9d 0 1 bns 0 1 bms 0 1
g42 0 1 g45 0 1 kcg 0 1 k9o 0 1 pf1 0 1 deh 0 1 kd3 0 1 kd7 0 1 kdd 0 1 kf2 0 1 ker 0 1 33cz 0 1
bpl 0 1 kje 0 1 kg5 0 1 klu 0 1 kn9 0 1 33hp 0 1 kni 0 1 kkf 0 1 kr8 0 1 brx 0 1 ksi 0 1 kv7 0 1
kx6 0 1 l2g 0 1 33xf 0 1 l3v 0 1 bvc 0 1 l5t 0 1 34br 0 1 l78 0 1 bwu 0 1 l82 0 1 l9b 0 1 la2 0 1
la3 0 1 34p9 0 1 2yvf 0 1 34sa 0 1 le6 0 1 354s 0 1 lhb 0 1 lhp 0 1 lev 0 1 ljq 0 1 lku 0 1 lmf 0
1 lkx 0 1 lm1 0 1 lmg 0 1 lmt 0 1 357i 0 1 lkk 0 1 lrj 0 1 lta 0 1 c37 0 1 lvv 0 1 lvr 0 1 35jl 0
1 lq1 0 1 m0e 0 1 35ni 0 1 35ou 0 1 m2u 0 1 m61 0 1 m5a 0 1 m57 0 1 c5y 0 1 m6i 0 1 m7x 0 1 m7r 0
1 m99 0 1 2u5h 0 1 mdh 0 1 368z 0 1 mfw 0 1 36i3 0 1 mjs 0 1 mk5 0 1 mkw 0 1 36yw 0 1 mm8 0 1 mmt
0 1 3779 0 1 37dg 0 1 mt6 0 1 mtn 0 1 cdo 0 1 mud 0 1 ce0 0 1 ce0 0 1 myv 0 1 mzg 0 1 n01 0 1 n0l
0 1 n2i 0 1 cgr 0 1 n50 0 1 386u 0 1 n5q 0 1 389e 0 1 n74 0 1 2zrz 0 1 nbk 0 1 38v5 0 1 38vs 0 1
38zo 0 1 cn0 0 1 cnc 0 1 nhw 0 1 394j 0 1 394i 0 1 395l 0 1 396b 0 1 nj2 0 1 nj3 0 1 nj3 0 1 nka 0
1 cop 0 1 nm3 0 1 cp2 0 1 cra 0 1 39r1 0 1 nri 0 1 nt8 0 1 nv0 0 1 ctf 0 1 3a5i 0 1 nyu 0 1 3a8q 0
1 3a9x 0 1 o0f 0 1 o2z 0 1 cvj 0 1 o5c 0 1 o5m 0 1 o5r 0 1 3at8 0 1 3b1j 0 1 3b1j 0 1 oa6 0 1 d1e
0 1 3b8r 0 1 og6 0 1 og9 0 1 d2f 0 1 3beo 0 1 onm 0 1 d5s 0 1 oo8 0 1 oo3 0 1 oow 0 1 3c06 0 1 orn
0 1 d8h 0 1 ouf 0 1 ow2 0 1 oxx 0 1 d9w 0 1 3ciw 0 1 3cjr 0 1 dax 0 1 3cnt 0 1 p6i 0 1 3cqm 0 1
p79 0 1 pa2 0 1 pad 0 1 3d22 0 1 3d43 0 1 pcw 0 1 3d7s 0 1 pdc 0 1 33a7 0 1 ded 0 1 pf6 0 1 phf 0
1 dfv 0 1 pj2 0 1 hx1 0 1 3dlz 0 1 3dmd 0 1 33bn 0 1 33bw 0 1 poh 0 1 pok 0 1 sda 0 1 dij 0 1 psh
0 1 psb 0 1 pst 0 1 gc3 0 1 ptd 0 1 ptf 0 1 ptp 0 1 puu 0 1 3ebg 0 1 put 0 1 pwd 0 1 pyb 0 1 q0d 0
1 pwj 0 1 q0t 0 1 q1z 0 1 q53 0 1 pxv 0 1 q16 0 1 q18 0 1 q1o 0 1 3eie 0 1 3eqz 0 1 3emt 0 1 dnv 0
1 q9d 0 1 q9f 0 1 qae 0 1 3g0a 0 1 qck 0 1 3f3g 0 1 dp9 0 1 dpd 0 1 3f75 0 1 3ff6 0 1 dpn 0 1 qj4
0 1 qjg 0 1 qjr 0 1 qjt 0 1 qll 0 1 qko 0 1 qoe 0 1 qn6 0 1 qrd 0 1 qp4 0 1 qqz 0 1 qrq 0 1 dsn 0
1 qu9 0 1 qv5 0 1 dtl 0 1 qxs 0 1 qxv 0 1 3giv 0 1 r13 0 1 r1a 0 1 dv9 0 1 r22 0 1 aez 0 1 3gz2 0
1 3h46 0 1 dz2 0 1 dzb 0 1 rds 0 1 rfx 0 1 rka 0 1 rpx 0 1 3hrc 0 1 rsb 0 1 rsx 0 1 rvf 0 1 rxz 0
1 3i9b 0 1 2upw 0 1 s0b 0 1 rzw 0 1 s1c 0 1 2uvy 0 1 s7o 0 1 sag 0 1 3jki 0 1 3jl9 0 1 sk4 0 1 smp
0 1 snl 0 1 3ju6 0 1 snv 0 1 svs 0 1 t07 0 1 t08 0 1 sxo 0 1 t89 0 1 t91 0 1 3ksa 0 1 tjf 0 1 ej9
0 1 tkn 0 1 3l2v 0 1 eli 0 1 ts3 0 1 iia 0 1 tur 0 1 3ltx 0 1 3lzu 0 1 epa 0 1 epi 0 1 u00 0 1
3mdm 0 1 er6 0 1 3mhi 0 1 u17 0 1 u17 0 1 u21 0 1 3mpi 0 1 u76 0 1 eur 0 1 u95 0 1 ucn 0 1 ude 0 1
uf2 0 1 ez2 0 1 3nsg 0 1 umq 0 1 uv4 0 1 v0d 0 1 f66 0 1 f71 0 1 v3b 0 1 3owe 0 1 f7c 0 1 3oxx 0 1
3p5a 0 1 3p8x 0 1 vcr 0 1 f9y 0 1 veh 0 1 vem 0 1 vet 0 1 vf3 0 1 vfa 0 1 vgb 0 1 3pxc")

def compositions : List ((Nat × Nat) × Nat) := compositionEntries 0 (tableNumbers "
5c 1t lc 0 1t ld 0 1t le 0 1t lf 0 1t lk 0 1t lm 1 1v mf 0 1x lc 0 1x ld 0 1x le 0 1x lk 0 21 lc 0
21 ld 0 21 le 0 21 lk 1 26 lf 0 27 lc 0 27 ld 0 27 le 0 27 lf 0 27 lk 2 2d lc 0 2d ld 0 2d le 0 2d
lk 0 2h ld 2 2p lc 0 2p ld 0 2p le 0 2p lf 0 2p lk 0 2p lm 1 2r mf 0 2t lc 0 2t ld 0 2t le 0 2t lk
0 2x lc 0 2x ld 0 2x le 0 2x lk 1 32 lf 0 33 lc 0 33 ld 0 33 le 0 33 lf 0 33 lk 2 39 lc 0 39 ld 0
39 le 0 39 lk 0 3d ld 1 3d lk 0 1t lg 0 2p lg 0 1t li 0 2p li 0 1t mg 0 2p mg 0 1v ld 0 2r ld 0 1v
le 0 2r le 0 1v lj 0 2r lj 0 1v lo 0 2r lo 0 1w lo 0 2s lo 2 1x lg 0 2t lg 0 1x li 0 2t li 0 1x lj
0 2t lj 0 1x mg 0 2t mg 0 1x lo 0 2t lo 0 1z le 0 2v le 0 1z li 0 2v li 0 1z lj 0 2v lj 0 1z mf 0
2v mf 0 20 le 0 2w le 2 21 lf 0 2x lf 0 21 lg 0 2x lg 0 21 li 0 2x li 0 21 mg 0 2x mg 0 21 lj 3 22
le 0 2y le 0 23 mf 0 2z mf 1 24 ld 0 30 ld 0 24 mf 0 30 mf 0 24 lo 0 30 lo 4 26 ld 0 32 ld 0 26 mf
0 32 mf 0 26 lo 0 32 lo 3 27 lg 0 33 lg 0 27 li 0 33 li 0 27 ln 0 33 ln 2 2a ld 0 36 ld 0 2a mf 0
36 mf 0 2a lo 0 36 lo 0 2b ld 0 37 ld 0 2b le 0 37 le 0 2b mf 0 37 mf 0 2b lo 0 37 lo 0 2c mf 0 38
mf 0 2c lo 0 38 lo 2 2d lf 0 39 lf 0 2d lg 0 39 lg 0 2d li 0 39 li 0 2d lm 0 39 lm 0 2d ln 0 39 ln
0 2d mg 0 39 mg 0 2f le 0 3b le 0 2h le 0 3d le 0 2h lk 0 2i ld 0 3e ld 0 2i lj 0 3e lj 0 2i lo 0
3e lo x 27 m3 0 33 m3 d 2d m3 0 39 m3 s 1t lo 0 2p lo 0 21 lo 0 2x lo 0 27 lo 0 33 lo 0 2d lo 0 39
lo 0 64 lg 0 70 lg 0 64 ld 0 70 ld 0 64 lo 0 70 lo 0 64 lc 0 70 lc 1 5g lg 0 6c lg 0 fa lg 0 fb lg
0 5i lg 0 6e lg 2 1z lo 0 2v lo 0 23 lo 0 2z lo 0 27 mg 0 33 mg 0 dm lg 0 dn lg 0 c7 lo 0 ia lo 0
2y lo 3 1z ld 0 2v ld 2 26 lc 0 32 lc 0 5h ld 0 6d ld 0 5i ld 0 6e ld 0 60 ld 0 6w ld 0 1t lr 0 2p
lr 0 1t lt 0 2p lt 0 1x lr 0 2t lr 0 1x lt 0 2t lt 0 21 lr 0 2x lr 0 21 lt 0 2x lt 0 27 lr 0 33 lr
0 27 lt 0 33 lt 0 2a lr 0 36 lr 0 2a lt 0 36 lt 0 2d lr 0 39 lr 0 2d lt 0 39 lt 0 2b me 0 37 me 0
2c me 0 38 me 2 20 lo 0 2w lo 6 1t lj 0 2p lj 0 1x mf 0 2t mf 0 5y lg 0 6u lg 0 5x lg 0 6t lg 0 27
lj 0 33 lj 0 fi lg 0 fj lg 0 2h lg 0 3d lg 9d 4o ld 0 pd ld 1 ph ld 0 pj ld 0 pl ld 1 pr ld 1 px
ld 0 q1 ld 0 qy ld p pl lk 0 px lk 0 q9 ld 0 qd ld 0 qf ld 0 qh ld 0 qz ld p qh lk 0 qt lk 0 qn ld
0 qt ld 0 qx ld 4 r6 ld 0 r6 lk 17 t1 lc 0 t1 lk 1 sz ld 3 sm lk 4 t6 ld 0 t4 lc 0 tf li a t4 li v
u0 li m tx lc 0 tx lk 1 tv ld 3 uu lk 4 u2 ld 0 u0 lc 0 ub li n vo lr 0 vp lr 21 t2 li 0 ty li d
sw li 0 ts li 0 sw lk 0 ts lk 2 t1 li 0 tx li 2 yg lk 0 yh lk 0 t2 lk 0 ty lk 0 t3 lk 0 tz lk 2 t4
lg 0 u0 lg 0 t4 lk 0 u0 lk 0 ta lk 0 u6 lk 2 yw lk 0 yx lk 0 tp lk 0 ul lk 0 tf lg 0 ub lg 0 tf lk
0 ub lk 0 tf ln 0 ub ln 0 tj lk 0 uf lk 2 tn lk 0 uj lk 88 17r 18z 0 17r 190 0 18o 190 0 17r 191 0
18q 190 49 1cl 190 1 1c1 190 g 1ci 190 gl 1t4 1to 7 1tc 1to 2 1tf 1to 46 1xj 1xa 0 1xj 1xz aj 287
28m 2 287 27y 0 287 28n 1z 2aa 2c7 1h 2bq 2bi 0 2br 2bi 0 2bq 2c7 3f 2fa 2fq 3b 2in 2j9 6 2iu 2j9
0 2iu 2ja 1 2iu 2iq 0 2iy 2j9 3i 2me 2m6 0 2mf 2m6 0 2me 2mv 3x 2qh 2q2 1 2qh 2q7 0 2qk 2q2 0 2qh
2qn g7 36t 372 25b 5c5 5dh 1 5c7 5dh 1 5c9 5dh 1 5cb 5dh 1 5cd 5dh 3 5ch 5dh 14 5dm 5dh 1 5do 5dh
2 5dq 5dh 0 5dr 5dh 1 5du 5dh jg 1t md 0 2p md 0 1u lj 0 2q lj 0 1u mb 0 2q mb 0 1u mp 0 2q mp 0
5j ld 0 6f ld 0 1w lj 0 2s lj 0 1w mb 0 2s mb 0 1w mp 0 2s mp 0 1w mf 0 2s mf 0 1w ml 0 2s ml 0 7m
lc 0 7n lc 0 7m ld 0 7n ld 0 1x ml 0 2t ml 0 1x mo 0 2t mo 0 fc li 0 fd li 0 1y lj 0 2u lj 0 1z lg
0 2v lg 0 20 lj 0 2w lj 0 20 mb 0 2w mb 0 20 lk 0 2w lk 0 20 mf 0 2w mf 0 20 mm 0 2w mm 0 21 mo 0
2x mo 0 5r ld 0 6n ld 0 23 ld 0 2z ld 0 23 mb 0 2z mb 0 23 mp 0 2z mp 0 24 mb 0 30 mb 0 5yu lg 0
5yv lg 0 24 mp 0 30 mp 0 24 ml 0 30 ml 0 25 ld 0 31 ld 0 25 lj 0 31 lj 0 25 mb 0 31 mb 0 26 lj 0
32 lj 0 26 mb 0 32 mb 0 26 mp 0 32 mp 0 26 ml 0 32 ml 0 5x ld 0 6t ld 0 5x lk 0 6t lk 0 98 lc 0 99
lc 0 98 ld 0 99 ld 0 28 ld 0 34 ld 0 28 lj 0 34 lj 0 2a lj 0 36 lj 0 2a mb 0 36 mb 0 5zu lg 0 5zv
lg 0 2a mp 0 36 mp 0 2b lj 0 37 lj 0 2b mb 0 37 mb 0 9m lj 0 9n lj 0 9s lj 0 9t lj 0 602 lj 0 603
lj 0 2c lj 0 38 lj 0 2c mb 0 38 mb 0 2c mp 0 38 mp 0 2c ml 0 38 ml 0 2d mc 0 39 mc 0 2d mo 0 39 mo
0 2d ml 0 39 ml 0 a0 ld 0 a1 ld 0 a2 lk 0 a3 lk 0 2e lf 0 3a lf 0 2e mb 0 3a mb 0 2f lc 0 3b lc 0
2f ld 0 3b ld 0 2f lk 0 3b lk 0 2f lj 0 3b lj 0 2f mb 0 3b mb 0 2g lj 0 3c lj 0 2g lk 0 3c lk 0 2h
lj 0 3d lj 0 2i le 0 3e le 0 2i mb 0 3e mb 0 2i mp 0 3e mp 0 2w mp 0 38 lk 0 3b lm 0 3d lm 1 an lj
4 1t mb 0 2p mb 0 1t ll 0 2p ll 0 5e ld 0 6a ld 0 5e lc 0 6a lc 0 5e ll 0 6a ll 0 5e lf 0 6a lf 0
61s le 0 61t le 0 76 ld 0 77 ld 0 76 lc 0 77 lc 0 76 ll 0 77 ll 0 76 lf 0 77 lf 0 61s li 0 61t li
0 1x mb 0 2t mb 0 1x ll 0 2t ll 0 1x lf 0 2t lf 0 5m ld 0 6i ld 0 5m lc 0 6i lc 0 5m ll 0 6i ll 0
5m lf 0 6i lf 0 62g le 0 62h le 0 21 ll 0 2x ll 0 21 mb 0 2x mb 0 27 mb 0 33 mb 0 27 ll 0 33 ll 0
5w ld 0 6s ld 0 5w lc 0 6s lc 0 5w ll 0 6s ll 0 5w lf 0 6s lf 0 630 le 0 631 le 0 bk ld 0 bl ld 0
bk lc 0 bl lc 0 bk ll 0 bl ll 0 bk lf 0 bl lf 0 bk mb 0 bl mb 0 2d mb 0 39 mb 0 2d ll 0 39 ll 0 bz
ld 0 c0 ld 0 bz lc 0 c0 lc 0 bz ll 0 c0 ll 0 bz lf 0 c0 lf 0 bz mb 0 c0 mb 0 2h lc 0 3d lc 0 2h mb
0 3d mb 0 2h ll 0 3d ll 0 2h lf 0 3d lf 6 q9 lv 0 q9 lw 0 64g lc 0 64h lc 0 64g ld 0 64h ld 0 64g
n6 0 64h n6 0 pd lv 0 pd lw 0 64o lc 0 64p lc 0 64o ld 0 64p ld 0 64o n6 0 64p n6 0 qd lv 0 qd lw
0 64w lc 0 64x lc 0 64w ld 0 64x ld 2 ph lv 0 ph lw 0 654 lc 0 655 lc 0 654 ld 0 655 ld 2 qf lv 0
qf lw 0 65c lc 0 65d lc 0 65c ld 0 65d ld 0 65c n6 0 65d n6 0 pj lv 0 pj lw 0 65k lc 0 65l lc 0
65k ld 0 65l ld 0 65k n6 0 65l n6 0 qh lv 0 qh lw 0 65s lc 0 65t lc 0 65s ld 0 65t ld 0 65s n6 0
65t n6 0 pl lv 0 pl lw 0 660 lc 0 661 lc 0 660 ld 0 661 ld 0 660 n6 0 661 n6 0 qn lv 0 qn lw 0 668
lc 0 669 lc 0 668 ld 0 669 ld 2 pr lv 0 pr lw 0 66g lc 0 66h lc 0 66g ld 0 66h ld 2 qt lv 0 qt lw
0 66o lc 0 66p lc 0 66o ld 0 66p ld 0 66o n6 0 66p n6 1 px lw 1 66x lc 1 66x ld 1 66x n6 0 qx lv 0
qx lw 0 674 lc 0 675 lc 0 674 ld 0 675 ld 0 674 n6 0 675 n6 0 q1 lv 0 q1 lw 0 67c lc 0 67d lc 0
67c ld 0 67d ld 0 67c n6 0 67d n6 0 q9 lc 1 qd lc 1 qf lc 1 qh lc 1 qn lc 1 qt lc 1 qx lc 3 64g n9
0 64h n9 0 64i n9 0 64j n9 0 64k n9 0 64l n9 0 64m n9 0 64n n9 0 64o n9 0 64p n9 0 64q n9 0 64r n9
0 64s n9 0 64t n9 0 64u n9 0 64v n9 0 65c n9 0 65d n9 0 65e n9 0 65f n9 0 65g n9 0 65h n9 0 65i n9
0 65j n9 0 65k n9 0 65l n9 0 65m n9 0 65n n9 0 65o n9 0 65p n9 0 65q n9 0 65r n9 0 674 n9 0 675 n9
0 676 n9 0 677 n9 0 678 n9 0 679 n9 0 67a n9 0 67b n9 0 67c n9 0 67d n9 0 67e n9 0 67f n9 0 67g n9
0 67h n9 0 67i n9 0 67j n9 0 q9 li 0 q9 lg 0 67k n9 0 q9 n9 0 q4 n9 1 q9 n6 0 69i n9 0 pd li 0 pd
lg 0 pd lc 1 pd n9 4 4o n6 0 67o n9 0 qf n9 0 q6 n9 1 qf n6 0 69y n9 0 ph lc 1 pj lc 1 pj n9 0 69r
lc 0 69r ld 0 69r n6 0 qh li 0 qh lg 0 qy lc 3 qh n6 0 qy n6 0 pl li 0 pl lg 0 pl lc 2 6bi lc 0
6bi ld 0 6bi n6 0 qt li 0 qt lg 0 qz lc 1 qp lv 0 qp lw 0 qt n6 0 qz n6 0 px li 0 px lg 0 px lc 1
pt lw 0 4o lc 4 67w n9 0 qx n9 0 r2 n9 1 qx n6 0 6ba n9 0 pr lc 1 q1 lc 1 q1 n9 bh 6mo mw 0 6mq mw
i 6ms mw u 6og mw 0 6ok mw 0 6oi mw 1g 6pv mw 4 6q0 mw 2 6q3 mw n 6qr mw 1 6qt mw q 6rg mw 2 6rn
mw 2 6rp mw 1 6rs mw m 1p mw 1 6sh mw a 6rx mw 0 1o mw 0 1q mw 0 6sk mw 0 6sl mw 2 6sy mw 0 6sz mw
2 6t2 mw 0 6t3 mw 6 6t6 mw 0 6t7 mw 2 6te mw 0 6tf mw 2 6ti mw 0 6tj mw y 6ua mw 0 6ug mw 0 6uh mw
0 6uj mw 1c 6t8 mw 0 6t9 mw 0 6tt mw 0 6tu mw 6 6uq mw 0 6ur mw 0 6us mw 0 6ut mw 2n2 9jf 9ll 1
9jh 9ll 1 9jj 9ll 1 9jl 9ll 1 9jn 9ll 1 9jp 9ll 1 9jr 9ll 1 9jt 9ll 1 9jv 9ll 1 9jx 9ll 1 9jz 9ll
1 9k1 9ll 2 9k4 9ll 1 9k6 9ll 1 9k8 9ll 6 9kf 9ll 0 9kf 9lm 1 9ki 9ll 0 9ki 9lm 1 9kl 9ll 0 9kl
9lm 1 9ko 9ll 0 9ko 9lm 1 9kr 9ll 0 9kr 9lm m 9ja 9ll 9 9lp 9ll d 9m3 9ll 1 9m5 9ll 1 9m7 9ll 1
9m9 9ll 1 9mb 9ll 1 9md 9ll 1 9mf 9ll 1 9mh 9ll 1 9mj 9ll 1 9ml 9ll 1 9mn 9ll 1 9mp 9ll 2 9ms 9ll
1 9mu 9ll 1 9mw 9ll 6 9n3 9ll 0 9n3 9lm 1 9n6 9ll 0 9n6 9lm 1 9n9 9ll 0 9n9 9lm 1 9nc 9ll 0 9nc
9lm 1 9nf 9ll 0 9nf 9lm m 9ly 9ll 2 9nz 9ll 0 9o0 9ll 0 9o1 9ll 0 9o2 9ll 3 9od 9ll 1616 1fpu lj q
1fq2 lj 245 1huh 1hve 1 1huj 1hve e 1hut 1hve 3m 1hyp 1hyf 0 1hyq 1hyf ez 1idj 1ida 0 1idj 1idz 1i
1if6 1ih5 1 1if8 1igr 8 1iff 1igy 2 1ifk 1ih5 1f 1igy 1igy 1 1igy 1igo 0 1igy 1ih5 6q 1int 1inu 0
1int 1ink 1 1int 1inx 6z 1iuw 1iun 0 1iux 1iun os 1jjp 1jjk e7c 1xr2 1xr2 0 1xr2 1xrd 0 1xr2 1xr3
0 1xrd 1xr3 0 1xr2 1xr4 0 1xr5 1xr3 0 1xr6 1xr3 0 1xr5 1xr4 2f3 206f 206f 0 206b 206f 0 206h 206f")

end ApiGateway.Unicode
