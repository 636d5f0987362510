import ShootMachines.Text.CodePoints

/-!
# Characters of domains

How the characters of a domain are read: letters lose their case, characters for compatibility stand
for the ones they are made of, some are passed over, and others are refused. Only what is read as
ASCII is spelled out; any other character that stands for others is kept, since no check tells them
apart. The sets go back to the tables of UTS #46, with the properties of what a character stands for.
-/

namespace ShootMachines.Net.Domain

/-- The characters above ASCII that no domain holds, those standing for delimiters of URLs among them. -/
def refused : CodePointSet := .ofTable [
  "3k.w 8 7 5 4 f4.5 4b.2 6.5 6 2 l 7y 34 13.1 1f.1 4 1k.7 s.3 7.g n 5d 1d.1 1o.1 2u.d 1o.1",
  "1e.1 g t.1 2 c.4 w.8 23 4i 9.1 3.1 n 8 2.2 5.1 a.1 3.1 5.7 2.3 3 6.1 q.1 4 7.3 3.1 n 8 3 3",
  "3.1 2 6.3 3.1 4.2 2.6 5 2.6 i.9 4 a 4 n 8 3 6.1 b 4 4.1 2.e 5.1 d.6 8 4 9.1 3.1 n 8 3 6.1",
  "a.1 3.1 4.6 4.3 3 6.1 j.9 3 7.2 4 5.2 3 2 3.2 3.2 4.2 d.3 6.2 4 5.1 2.5 2.d m.4 e 4 o h.1 a",
  "4 5.6 3 4.1 2.1 5.1 b.6 n 4 o b 6.1 a 4 5.6 3.5 3 5.1 b 4.b e 4 1g 4 7.3 h.1 r 4 j.2 p a 2.1",
  "8.2 2.3 7 2 9.5 b.1 4.b 1n.3 u.10 3 2 6 p 2 o.1 6 2 8 b.1 5.v 21 11.3 14 11 g e.10 4h.12 2.4",
  "2.1 40.1 6h 5.1 8 2 5.1 16 5.1 y 5.1 8 2 5.1 g 1m 5.1 1w.1 x.2 r.5 2f.1 7.1 ht t.2 2i.6 n.8",
  "p.8 l.b e 4 3.b 1h.1 15.1 b.5 b.5 7 8 c.5 2i.6 18.4 1z.9 w d.3 d.3 2.2 17.1 6.a 19.3 r.5 c.2",
  "1r.1 1u u.1 c.5 b.5 f.1 w.1c 26.2 1c 39.7 1p.2 g.2 1p.6 18.1 c.7 18.4 ev.1 7.1 13.1 7.1 9 2",
  "2 2 w.1 1i 8 2.2 4 8.2 5.1 7.3 e.1 2.1 4 8.d 4.1 8 d.2 2.7 f 9.2 m 2.2 2.a 3.1 s e.2 y.e y.g",
  "4.1 18 29 9.3 ig.o c.k 15.j 15l 74.1 x 9q.4 1a 2.4 2.1 1l.6 3.d p.8 8 8 8 8 8 8 8 8 3j.x r",
  "2i.b 5z.16 1s 2f.1 3.1 2s.4 18 1g 17 2d.b 1c bn 5 h m9h.2 1k.8 9p.j 55.7 5o.4 3 2 6.n 1o.2",
  "b.5 1l.7 1z.7 d.5 39.a v.2 27 c.3 y 1k.8 f.1 b.1 2w.n t.9 7.1 7.1 7.8 8 8 1p.3 3j.1 b.5",
  "8md.b o.3 1e.6ir a7.1 2z.11 8.b 6.4 r 6 2 3 3 3i.f 3w.5 8d.1 1j.6 2.v b.1 n.1 3 3.6 h n.5",
  "6.1 2.1 9 5.1 2.1 2.6 2 2.2 2 2 2 2 3j.1 2 3 2 a b 2 2.2 r.3 u 1w v.2 7.1 7.1 7.1 4.2 4 4",
  "8.g d r k 3 g.1 f.x 3g.4 4.3 1a.2 2h e.2 2.1a 1b.3l u.2 1e.e t.3 11.8 v.4 18.4 v 12.3 f.15",
  "4f.1 b.5 11.3 11.3 15.7 1h.a d g 8 3 c g 8 3.1u 8o.8 n.9 9.n 7 17 a.1w 7.1 2 19 3.2 2.1 o",
  "21.7 a.1b k 3.4 y.2 s.4 2.1r 1l.3 l.1 1f 3.4 9 4 u.1 4.3 b.6 a.6 1t.v 14.3 d.8 1j.2 u.1 s.4",
  "r.6 5.b 8.27 22.1i 1g.c 1g.6 1b.7 b.85 w 17 4.1 3.22 18.7 17.l r.11 t.j o.8 27.3 11.8 1r 6.c",
  "q.6 b.5 1i j.7 14.8 2p l.a j 1c.1p 8 2 5 g c.5 1o.4 b.5 5 9.1 3.1 n 8 3 6 b.1 3.1 4.1 2.5",
  "2.4 8.1 8.2 6.3u 2l 6.t 21.7 b.4l 1j.1 13.x 1y.a b.5 e.i 1n.5 b.1h s.1 g.3 o.54 1p.2r 2c.b",
  "9.1 2.1 9 3 v 3.1 d.8 b.1x 9.1 1b.1 c.q 21.7 2c.c 22.6 b.6t a 1a f.9 u.2 x.1 n f.20 8 3 19.2",
  "2 3 a.7 b.5 7 3 12 3 7.6 b.8l q.6 i 16.2 t.2d 2.e 1f.c po.2t 34 6.a 5h.217 2s.c tt.f n.33d",
  "g8.6ns fu.6 w b.3 2a b.5 v.1 7.9 1z.9 b 8 m.4 k.j3 2k.2s 24.3 1m.6 i.1r 6.a 3.d 4qh.7 yf.15",
  "a.6w6 5 8 3 84.e 2.s 4.1 2.d 5.7 b1.1s3 30.4 e.2 a.6 b.1 9.3mj 1b.1 o.8 39.1n 6v.9 14.1 23.7",
  "35.k 1z.3d l.b l.b 2g.8 q.3q 2e 20 3.1 2.1 3.1 5 d 2 8 1u 5.1 9 8 t 5 6 2.2 8 9h.1 85.1 jj.e",
  "6 g.un w.5 7.5w 8 i.1 8 3 6.4 1r.w 2.33 1a.2 f.1 b.3 3.8v w.g 1n.4 2.cv 17.kl 8 5 3 g 5i.1",
  "h.14 25.3 b.3 3.ls 1x.23 1q.5d 5 s 3 2.1 2 b 5 2 2.5 2.3 2 2 2 4 3 2.1 2 2 2 2 2 3 2.1 5 8 5",
  "5 2 b i.4 4 6 i.1f 3.7h 19.3 2t.b g.1 g g 12.a 4u.1j u.c 19.3 a.6 3.d 7.49 rd.3 i.2 e.2 3c.3",
  "2o.5 d.3 2.e d.3 1l.7 b.5 15.7 v.1 3.25 9h.b f.1 e.2 a.6 1b 8.7 f.3 a.6 a.6 44 1k.10 b.sl",
  "wyp.v 37f.5 67.1 4g3.d 5rm.e hb.1wh 2x c 4r 1s 2o 2n.15t 3t8.4 38h.f9e7 6p.47bj"]

/-- The characters that are passed over. -/
def ignored : CodePointSet := .ofTable [
  "4t iq 43g.2 2 1ks 2d 4 17rw.f 6o 11gh.3 h8bh.6n"]

/-- The characters above ASCII that stand for others. -/
def mapped : CodePointSet := .ofTable [
  "4q 8.1 2 4.1 2.2 2.m 2.6 y 2 2 2 2 2 2 2 2 2 2 2 2 2 2 2 2 2 2 2 2 2 2 2 2 2.2 2 3 2 2 2.2 2",
  "2 2 2.1 2 2 2 2 2 2 2 2 2 2 2 2 2 2 2 2 2 2 2 2 2 2 2.1 2 2 2 2.1 2 2.1 2.2 3.3 2.1 2.2 4.1",
  "2.1 2 2 2.1 2 3 2.1 2.2 2 2.1 4 8.9 2 2 2 2 2 2 2 3 2 2 2 2 2 2 2 2 3.3 2.2 2 2 2 2 2 2 2 2",
  "2 2 2 2 2 2 2 2 2 2 2 2 2 2 2 2 2 2 2 2 2 8.1 2.1 3 2.3 2 2 2 2 2q.8 14.4 2k.1 2.2 17 2 2 2",
  "8.1 7.4 2 2.1 2.g 2.8 10.7 2 2 2 2 2 2 2 2 2 2 2 2 2.2 2.1 2 2.1 3.1e 1d 2 2 2 2 2 2 2 2 2 2",
  "2 2 2 2 2 2 a 2 2 2 2 2 2 2 2 2 2 2 2 2 2 2 2 2 2 2 2 2 2 2 2 2 2 3 2 2 2 2 2 2 3 2 2 2 2 2",
  "2 2 2 2 2 2 2 2 2 2 2 2 2 2 2 2 2 2 2 2 2 2 2 2 2 2 2 2 2 2 2 2 2 2 2 2 2 2 2 2 2 2 3.11 1d",
  "6m.3 kg.7 3h.1 2 2c 3 z.2 3 72.1 k6 3k 15.1 1b 1j a 5 5 5 d a 2.4 8 i a 5 5 5 d 7i 6 1b l8.5",
  "1oj.8 8.16 3.2 31.2 2.a 2.h 2.r e z.10 1t 2 2 2 2 2 2 2 2 2 2 2 2 2 2 2 2 2 2 2 2 2 2 2 2 2",
  "2 2 2 2 2 2 2 2 2 2 2 2 2 2 2 2 2 2 2 2 2 2 2 2 2 2 2 2 2 2 2 2 2 2 2 2 2 2 2 2 2 2 2 2 2 2",
  "2 2 2 6.1 3 2 2 2 2 2 2 2 2 2 2 2 2 2 2 2 2 2 2 2 2 2 2 2 2 2 2 2 2 2 2 2 2 2 2 2 2 2 2 2 2",
  "2 2 2 2 2 2 2 2 a.7 9.5 b.7 9.7 9.5 c 2 2 2 9.7 2 2 2 2 2 2 2 3.1b 3.2 3.5 2 4.2 3.5 7 5.3 8",
  "5.4 3 3.2 3.5 l y.1 2.1 5 r p.1 3.q 2.c c 2i.1 4 2.a 2.1 3.4 3.2 2 2 2 2.3 2.2 2.6 2.5 5.4",
  "7.1b a 4j.1 2.1 6x.1 8m.13 l.26 10i 2x.1 2u 84.1b 1d 2.2 3 2 2 2.3 2 3 7.4 2 2 2 2 2 2 2 2 2",
  "2 2 2 2 2 2 2 2 2 2 2 2 2 2 2 2 2 2 2 2 2 2 2 2 2 2 2 2 2 2 2 2 2 2 2 2 2 2 2 2 9 2 5 3h 8g",
  "2c d.5x 19 1g 2.2 2t 2o 1e.1e 2.15 4.d 2p.u 2.13 9.1a 2.8x 2.3 2.f 2.12 mkh 2 2 2 2 2 2 2 2",
  "2 2 2 2 2 2 2 2 2 2 2 2 2 2 k 2 2 2 2 2 2 2 2 2 2 2 2 2 2.1 3p 2 2 2 2 2 2 4 2 2 2 2 2 2 2 2",
  "2 2 2 2 2 2 2 2 2 2 2 2 2 2 2 2 2 2 2 2 2 2 2 9 2 2.1 2 2 2 2 5 2 3 2 4 2 2 2 2 2 2 2 2 2",
  "2.4 2.4 2 2 2 2 2 2 2 2.3 2 7 6 2 q.3 3.1 o3.3 a 7.27 f9d.7h 3 2 3.9 2 2 3.1 4.1v 3.2x 13.6",
  "d.4 6 2.n 2.4 2 2.1 2.1 2.2z y.3u 7.61 j.1r 3.1h 15.9 3 k.1 3.1 2.1 p.j 9.4 3 3.7 2.3 3 3 8",
  "6 2 2 2 2.3h 5.1 2 2.8 2.9 2 2 4.p 5.s 2.1u 2.t 4.5 3.5 3.5 3.2 4.2 2.2 2.6 sy.13 3t.z 4d.a",
  "2.e 2.6 2.1 do.4 2.15 2.8 xy.1e 2cu.v gw1.v jjz.6 2f.5 g0.2c 2.1y 2.1 3 3.1 3.3 2.b 2 2.6",
  "2.1s 2.3 3.7 2.6 2.r 2.3 2.4 2 4.6 2.9f 3.83 3.1d 1m9.1p 1oz.x yn.3 2.q 2.1 2 3 2.9 2.3 2 2",
  "7 5 2 2 2.2 2.1 2 3 2 2 2 2 2.1 2 3.3 2.6 2.3 2.3 2 2.9 2.g 6.2 2.4 2.g g6.9 6.u 2.v r.2 10",
  "34.2 e.17 5.8 8.1 1wf.9 1ds7.2v 2.a 2.4p 2.1q 2.2m 2.2l"]

/-- The characters that stand for ASCII ones, as gaps between them. After a point stands how many more
follow: those of a single character stand for the ones after it, others for the same text. A capital
X is the character itself, in place of what is not ASCII. -/
def foldTable : List String := [
  "4q=a 8.1=2 6=1 1=o 2=1X4 1=1X2 1=3X4 36=iX 2.1=ij c.1=lX 9=Xn 1i=s 1x.2=dX 1.2=lj 1.2=nj",
  "11.2=dz 59=h 2=j 1=r 4=w 1=y 15=l 1=s 1=x 4b=; 52m=a 2=b 2.1=d 2.7=g 2=o 2=p 1=r 1.1=t 1=w",
  "1=a 4=b 1.1=d 4=g 2=k 1=m 2=o 4=p 1.1=t 3=v 7=i 1=r 1.1=u 1j=c 4=f r=z 67=aX 9h=` 25=!! 1g=0",
  "1=i 3.5=4 1=+ 2== 1.1=( 1=n 1.9=0 1=+ 2== 1.1=( 2=a 1=e 1=o 1=x 2=h 1.3=k 1=p 1.1=s c=rs",
  "2i=c 1=Xc 6=Xf 1.1=g 1=h 1=h 1=h 2=i 1=i 1=l 1=l 2=n 1=no 3.2=p 1=r 1=r 3=sm 1=tel 1=tm 2=z",
  "4=z 2=k 2.1=b 2=e 1.1=e 2=m 1=o 5=i 2=fax a=d 1.1=d 1.1=i 7=1X7 1=1X9 1=1X10 1=1X3 1=2X3",
  "1=1X5 1=2X5 1=3X5 1=4X5 1=1X6 1=5X6 1=1X8 1=3X8 1=5X8 1=7X8 1=1X 1=i 1=ii 1=iii 1=iv 1=v",
  "1=vi 1=vii 1=viii 1=ix 1=x 1=xi 1=xii 1=l 1.1=c 1=m 1=i 1=ii 1=iii 1=iv 1=v 1=vi 1=vii",
  "1=viii 1=ix 1=x 1=xi 1=xii 1=l 1.1=c 1=m a=0X3 k7.8=1 1=10 1=11 1=12 1=13 1=14 1=15 1=16",
  "1=17 1=18 1=19 1=20 1=(1) 1=(2) 1=(3) 1=(4) 1=(5) 1=(6) 1=(7) 1=(8) 1=(9) 1=(10) 1=(11)",
  "1=(12) 1=(13) 1=(14) 1=(15) 1=(16) 1=(17) 1=(18) 1=(19) 1=(20) l=(a) 1=(b) 1=(c) 1=(d) 1=(e)",
  "1=(f) 1=(g) 1=(h) 1=(i) 1=(j) 1=(k) 1=(l) 1=(m) 1=(n) 1=(o) 1=(p) 1=(q) 1=(r) 1=(s) 1=(t)",
  "1=(u) 1=(v) 1=(w) 1=(x) 1=(y) 1=(z) 1.p=a 1.p=a 1=0 13f=== 1==== ee=j 1=v p1=. e6.u=(X)",
  "2.z=(X) d=pte 1=21 1=22 1=23 1=24 1=25 1=26 1=27 1=28 1=29 1=30 1=31 1=32 1=33 1=34 1=35",
  "2a=36 1=37 1=38 1=39 1=40 1=41 1=42 1=43 1=44 1=45 1=46 1=47 1=48 1=49 1=50 1=1X 1=2X 1=3X",
  "1=4X 1=5X 1=6X 1=7X 1=8X 1=9X 1=10X 1=11X 1=12X 1=hg 1=erg 1=ev 1=ltd 3t=0X 1=1X 1=2X 1=3X",
  "1=4X 1=5X 1=6X 1=7X 1=8X 1=9X 1=10X 1=11X 1=12X 1=13X 1=14X 1=15X 1=16X 1=17X 1=18X 1=19X",
  "1=20X 1=21X 1=22X 1=23X 1=24X 1=hpa 1=da 1=au 1=bar 1=ov 1=pc 1=dm 1=dm2 1=dm3 1=iu 6=pa",
  "1=na 1=Xa 1=ma 1=ka 1=kb 1=mb 1=gb 1=cal 1=kcal 1=pf 1=nf 1=Xf 1=Xg 1=mg 1=kg 1=hz 1=khz",
  "1=mhz 1=ghz 1=thz 1=Xl 1=ml 1=dl 1=kl 1=fm 1=nm 1=Xm 1=mm 1=cm 1=km 1=mm2 1=cm2 1=m2 1=km2",
  "1=mm3 1=cm3 1=m3 1=km3 1=mXs 1=mXs2 1=pa 1=kpa 1=mpa 1=gpa 1=rad 1=radXs 1=radXs2 1=ps 1=ns",
  "1=Xs 1=ms 1=pv 1=nv 1=Xv 1=mv 1=kv 1=mv 1=pw 1=nw 1=Xw 1=mw 1=kw 1=mw 1=kX 1=mX 2=bq 1=cc",
  "1=cd 1=cXkg 2=db 1=gy 1=ha 1=hp 1=in 1=kk 1=km 1=kt 1=lm 1=ln 1=log 1=lx 1=mb 1=mil 1=mol",
  "1=ph 2=ppm 1=pr 1=sr 1=sv 1=wb 1=vXm 1=aXm 1=1X 1=2X 1=3X 1=4X 1=5X 1=6X 1=7X 1=8X 1=9X",
  "1=10X 1=11X 1=12X 1=13X 1=14X 1=15X 1=16X 1=17X 1=18X 1=19X 1=20X 1=21X 1=22X 1=23X 1=24X",
  "1=25X 1=26X 1=27X 1=28X 1=29X 1=30X 1=31X 1=gal mwj=c 1=f 1=q gek=ff 1=fi 1=fl 1=ffi 1=ffl",
  "1.1=st z=+ kn=, 4=; 1=! u=_ 1=_ 1.1=( 1=\x7b 1=\x7d l=_ 1=_ 1=_ 1=, 4=; 3=! 2.1=( 1=\x7b",
  "1=\x7d 4=& 1.1=* 1=- 3== 3=$ 48.1=! 2=$ 2.8=& 2.9=0 2=; 2== 4.p=a 5.s=_ 2.1=\x7d 3=. 1ms=q",
  "14d7.p=a 1.p=a 1.p=a 1.6=a 2.h=i 1.p=a 1.p=a 1=a 2.1=c 3=g 3.1=j 3.3=n 2.7=s 1.3=a 2=f 2.6=h",
  "2.a=p 1.p=a 1.p=a 1.1=a 2.3=d 3.7=j 2.6=s 2.p=a 1.1=a 2.3=d 2.4=i 2=o 4.6=s 2.p=a 1.p=a",
  "1.p=a 1.p=a 1.p=a 1.p=a 1.p=a 1.p=a 1.p=a 1.p=a 1.p=a 1.p=a 1.p=a 8b.9=0 1.9=0 1.9=0 1.9=0",
  "1.9=0 4xu=0, 1=1, 1=2, 1=3, 1=4, 1=5, 1=6, 1=7, 1=8, 1=9, 6=(a) 1=(b) 1=(c) 1=(d) 1=(e)",
  "1=(f) 1=(g) 1=(h) 1=(i) 1=(j) 1=(k) 1=(l) 1=(m) 1=(n) 1=(o) 1=(p) 1=(q) 1=(r) 1=(s) 1=(t)",
  "1=(u) 1=(v) 1=(w) 1=(x) 1=(y) 1=(z) 1=XsX 1=c 1=r 1=cd 1=wz 2.p=a 1=hv 1=mv 1=sd 1=ss 1=ppv",
  "1=wc r=mc 1=md 1=mr 10=dj 21s.9=0"]

/-- The marks that cannot start a label. -/
def marks : CodePointSet := .ofTable [
  "lc.1w 2.8 2.v 7o.6 7c.18 2 2.1 2.1 2 21.a 1d.k h 2u.6 3.5 3.1 2.3 10 v.q 2k.a 1n.8 a p.3 2.8",
  "2.2 2.4 18.2 1p.7 17.n 2.w 1j.2 2.h 2.6 b.1 u.2 1l 2.6 3.1 3.2 a b.1 r 3.2 1l 2.4 5.1 3.2 4",
  "v.1 4 c.2 1l 2.7 2.2 2.2 l.1 n.5 2.2 1l 2.6 3.1 3.2 8.2 b.1 v 1o.4 4.2 2.3 a 15.4 1k 2.6 2.2",
  "2.3 8.1 c.1 u.2 1l 2.6 2.2 2.3 8.1 c.1 g d.3 1k.1 2.6 2.2 2.3 a b.1 u.2 1z 5.5 2 2.7 j.1 1q",
  "2.7 d.7 2r 2.9 c.6 22.1 s 2 2 5.1 1e.j 2.1 6.a 2.z a 2t.j o.3 5.2 2.2 3.6 4.3 e.b 2 b.3 jk.2",
  "qb.3 t.2 u.1 v.1 1v.t a 4o.1 z 3b.b 5.b 64.4 1m.9 2.s 3 1d.u 1e.4 1c.g 13.8 d.2 v.c 1l.d",
  "1d.j 49.2 2.k 5 7 3.2 5j.1r k1.w 2db.2 3y 2p.v ff.5 2y.1 n9x.3 2.9 x.1 29.1 7l 4 5 o.4 5",
  "2c.1 1f.h r.h e 13.7 q.c 19.3 1c.d 11 1w.d d 9.1 1a.2 1f 2.2 3.1 6.1 2 16.4 6.1 6l.7 2.1 fn5",
  "le.f a7.1 gu 6b 46.4 1af.2 2.1 6.3 15.2 5 4m.1 fy.3 as.1 29.2 1z.a 1e.3 3f.2 1i.e 16 3.1 b.3",
  "1a.a 8 1q.2 11.d h.1 19 d.2 1d.d 9.3 2.1 2l.b 7 3 4e.b m.3 1k.1 2.6 3.1 3.2 a b.1 3.6 4.4",
  "5d.h o 2a.j 6k.6 3.8 s.1 2b.g 2z.c 2u.e 75.e 6u.5 2.1 3.3 2 2.1 3y.6 3.6 4 t.9 15.6 2.3 9",
  "a.a 1b.f ba.7 2.7 2b.l 2.d 3f.5 4 2.1 2.6 2 1v.4 2.1 2.4 9o.3 a.1 2 1d.6 4.4 45a 7.e asb.4",
  "1o.6 t5 2.1i 8.3 2a c.1 f58.1 3mq.19 3.m f3.4 4.5 9.7 3.6 v.3 45.2 1j0.1i 5.1d 9 f n.4 2.e",
  "11t.6 2.g 3.6 2.1 2.4 2t 4h.6 ag 1q.3 e5.3 rl.6 32.6"]

/-- The signs that a joiner may follow. -/
def viramas : CodePointSet := .ofTable [
  "1u5 3k 3k 3k 3k 3k 3k 3k 32.1 h 3h 34 3k 5m 51.1 1cq.1 v 4e i6 6c 2u.1 1z.1 3gs o7b 12 48 3z",
  "31 8m 6v imq 16v 16 f 1m 3e.1 3w 39 51 2r 6t 3k 71 3k 3b 39 7i 78.1 4i 2c j 2a bq 79.1 2a",
  "bu.1"]

/-- The characters that do not matter for joining. -/
def transparent : CodePointSet := .ofTable [
  "lc.1w 2.8 2.v 7o.6 7c.18 2 2.1 2.1 2 21.a 1d.k h 2u.6 3.5 3.1 2.3 10 v.q 2k.a 1n.8 a p.3 2.8",
  "2.2 2.4 18.2 1p.7 17.n 2.v 1k 2 5.7 5 4.6 b.1 u 1n 5.3 9 l.1 r 3.1 1m 5.1 5.1 3.2 4 v.1 4",
  "c.1 1m 5.4 2.1 5 l.1 n.5 2 1n 3 2.3 9 8.1 c.1 v 1q d 1f 4 1k 2.2 6.2 2.3 8.1 c.1 u 1n 3 7",
  "6.1 l.1 t.1 1m.1 5.3 9 l.1 u 21 8.2 2 2j 3.6 d.7 2r 3.8 c.6 22.1 s 2 2 1k.d 2.4 2.1 6.a 2.z",
  "a 2v.3 2.5 2.1 3.1 q.1 5.2 h.3 e 3.1 7 g jk.2 qb.2 u.1 v.1 v.1 1w.6 9 3.a a 4o.1 z 3b.2 5.1",
  "a 7.2 64.1 3 1n 2.6 2 2 3.7 7.9 3 1d.u 1e.3 1d 2.4 2 6 15.8 d.1 x.3 3.1 2.2 1l 2.1 4 2.2",
  "1n.7 3.1 49.2 2.c 2.6 5 7 4.1 5j.1r k1.w 2db.2 3y 2p.v ff.3 30.1 n9x.3 2.9 x.1 29.1 7l 4 5",
  "q.1 6 48.1 r.h e 13.7 q.a 1b.2 1d 3.3 3.1 14 1w.5 3.1 3.1 d 9 1c 1g 2.2 3.1 6.1 2 17.1 9 6n",
  "3 5 fn5 le.f a7.1 gu 6b 46.4 1af.2 2.1 6.3 15.2 5 4m.1 fy.3 as.1 29.2 1z.a 1e.3 3g 1j.e 16",
  "3.1 b.2 1e.3 3.1 8 1q.2 11.4 2.7 1r d.1 1h.8 b.3 3 2o.2 3 2.1 7 3 4e 4.7 m.1 1m.1 4 12.6 4.4",
  "5g.7 3.2 2 o 2d.5 2 5.1 2.1 6n.3 7.1 2.1 s.1 2e.7 3 2.1 2z 2 3.5 2 2u.2 3.3 2.4 78.8 2.1",
  "75.1 2 5 41.3 3.1 5 x.9 15.5 3.3 9 a.5 3.2 1b.c 2.1 bb.6 2.5 2 2b.l 3.6 2.1 2.1 3f.5 4 2.1",
  "2.6 2 21.1 4 2 9o.1 c.1 1h.4 6 2 45a 7.e asb.4 1o.6 t5 1s.3 2a f5l.1 3mq.19 3.m f5.2 i.7 3.6",
  "v.3 45.2 1j0.1i 5.1d 9 f n.4 2.e 11t.6 2.g 3.6 2.1 2.4 2t 4h.6 ag 1q.3 e5.3 rl.6 32.7"]

/-- The characters that join the one after them. -/
def joinsAfter : CodePointSet := .ofTable [
  "17k 6 2 2.4 5.c 2.6 2.1 10.1 a.e j.11 2.1 a 2 2.1 15.2 3 j.2 6.3 2.8 2 2 2.1 w.a 4.e 3.3 2",
  "3.2 3.5 23.w 2f.4 3 2.9 2 b 2.3 3 u 3.4 j.9 6.1 3.5 2.e 30f p.2g f.x 2 sd2.1e gdc.1b d.l 3.7",
  "12.3 e.5 d.1s 2.y c.3 3.3 3.3 3.7 2.6 2 3.3 4.1x 2.n 4.n 5.n 5.e l.1r 3.1h 17 3.4 3 3x.3 3.3",
  "3.j 9.1n 3.5 2bw.4 9 6.9 2.2 b.3 42 2 4.2 2.1 2 3 t.1 9e.x 2 el.2 2.g d.2 t.3 3.b 1b 2.1 5",
  "3.1 2.1 2 3 6.1 16wl.1v xq.1 5.b 2.3 2.6 2.1 2 3 2.9 2.3 2 2 7 5 2 2 2.2 2.1 2 3 2 2 2 2 2.1",
  "2 3.3 2.6 2.3 2.3 2 3.1 2 3.2 2.7 2.3 2.2 6.1 5.2 2.7 2.3 2.2"]

/-- The characters that join the one before them. -/
def joinsBefore : CodePointSet := .ofTable [
  "17k 2.t 2.9 10.1 2.2 2.2m 2 p.1 b.2 3 h 2.t u.1e 23.w 2e.o 8 2.3 2.3 6.i 4 3.5 i.c 2.q 30f",
  "p.2g f.x 2 sd2.1d gdb.2p y.3u 7.3x 4.20 j.1r 3.1h 15.9 3 3p.3f 2bo.5 2 2.1 4.8 2.9 3 7.4",
  "41.h o.5 9f.y el.k d.3 s.h 1b 2.4 2.7 2.3 5.1 16wm.1v xp.3 2.q 2.1 2 3 2.9 2.3 2 2 7 5 2 2",
  "2.2 2.1 2 3 2 2 2 2 2.1 2 3.3 2.6 2.3 2.3 2 2.9 2.g 6.2 2.4 2.g"]

/-- The letters that are written from right to left. -/
def rightToLeft : CodePointSet := .ofTable [
  "14u 2 3 3 a.q 5.5 k 3 2 e 2.19 z.2 2.2s g.1 8.1 b.j 3 2.t u.2g c f.16 a.1 5 4.n 5 a 4 8.e",
  "2.o 6 2.a 6.u i.15 4to.3 171h 2.9 2.c 2.4 2 2.1 2.1 2.3g h.3u 7.61 j.1r 3.1h 15.9 3 39 2 4 2",
  "2 2 2.3h 1s4.5 3 2.17 2.1 4 3.m 2.1z 9.8 1d.i 2.1 6.w 5.p 6 1t.1j 5.j 3.1a g.3 2.2 2.s b.8",
  "8.8 8.1r x.10 7.b a.1h b.l 3.q 6.p 8.3 d.6 29.20 1k.1e e.1e 8.15 9p.15 4 3.1 27.13 9.l c.8",
  "n.h 5.3 13.r l.m 16oa.5g 3.8 1d.1v 8 5.9 5.1 lu.1v 25.1o 5f.3 2.q 2.1 2 3 2.9 2.3 2 2 7 5 2",
  "2 2.2 2.1 2 3 2 2 2 2 2.1 2 3.3 2.6 2.3 2.3 2 2.9 2.g 6.2 2.4 2.g"]

/-- The digits of Arabic numbers. -/
def arabicNumbers : CodePointSet := .ofTable [
  "19c.9 2.1 1fwk.9 87.u"]

/-- The digits of other numbers above ASCII. -/
def europeanNumbers : CodePointSet := .ofTable [
  "4y.1 6 187.9 513 4.5 7.9 rb.j 3b 2nb.e 2a.e 14cx.9 qw.q 161f.1d 73l.9"]

/-- The marks that take no space. -/
def nonspacing : CodePointSet := .ofTable [
  "lc.1w 2.8 2.v 7o.6 7c.18 2 2.1 2.1 2 21.a 1d.k h 2u.6 3.5 3.1 2.3 10 v.q 2k.a 1n.8 a p.3 2.8",
  "2.2 2.4 18.2 1p.7 17.n 2.v 1k 2 5.7 5 4.6 b.1 u 1n 5.3 9 l.1 r 3.1 1m 5.1 5.1 3.2 4 v.1 4",
  "c.1 1m 5.4 2.1 5 l.1 n.5 2 1n 3 2.3 9 8.1 c.1 v 1q d 1f 4 1k 2.2 6.2 2.3 8.1 c.1 u 1n g.1",
  "l.1 t.1 1m.1 5.3 9 l.1 u 21 8.2 2 2j 3.6 d.7 2r 3.8 c.6 22.1 s 2 2 1k.d 2.4 2.1 6.a 2.z a",
  "2v.3 2.5 2.1 3.1 q.1 5.2 h.3 e 3.1 7 g jk.2 qb.2 u.1 v.1 v.1 1w.6 9 3.a a 4o.1 z 3b.2 5.1 a",
  "7.2 64.1 3 1n 2.6 2 2 3.7 7.9 3 1d.u 1e.3 1d 2.4 2 6 15.8 d.1 x.3 3.1 2.2 1l 2.1 4 2.2 1n.7",
  "3.1 49.2 2.c 2.6 5 7 4.1 5j.1r k1.w 2db.2 3y 2p.v ff.3 30.1 n9x.3 2.9 x.1 29.1 7l 4 5 q.1 6",
  "48.1 r.h e 13.7 q.a 1b.2 1d 3.3 3.1 14 1w.5 3.1 3.1 d 9 1c 1g 2.2 3.1 6.1 2 17.1 9 6n 3 5",
  "fn5 le.f a7.1 gu 6b 46.4 1af.2 2.1 6.3 15.2 5 4m.1 fy.3 as.1 29.2 1z.a 1e.3 3g 1j.e 16 3.1",
  "b.2 1e.3 3.1 8 1q.2 11.4 2.7 1r d.1 1h.8 b.3 3 2o.2 3 2.1 7 3 4e 4.7 m.1 1m.1 4 12.6 4.4",
  "5g.7 3.2 2 o 2d.5 2 5.1 2.1 6n.3 7.1 2.1 s.1 2e.7 3 2.1 2z 2 3.5 2 2u.2 3.3 2.4 78.8 2.1",
  "75.1 2 5 41.3 3.1 5 x.5 3.1 15.5 3.3 9 a.5 3.2 1b.c 2.1 bb.6 2.5 2d.l 3.6 2.1 2.1 3f.5 4 2.1",
  "2.6 2 21.1 4 2 9o.1 c.1 1h.4 6 2 45a 7.e asb.4 1o.6 t5 1s.3 2a f5l.1 3mq.19 3.m f5.2 i.7 3.6",
  "v.3 45.2 1j0.1i 5.1d 9 f n.4 2.e 11t.6 2.g 3.6 2.1 2.4 2t 4h.6 ag 1q.3 e5.3 rl.6 32.6"]

/-- The characters above ASCII that have no direction. -/
def neutral : CodePointSet := .ofTable [
  "4h.6 2 2.1 2 2.1 5.1 4.4 o w ci.1 8.d 3.5 7.1 6.8 2.g 39.1 9 9 33 b8 3.2 3b.1 2.1 2 2.1 2j",
  "38 b 7h.3 e1.1 8 6u 76.7 3i.6 ch 6z.3 ur.9 2v ij.1 8v l.9 7.5 2.3 8m 4.1 49.x 168 t.1 3.6",
  "2.b 4 9.d 2.7 4.k s.4 c.4 i.7 2.n 1w 4 c 3.1 6.1 4 2 2 2 5 c 6.4 6.3 3.f 16.2 5.bp 1y.p 2.40",
  "q.a 16.j 2s.cg 2.9e 75.ab 2.72 3.v 2.2w 6e.5 f.6 75.2l z.p 2.3 2.2a 7j.3 4.o g 6.1 6.2 2p 2j",
  "5h.z 5i5.1r h3l.1i 93.2 2s b.1 3l.x 2v 4g.3 d.1 1n.3 kz.1 fr2 et.h 3k 1a.2 h.1 3.1 2.1 p.l",
  "7.4 3 3.7 2.3 3 3 48.1 2 2.8 d 2 y.1 r 2.8 3f.2 2.2 2.6 7n 1r.24 4.c 4 1hb ey.6 103.j 16j.c",
  "1ux.s fsh jd3.1 m.1t 4 57.2e ob q w q w q w q w q 27w 2cx.1 7j.17 5.2r d.e 3.e 2.e 2.10 c.e",
  "w 1q.2 1q 4z.5 4b.rb 5.g 4.c 4.3a 5.2m 7.b 5 g.b 5.1j 9.9 7.13 9.t 3.1 27.9f d.d 3.c 4.8",
  "8.19 2.6 9.d 5.8 8.8 8.42 2.1i 1bfq.h9"]

/-- Runs of characters and the texts they stand for. -/
def folds : List (Nat × Nat × List Char) :=
  let step (state : Nat × List (Nat × Nat × List Char)) (word : List Char) :=
    let run := word.takeWhile (· ≠ '=')
    let first := state.1 + CodePointSet.number (run.takeWhile (· ≠ '.'))
    let last := first + CodePointSet.number ((run.dropWhile (· ≠ '.')).drop 1)
    (last, (first, last, (word.dropWhile (· ≠ '=')).drop 1) :: state.2)
  (((foldTable.flatMap CodePointSet.words).foldl step (0, [])).2).reverse

/-- What a character stands for if that is partly ASCII. -/
def fold? (character : Char) : Option (List Char) :=
  let code := character.toNat
  (folds.find? fun run => run.1 ≤ code && code ≤ run.2.1).map fun run =>
    match run.2.2 with
    | [first] => [Char.ofNat (first.toNat + (code - run.1))]
    | text => text.map fun part => if part = 'X' then character else part

end ShootMachines.Net.Domain
