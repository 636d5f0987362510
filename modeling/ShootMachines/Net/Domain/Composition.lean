import ShootMachines.Text.CodePoints

/-!
# Composed labels

A label that was decoded has to be composed: its marks stand in canonical order, and no character is
followed by one that it forms a single character with. The tables are those of Unicode, for the
characters that domains hold.
-/

namespace ShootMachines.Net.Domain

/-- The combining classes above zero, as gaps between the characters. After a point stands how many
more follow, after the sign the class. -/
def classTable : List String := [
  "lc.k=6e 1=6g 1.3=64 1=6g 1=60 1.4=64 1.1=5m 1.3=64 1.1=5m 1.a=64 1.4=1 1.3=64 1.2=6e 3=6e",
  "4=6e 1.2=64 1.2=6e 1.1=64 2.2=6e 1.3=64 1=6e 1=6g 1.1=64 1=6e 1=6h 1.1=6i 1=6h 1.1=6i 1=6h",
  "1.c=6e 7o.4=6e 7e=64 1.3=6e 1=64 1.2=6e 1=66 1=64 1.5=6e 1.5=64 1.1=6e 1=64 1.1=6e 1=66 1=6c",
  "1=6e 1=a 1=b 1=c 1=d 1=e 1=f 1=g 1=h 1=i 1.1=j 1=k 1=l 1=m 2=n 2=o 1=p 2=6e 1=64 2=i 21.7=6e",
  "1=u 1=v 1=w 1d=r 1=s 1=t 1=u 1=v 1=w 1=x 1=y 1.1=6e 1.1=64 1.4=6e 1=64 1.1=6e 1=64 h=z",
  "2u.6=6e 3.3=6e 1=64 1=6e 3.1=6e 2=64 1.1=6e 1=64 10=10 v=6e 1=64 1.1=6e 1=64 1.1=6e 1.2=64",
  "1=6e 1.1=64 1=6e 1=64 1.2=6e 1=64 1=6e 1=64 1=6e 1=64 1=6e 1=64 1.1=6e 4h.6=6e 1=64 1=6e",
  "a=64 p.3=6e 2.8=6e 2.2=6e 2.4=6e 18.2=64 1p=6e 1.2=64 1.3=6e 17.4=6e 1.4=64 1.d=6e 2=64",
  "1.1=6e 1=64 1.1=6e 1=64 1.2=6e 1.2=64 1=r 1=s 1=t 1.2=6e 1=64 1.1=6e 1.1=64 1.4=6e 1p=7 h=9",
  "4=6e 1=64 1.1=6e 2w=7 h=9 1d=6e 1q=7 h=9 33=7 h=9 33=7 h=9 3k=9 33=7 h=9 8=2c 1=2j 2u=7 h=9",
  "32.1=9 h=9 3h=9 32.1=2v 1=9 e.3=2z 31.1=3a 1=9 e.3=3e 25.1=64 s=64 2=64 2=60 1k=3l 1=3m 2=3o",
  "6.3=3m 3=3m 2.1=6e 1=9 2.1=6e 1r=64 35=7 2.1=9 2b=64 k0.2=6e qd.1=9 v=9 4e=9 b=6e 5o=6c",
  "40=66 1=6e 1=64 64=6e 1=64 20=9 l.7=6e 3=64 1d.4=6e 1.5=64 1.1=6e 1=64 2.1=64 1.1=6e 1.1=64",
  "1.4=6e 1=64 1.3=6e 2u=7 g=9 13=6e 1=64 1.6=6e 1j.1=9 1n=7 c.1=9 1w=7 49.2=6e 2=1 1.4=64",
  "1.1=6e 1.3=64 1=6e 2.6=1 5=64 7=6e 4.1=6e 5j.1=6e 1=64 1.6=6e 1=64 1.1=6e 1=6i 1=5y 1=64",
  "1=5m 1.10=6e 1=6g 1.1=6c 1=64 1=62 1=6e 1=6h 1=64 1=6e 1=64 k1.1=6e 1.1=1 1.3=6e 1.2=1",
  "1.1=6e 5=6e 4.1=1 1=6e 1=64 1=6e 1.1=1 1.3=64 1=6e 2db.2=6e 3y=9 2p.v=6e ff=62 1=6c 1=6g",
  "1=66 1.1=68 2y.1=8 n9x=6e 5.9=6e x.1=6e 29.1=6e 7p=9 12=9 48=9 s.h=6e 1m.2=64 12=9 2o=7 d=9",
  "6o=6e 2.1=6e 1=64 3.1=6e 6.1=6e 2=6e 1h=9 6v=9 fn5=q le.6=6e 1.6=64 1.1=6e r2=64 6b=64",
  "46.4=6e 1ar=64 2=6e 15=6e 1=1 1=64 5=9 4m=6e 1=64 fy.3=6e as.1=6e 29.2=64 1z.1=64 1.2=6e",
  "1=64 1=6e 1.3=64 1e=6e 1=64 1=6e 1=64 5d=9 16=9 f=9 1m=9 1=7 1y.2=6e 1d.1=9 1r=7 25=9 a=7",
  "2z=9 1=7 4z=7 1=9 29.1=7 h=9 p.6=6e 4.4=6e 5q=9 4=7 o=6e 2s=9 1=7 70=9 1=7 3j=9 3b=9 1=7",
  "38=9 7i=9 1=7 77.1=9 5=7 4d=9 2c=9 j=9 2a=9 bq=9 77=7 2.1=9 2a=9 bu.1=9 ey6.4=1 1o.6=6e",
  "xm.1=6 f59=1 43r.1=60 1.2=1 4=6a 1.4=60 9.7=64 3.4=6e 1.1=64 v.3=6e 45.2=6e 2po.6=6e 2.g=6e",
  "3.6=6e 2.1=6e 2.4=6e 2t=6e 4h.6=6e ag=6e 1q.3=6e e5.1=6g 1=64 1=6e rl.6=64 32.5=6e 1=7"]

/-- Runs of characters and their combining class. -/
def combiningClasses : List (Nat × Nat × Nat) :=
  let step (state : Nat × List (Nat × Nat × Nat)) (word : List Char) :=
    let run := word.takeWhile (· ≠ '=')
    let first := state.1 + CodePointSet.number (run.takeWhile (· ≠ '.'))
    let last := first + CodePointSet.number ((run.dropWhile (· ≠ '.')).drop 1)
    (last, (first, last, CodePointSet.number ((word.dropWhile (· ≠ '=')).drop 1)) :: state.2)
  (((classTable.flatMap CodePointSet.words).foldl step (0, [])).2).reverse

/-- The combining class of a character. -/
def combiningClass (character : Char) : Nat :=
  let code := character.toNat
  ((combiningClasses.find? fun run => run.1 ≤ code && code ≤ run.2.1).map (·.2.2)).getD 0

/-- The characters that form a single one with one before them, and after the sign the ones that they
follow. -/
def pairTable : List String := [
  "lc=2p,2t,2x,32,33,39,3b,3d,6a,6i,6s,70,77,7n,99,bl,c0,q9,qd,qf,qh,qn,qt,qx,qy,qz,tx,u0,64g,64h,64w,64x,65c,65d,65s,65t,668,669,66o,66p,674,675",
  "ld=2p,2r,2t,2v,2x,2z,30,31,32,33,34,36,37,39,3b,3d,3e,6a,6d,6e,6f,6i,6n,6s,6t,6w,70,77,7n,99,a1,bl,c0,q9,qd,qf,qh,qn,qt,qx,qy,qz,tv,u2,64g,64h,64w,64x,65c,65d,65s,65t,668,669,66o,66p,674,675",
  "le=2p,2r,2t,2v,2w,2x,2y,33,37,39,3b,3d,3e,61t,62h,631",
  "lf=2p,2t,2x,32,33,39,3a,3d,6a,6i,6s,77,bl,c0",
  "lg=2p,2t,2v,2x,33,39,3d,6c,6e,6t,6u,70,dn,fb,fj,q9,qh,qt,u0,ub,5yv,5zv",
  "li=2p,2t,2v,2x,33,39,fd,q9,qh,qt,ts,tx,ty,u0,ub,61t",
  "lj=2p,2q,2r,2s,2t,2u,2v,2w,31,32,33,34,36,37,38,3b,3c,3d,3e,9n,9t,603",
  "lk=2p,2t,2w,2x,33,38,39,3b,3c,3d,6t,a3,qh,qt,ts,tx,ty,tz,u0,u6,ub,uf,uj,ul,uu,yh,yx",
  "ll=2p,2t,2x,33,39,3d,6a,6i,6s,77,bl,c0 lm=2p,39,3b,3d ln=33,39,ub",
  "lo=2p,2r,2s,2t,2v,2w,2x,2y,2z,30,32,33,36,37,38,39,3e,70,ia lr=2p,2t,2x,33,36,39,vp",
  "lt=2p,2t,2x,33,36,39 lv=q9,qd,qf,qh,qn,qp,qt,qx lw=q9,qd,qf,qh,qn,qp,qt,qx m3=33,39",
  "mb=2p,2q,2s,2t,2w,2x,2z,30,31,32,33,36,37,38,39,3a,3b,3d,3e,bl,c0 mc=39 md=2p me=37,38",
  "mf=2r,2s,2t,2v,2w,2z,30,32,36,37,38 mg=2p,2t,2x,33,39 ml=2s,2t,30,32,38,39 mm=2w mo=2t,2x,39",
  "mp=2q,2s,2w,2z,30,32,36,38,3e",
  "mw=1o,1p,1q,6mo,6mq,6ms,6og,6oi,6ok,6pv,6q0,6q3,6qr,6qt,6rg,6rn,6rp,6rs,6rx,6sh,6sk,6sl,6sy,6sz,6t2,6t3,6t6,6t7,6t8,6t9,6te,6tf,6ti,6tj,6tt,6tu,6ua,6ug,6uh,6uj,6uq,6ur,6us,6ut",
  "n6=q9,qf,qh,qt,qx,qy,qz,64g,64h,65c,65d,65s,65t,66o,66p,674,675 18z=17r",
  "190=17r,18o,18q,1c1,1ci,1cl 191=17r 1to=1t4,1tc,1tf 1xa=1xj 1xz=1xj 27y=287 28m=287 28n=287",
  "2bi=2bq,2br 2c7=2aa,2bq 2fq=2fa 2iq=2iu 2j9=2in,2iu,2iy 2ja=2iu 2m6=2me,2mf 2mv=2me",
  "2q2=2qh,2qk 2q7=2qh 2qn=2qh 372=36t 5dh=5c5,5c7,5c9,5cb,5cd,5ch,5dm,5do,5dq,5dr,5du",
  "9ll=9ja,9jf,9jh,9jj,9jl,9jn,9jp,9jr,9jt,9jv,9jx,9jz,9k1,9k4,9k6,9k8,9kf,9ki,9kl,9ko,9kr,9lp,9ly,9m3,9m5,9m7,9m9,9mb,9md,9mf,9mh,9mj,9ml,9mn,9mp,9ms,9mu,9mw,9n3,9n6,9n9,9nc,9nf,9nz,9o0,9o1,9o2,9od",
  "9lm=9kf,9ki,9kl,9ko,9kr,9n3,9n6,9n9,9nc,9nf 1hve=1huh,1huj,1hut 1hyf=1hyp,1hyq 1ida=1idj",
  "1idz=1idj 1ink=1int 1inu=1int 1inx=1int 1iun=1iuw,1iux 1jjk=1jjp"]

/-- Characters and the ones before them that they form a single character with. -/
def pairs : List (Nat × List Nat) :=
  (pairTable.flatMap CodePointSet.words).map fun word =>
    (CodePointSet.number (word.takeWhile (· ≠ '=')),
      (((word.dropWhile (· ≠ '=')).drop 1).splitOn ',').map CodePointSet.number)

/-- Whether a syllable goes on with a vowel or a final consonant of its script. -/
def completesSyllable (first second : Nat) : Bool :=
  (0x1100 ≤ first && first ≤ 0x1112 && 0x1161 ≤ second && second ≤ 0x1175) ||
    (0xAC00 ≤ first && first ≤ 0xD7A3 && (first - 0xAC00) % 28 = 0 && 0x11A8 ≤ second &&
      second ≤ 0x11C2)

/-- Whether two characters form a single one. -/
def formsPair (first second : Char) : Bool :=
  completesSyllable first.toNat second.toNat ||
    ((pairs.lookup second.toNat).getD []).contains first.toNat

/-- Whether the rest of a label is composed after its last character of class zero and the class of
the character before the rest. -/
def isComposedAfter (starter : Option Char) (lastClass : Nat) : List Char → Bool
  | [] => true
  | character :: rest =>
      let ownClass := combiningClass character
      let adjacent := lastClass = 0 || lastClass < ownClass
      if ownClass ≠ 0 && ownClass < lastClass then false
      else if adjacent && starter.any (formsPair · character) then false
      else if ownClass = 0 then isComposedAfter (some character) 0 rest
      else isComposedAfter starter ownClass rest

/-- Whether a label is composed. -/
def isComposed (label : List Char) : Bool :=
  isComposedAfter none 0 label

end ShootMachines.Net.Domain
