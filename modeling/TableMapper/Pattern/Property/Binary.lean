import TableMapper.Pattern.Property.Case
import TableMapper.Pattern.Property.Category
import TableMapper.Pattern.Property.Script

/-!
# Properties that a character has or lacks

A `Description` says how a set is made from tables, categories and scripts; `Description.set` is the
set.  Some properties are listed, the others are derived from these and from the categories.
`binary?` finds a property by its name.
-/

namespace TableMapper

namespace Pattern

/-- A description of a set of characters. -/
inductive Description where
  /-- The intervals of a table. -/
  | table (lines : List String)
  /-- The code points of some intervals. -/
  | intervals (intervals : List (Nat × Nat))
  /-- The characters in one of some categories. -/
  | categories (categories : List String)
  /-- The characters of a script, by its code. -/
  | script (code : String)
  /-- The characters that some other character differs from only in case. -/
  | caseVaried
  | union (a b : Description)
  | inter (a b : Description)
  | diff (a b : Description)

namespace Description

/-- The set that is described. -/
def set : Description → CodePoints
  | table lines => .ofTable lines
  | intervals is => .ofIntervals is
  | categories cs => ofCategories cs
  | script code => ofScript code
  | caseVaried => Pattern.caseVaried
  | union a b => a.set.union b.set
  | inter a b => a.set.inter b.set
  | diff a b => a.set.diff b.set

end Description

end Pattern

namespace Pattern

namespace Property

/-! ### Listed properties -/

/-- ASCII digits of hexadecimal numbers. -/
def asciiHexDigit : Description :=
  .table ["1c.9 8.5 r.5"]

/-- Controls of the direction of text. -/
def bidiControl : Description :=
  .table ["17g 54i.1 r.4 1k.3"]

/-- Characters that are mirrored in text from right to left. -/
def bidiMirrored : Description :=
  .table ["14.1 j 2 t 2 u 2 1a g 2v3.3 1ge.1 1wd.1 b.1 1j.1 f.1 4y 5d.3 4.5 4 4.1 4.3 2.3 2 2 5.8",
          "6 2.h 6.3 a.1 2 2.7 2.v 3.3 6 a.1 3.i 6.1 a.4 3.1 5.n 3.f 9.3 l.1 8.1 u6.d 23 3.3 2.1",
          "2.2 6.3 6.2 4.d b8.l 3.5 2.d 9 8.5 4 5.4 2.1 3.4 5 2.2 3.1 b.5 3.1 d.i 2.3 3 2 3 2.3",
          "6.1 7.2 p.1 c.1 5.3 2.1 3.1 5.16 3.7 2.13 6 2 4.4 6.2 5 4.4 2 75 ec.3 4.1 2.1 f.1 3.9",
          "18.7 bw.9 3.7 14qm.5 6.1 4j.1 j 2 t 2 u 2 2.1 2.1 16k8 1m 1m 1m 1m"]

/-- Dashes. -/
def dash : Description :=
  .table ["19 125 1g 2te sm 1l6.5 1q 14 g av 2dh 3 w.1 5 t cf k 34 14lt.1 12 b 4q 2u9 8v"]

/-- Characters that should not be used. -/
def deprecated : Description :=
  .table ["95 10q 1s4 2 1m2.1 1qe.5 je.1 jh07"]

/-- Characters that modify another one. -/
def diacritic : Description :=
  .table ["2m 2 20 7 5 3.1 e0.4e 2.7 6.5 i.1 5 a.1 72.4 5u 1k.18 2 2.1 2.1 2 3o.7 5.1 3r.1 5.1",
          "4.2 1w.q 2k.a 1n.a z.1 3j.7 16.9 h.r 1q h 4.3 t 23 h 33 h 33 h 1c.2 1p h 8 3c 33 h 33",
          "h 32.1 h 3h 34 d.5 2 30 e.4 24.1 s 2 2 5.1 1v.2 2.1 1r 35 2.1 15.1 5.4 q.6 2 b.1 jm.2",
          "qd.1 v 45.a a 9o.2 85 l.7 3 1d.e 3.a 2x g 13.8 1j.1 1n c.1 1v.1 1t.5 2b.o 5 7 3.2",
          "1f.1q 1d.z 6.b 12.a ce 2.2 c.2 e.2 e.2 e.1 2k1.2 8u e3.5 2y.3 2o n77 d.1 2 t.1 2b.1",
          "f.x 2v.2 32.1 d 12 48 s.h 1m.3 11 2o d 11 46.2 1u.3 1g 2t.4 a.2 3l.1 fn5 le.f 7j 2 1c",
          "1a.1 1w l9 ww.5 2.15 2.8 hq.2 5 4m.1 fw.5 13 r.4 b4.2 1z.a 1e.3 5d 16 21.1 3d.1 1r 25",
          "a.2 2x.1 4z.1 29.1 h p.6 4.4 2i.2 2.1 e.1 2o 4 3g.1 70.1 3j 3b.1 38 7i.1 77.1 5 4d 2c",
          "j 2a bq 77 2.1 2a bu.1 o 44t.e 8uy 1xd.4 1o.6 fp.1 f7.g 29.1 cn3.3 2.6 2.1 64i.19 3.m",
          "f5.2 4.5 9.7 3.6 v.3 2v7.1p 5f.6 ag 1q.3 lb.1 kh.6 32.2 2.2"]

/-- Characters that can be shown as a picture. -/
def emoji : Description :=
  .table ["z 7 6.9 34 5 68e d 61 n 2j.5 g.1 a8.1 d 4n q.a 5.2 5k 6g.1 b a 1n.3 2.4 a 3 3.1 3 5 3",
          "2.1 3 4 4.1 9.2 6 2 6.b c.1 3 2.1 2 j 3.1 j.5 2 2.1 4.1 6 3.1 5.1 c.1 6.1 3 6.1 2 2.1",
          "l.1 6.5 2.3 3 5 3 3.5 2 3 2 2 7 4 7 b.1 g 3 5 2 5.2 2 c.1 1d.2 a f f ad.1 cw.2 k.1 1g",
          "5 yj d gq 2 2fzf 5n 4h.1 d.1 f 3.9 24.p 2.1 o l 3.8 m.1 4v.x 3.33 3.1 2.2 3.2a 3.2",
          "2.7a 2.1q c.5 2.n 8.1 3.7 d 3.3 3 5.1 e.1 3 9.1 a 6.2 d.2 9.2 3 2 5 7 4 7.2d 1d.1x 6.7",
          "3.2 5.9 4 2.1 4 3.9 6c.b 5 7w.1a 2.9 2.54 35.c 4.9 6.1j 8.e 3.a 7.8"]

/-- Characters that occur in sequences for pictures. -/
def emojiComponent : Description :=
  .table ["z 7 6.9 6ac 5y 17os 1c5z.p e4.4 14h.3 gw31.2n"]

/-- Skin tones. -/
def emojiModifier : Description :=
  .table ["2qrf.4"]

/-- Pictures that a skin tone can follow. -/
def emojiModifierBase : Description :=
  .table ["7j1 64 h.3 2iyg 1p.2 3 3.2 3a.1 3.a m.i 4 5.2 2.2 8 2 p 5m.1 5 m 5.1 4v.2 4.4 2c h.2 a",
          "c g0 3 9.7 7 a.9 3.2 1l 1q.1 2.1 2 i.2 2.c 6e.2 17.8"]

/-- Characters that are shown as a picture unless told otherwise. -/
def emojiPresentation : Description :=
  .table ["6xm.1 5q.3 4 3 ei.1 m.1 1f.b 18 k e 9.1 i.1 6.1 9 6 m 8.1 2 5 3 8 5.1 t 10 2 5.2 2",
          "1q.2 p f nw.1 1g 5 2hf3 5n 5b 3.9 24.p 2 p l 3.4 2.2 m.1 4v.w d.8 2.1x 2.l d.16 5.4",
          "d.g 4 4.1y 2 2.56 3.1q e.3 2.n j r.1 e 2f.2c 1d.1x 7 4.2 3.2 5.3 c.1 8.8 6c.b 5 7w.1a",
          "2.9 2.54 35.c 4.9 6.1j 8.e 3.a 7.8"]

/-- Pictures, and code points that are kept free for them. -/
def extendedPictographic : Description :=
  .table ["4p 5 68e d 61 n 2j.5 g.1 a8.1 d 2o 1z q.a 5.2 5k 6g.1 b a 1n.3 2.5 2.b 2.35 b.39 3.a 2",
          "2 7 4 7 b.1 g 3 5 2 5.2 2 c.4 1a.2 a f f ad.1 cw.2 k.1 1g 5 yj d gq 2 2fzb.73 e.2 w",
          "1p.5 d.1 f 3.9 j.1k s.e b l 3.8 2.3 a.c1 6.8t 9.7d 1d.3j 39.b 2e.16 d.3 1l.7 b.5 15.7",
          "v.29 d.1a 2.9 2.c8 75.sd"]

/-- Characters that extend the one in front. -/
def extender : Description :=
  .table ["53 ex.1 of ca hj 3u 2i kx 3k 1tw 1l h0 b3 1x 3uy 18.4 2w.1 2m.2 lxz 16f qr n 3u 31 m.1",
          "gos 1ld.1 158 s 5 y0 86 39.1 dv.2 y8 fxm.1 wt.1 2 me1.1 xe np.2"]

/-- Characters that join consonants. -/
def graphemeLink : Description :=
  .table ["1u5 3k 3k 3k 3k 3k 3k 3k 32.1 h 3h 34 3k 5m 51.1 1cq.1 v 4e i6 6c 2u.1 1z.1 3gs o7b 12",
          "48 3z 31 8m 6v imq 16v 16 f 1m 3e.1 3w 39 51 2r 3l.2 36 3k 71 3k 3b 39 7i 78.1 4i 2c j",
          "2a bq 79.1 2a bu.1 d0t"]

/-- Digits of hexadecimal numbers. -/
def hexDigit : Description :=
  .table ["1c.9 8.5 r.5 1eay.9 8.5 r.5"]

/-- Hyphens. -/
def hyphen : Description :=
  .table ["19 3k yl 3ng 1l6.1 2rq kk 14ko 4q 2g"]

/-- Operators that describe an ideograph by two parts. -/
def idsBinaryOperator : Description :=
  .table ["9gw.1 3.9 du"]

/-- Operators that describe an ideograph by three parts. -/
def idsTrinaryOperator : Description :=
  .table ["9gy.1"]

/-- Operators that describe an ideograph by one part. -/
def idsUnaryOperator : Description :=
  .table ["9ha.1"]

/-- Mathematical signs that a profile allows inside of identifiers. -/
def idCompatMathContinue : Description :=
  .table ["4y.1 6 69j 4.a 2.e ac 5 n 2e8z q w q w q w q w q"]

/-- Mathematical signs that a profile allows at the start of identifiers. -/
def idCompatMathStart : Description :=
  .table ["6pu 5 n 2e8z q w q w q w q w q"]

/-- Ideographs. -/
def ideographic : Description :=
  .table ["9hi.1 q.8 f.2 qu.533 1t.g73 hkx.a5 3.2x n4b s.4qf 9.yd 16.9 76w.az f7p.wyn x.37d 7.65",
          "3.4g1 f.5rk g.h9 1wj.f1 15v.3t6 6.38f"]

/-- Controls of the joining of letters. -/
def joinControl : Description :=
  .table ["6bw.1"]

/-- Vowels that are written in front of the consonant they follow. -/
def logicalOrderException : Description :=
  .table ["2tc.4 3g.4 25t.2 3 smz.1 3 2.1"]

/-- Marks that are drawn closer to the letter than others. -/
def modifierCombiningMark : Description :=
  .table ["190.1 3 3o 7 4.1 de.1 2.2 4 w"]

/-- Code points that never stand for a character. -/
def noncharacterCodePoint : Description :=
  .table ["1e4w.v en.1 1ekf.1 1ekf.1 1ekf.1 1ekf.1 1ekf.1 1ekf.1 1ekf.1 1ekf.1 1ekf.1 1ekf.1",
          "1ekf.1 1ekf.1 1ekf.1 1ekf.1 1ekf.1 1ekf.1"]

/-- Alphabetic characters beyond letters, by agreement. -/
def otherAlphabetic : Description :=
  .table ["o3.c g1.d 2 2.1 2.1 2 21.a 1d.c 2.6 h 2u.6 5.3 3.1 5 10 v.f 2v.a 2u.1 4.8 2.2 2.3 2z",
          "1p.b 4.6 7.j 1j.1 3.e 2.1 6.2 b.1 u.2 1n.6 3.1 3.1 b b.1 u.2 1n.4 5.1 3.1 5 v.1 4 c.2",
          "1n.7 2.2 2.1 m.1 n.2 5.2 1n.6 3.1 3.1 a.1 b.1 v 1o.4 4.2 2.2 b 15.4 1m.6 2.2 2.2 9.1",
          "c.1 u.2 1n.6 2.2 2.2 9.1 c.1 g d.3 1n.6 2.2 2.2 b b.1 u.2 24.5 2 2.7 j.1 1q 3.6 j 2s",
          "3.5 2.1 h 4k.i a.a 2.z 33.b 2 3.3 o.3 5.2 2.2 3.6 4.3 e.b 2 b.3 19x.1 v.1 v.1 v.1 1v.i",
          "59.1 z 3b.b 5.8 67.4 1m.9 3.j 23.1 c.2 1e.4 1d.e 1p.2 v.8 3.1 1m.a 1f.i bh.x 358.v",
          "nsl.7 z.1 9v 9 o.4 2h.1 1f.f 2 1m 13.4 t.b 1a.3 1d.b 12 1w.d d 9.1 1a.2 1f 2.2 3.1 6",
          "19.4 6 6m.7 fn8 1nc.4 1af.2 2.1 6.3 lx.3 1u 8y.1 28 78.2 1i.d 1a.1 c.2 1a.8 a 1q.2",
          "11.b j.1 1m.2 1d.c f.1 2l.8 3 7 3 4e.9 o.3 1n.6 3.1 3.1 b b.1 2d.8 2 3 2.3 2.1 2w.c",
          "2.2 2z.h 6m.6 3.6 u.1 2b.e 2 2z.a 2w.d 76.c 6w.5 2.1 3.1 4 2 3z.6 3.5 5 t.9 17.4 2.3",
          "j.a 1b.d bc.7 2.6 2c.l 2.d 3f.5 4 2.1 2.2 2 4 1v.4 2.1 2.3 9p.3 a.1 2 1d.6 4.2 d0e.g",
          "2sh 2.1i 8.3 2m.1 f59 6zm.6 2.g 3.6 2.1 2.4 2t 1q0"]

/-- Invisible characters beyond formats, by agreement. -/
def otherDefaultIgnorableCodePoint : Description :=
  .table ["nj 2s0.1 190.1 1ps 3cv 14qk 28.8 i9e0 2.t 2p.3j 6p.2rz"]

/-- Characters beyond marks that extend the one in front, by agreement. -/
def otherGraphemeExtend : Description :=
  .table ["1xa p 9z p 2v p 6h 2 5.1 2.1 a.1 2w p 3c g 1ti v sh 6 2 6.1 2u 20.1 t5 36q.1 nxg 31",
          "gym.1 3kx 39 7d f a 2p a 3 2.2 6 69 d 6q 7b hm d 16s fxr.1 j90.1 7.5 h41a.2n"]

/-- Characters that continue an identifier, by agreement. -/
def otherIdContinue : Description :=
  .table ["53 k0 34y.8 19l 182.1 3ce 14ru"]

/-- Characters that start an identifier, by agreement. -/
def otherIdStart : Description :=
  .table ["4ud.1 1oy m 31p.1"]

/-- Small characters that are no small letters. -/
def otherLowercase : Description :=
  .table ["4q g dy.8 8.1 v.4 2p 1h 2o2 2eo.1q e z.10 j6 e h.c 5w.f nl.p 1hv.1 o4f.1 5v 3m.2 4.1",
          "o3.3 a i6v 3.2 2.15 2.8 16ra.1p"]

/-- Mathematical characters beyond symbols. -/
def otherMath : Description :=
  .table ["2m oi.2 3 r.1 3.1 5k1 s.2 c x.3 p.1 f.1 1u.c 5 4.1 5.4 j 5 3.9 2 4.4 7 4.1 3.1 2.2 2.5",
          "4.3 6.4 24.4 3.3 2.1 2.1 2 2.4 3.1 5.1 5.h 3.1 2 2.6 2 7.1 83.3 4p.1 2 p i ce.1 d.8",
          "6.4 6.1 3.1 4.4 f 2 3.5 p.1 1m 2 u.3 a.1 9j.1 w.9 b8.l 1s.3 x.1 15yc 2 5 5w 2 160y.2c",
          "2.1y 2.1 3 3.1 3.3 2.b 2 2.6 2.1s 2.3 3.7 2.6 2.r 2.3 2.4 2 4.6 2.9f 3.o 2.o 2.u 2.o",
          "2.u 2.o 2.u 2.o 2.u 2.o 2.7 3.1d 4ch.3 2.q 2.1 2 3 2.9 2.3 2 2 7 5 2 2 2.2 2.1 2 3 2 2",
          "2 2 2.1 2 3.3 2.6 2.3 2.3 2 2.9 2.g 6.2 2.4 2.g"]

/-- Capitals that are no capital letters. -/
def otherUppercase : Description :=
  .table ["6lc.f nb.p 2ixt.p 7.p 7.p"]

/-- Characters kept free for the notation of patterns. -/
def patternSyntax : Description :=
  .table ["x.e b.6 r.3 2 r.3 z.6 2 2.1 2 2.1 5 5 4 o w 655.n 9.e 3.i 2.9 8i.jz 4h.hh v.vf e9.3j",
          "aq.2 5.o g 14i6.1 7a.1"]

/-- Characters that are blank in patterns. -/
def patternWhiteSpace : Description :=
  .table ["9.4 j 2t 689.1 p.1"]

/-- Signs that span the digits behind them. -/
def prependedConcatenationMark : Description :=
  .table ["16o.5 60 1e ap.1 29 1g4b g"]

/-- Quotation marks. -/
def quotationMark : Description :=
  .table ["y 5 3o g 671.7 q.1 2rs cq.3 e.2 14pu.3 5a 5 2j.1"]

/-- Radicals of ideographs. -/
def radical : Description :=
  .table ["96o.p 2.2g d.5x"]

/-- Letters that make up flags. -/
def regionalIndicator : Description :=
  .table ["2qcm.p"]

/-- Signs that end a sentence. -/
def sentenceTerminal : Description :=
  .table ["x d h 11m 44.2 51 18.2 6v 1q 2 4.1 86.1 1d1.1 lz 5.1 li 5j.1 4e.1 1a 6 8r.1 9v.3 4j.1",
          "b.1 3.1 u.2 58.1 1u.1 px o.1 a.2 2i8.2 8j e n.1 by n3x 7j.1 6c 4 an.1 2f.1 2o 49.1",
          "44.2 41.1 6y g87 3.1 1o 4.1 4q d h 1u 25x.1 zi.4 19.3 5a.1 3a.3 3k.2 3m.1 7 h.1 2h.1",
          "2.1 31 8b.1 3a.1 ae.1 6.e 2y.1 6y.2 ee 2 70.1 2g.1 bp.1 j9.1 23.1 eui.1 3q 1u.1 c fe.1",
          "89 fev 5wp"]

/-- Letters that lose their dot below an accent. -/
def softDotted : Description :=
  .table ["2x.1 5h 7u v 1h l 8x 2r 2 4y2 1g e 4 3p 4e bq 5z.1 27n 2bom.1 1f.1 1f.1 1f.1 1f.1 1f.1",
          "1f.1 1f.1 1f.1 1f.1 1f.1 1f.1 1f.1 1on 8i.1 r"]

/-- Signs that end a part of a text. -/
def terminalPunctuation : Description :=
  .table ["x b 2 c.1 4 n3 9 ea 1m 21 f 2.2 51 18.a 2 6k.1 1j.5 2.7 w 7a.1 z9.1 4t 5.5 8o.1 ly.7",
          "li 3h.2 20.1 4e.2 4 14.3 3.1 8r.1 9v.3 4j.1 b.1 2.2 u.2 58.4 1r.1 px o.1 a.2 2i8.2 8j",
          "e 5 b 2.1 4.1 bx.1 n3w.1 7i.2 6c.4 an.1 2f.1 2o 48.2 44.2 3k h.1 6y g87 3.1 1m.2 2.3",
          "4q b 2 c.1 4 1u 3 u3 1d w7 5k 8n.1 49.5 1x.5 2i.3 qh.4 19.3 5a.6 35.3 3k.2 3m.1 7 h.1",
          "2h.4 31 8b.1 3a.2 d.1 9z.3 4.e 2y.1 6y.2 ee 2 70.1 2g.1 5.1 bj.2 1a hy.1 23.1 10s.4",
          "dtm.1 3q 1u.2 b fe.1 88.1 fev 5wo.3"]

/-- Ideographs that are the same in several languages. -/
def unifiedIdeograph : Description :=
  .table ["a9s.533 1t.g73 hsf.1 2 2.1 b 2 2.1 3.2 1fpz.wyn x.37d 7.65 3.4g1 f.5rk g.h9 3hf.3t6",
          "6.38f"]

/-- Selectors of a form of the character in front. -/
def variationSelector : Description :=
  .table ["4qz.2 2 19f5.f i9yp.6n"]

/-- White space. -/
def whiteSpace : Description :=
  .table ["9.4 j 2t r 4bk 1vk.a u.1 6 1c 335"]

/-! ### Derived properties -/

/-- Small letters and other small characters. -/
def lowercase : Description := .union (.categories ["Ll"]) otherLowercase

/-- Capital letters and other capitals. -/
def uppercase : Description := .union (.categories ["Lu"]) otherUppercase

/-- Letters, and what is used like them. -/
def alphabetic : Description :=
  .union (.union lowercase uppercase)
    (.union (.categories ["Lt", "Lm", "Lo", "Nl"]) otherAlphabetic)

/-- Characters of upper, lower or title case. -/
def cased : Description := .union (.union lowercase uppercase) (.categories ["Lt"])

/-- Characters that do not count for the position of a letter in a word. -/
def caseIgnorable : Description :=
  .union (.categories ["Mn", "Me", "Cf", "Lm", "Sk"])
    (.intervals [(0x27, 0x27), (0x2E, 0x2E), (0x3A, 0x3A), (0xB7, 0xB7), (0x387, 0x387),
      (0x55F, 0x55F), (0x5F4, 0x5F4), (0x2018, 0x2019), (0x2024, 0x2024), (0x2027, 0x2027),
      (0xFE13, 0xFE13), (0xFE52, 0xFE52), (0xFE55, 0xFE55), (0xFF07, 0xFF07), (0xFF0E, 0xFF0E),
      (0xFF1A, 0xFF1A)])

/-- Symbols and letters of mathematics. -/
def math : Description := .union (.categories ["Sm"]) otherMath

/-- Characters that extend the one in front. -/
def graphemeExtend : Description := .union (.categories ["Me", "Mn"]) otherGraphemeExtend

/-- Characters that others extend. -/
def graphemeBase : Description :=
  .diff (.diff (.intervals [(0, 0x10FFFF)])
    (.categories ["Cc", "Cf", "Cs", "Co", "Cn", "Zl", "Zp"])) graphemeExtend

/-- Characters that are not shown when they are not known. -/
def defaultIgnorableCodePoint : Description :=
  .diff (.union (.union otherDefaultIgnorableCodePoint (.categories ["Cf"])) variationSelector)
    (.union (.union whiteSpace prependedConcatenationMark)
      (.intervals [(0xFFF9, 0xFFFB), (0x13430, 0x13440)]))

/-- What the notation of patterns keeps out of identifiers. -/
def patternCharacter : Description := .union patternSyntax patternWhiteSpace

/-- Characters that start an identifier. -/
def idStart : Description :=
  .diff (.union (.categories ["Lu", "Ll", "Lt", "Lm", "Lo", "Nl"]) otherIdStart) patternCharacter

/-- Characters that continue an identifier. -/
def idContinue : Description :=
  .diff (.union idStart (.union (.categories ["Mn", "Mc", "Nd", "Pc"]) otherIdContinue))
    patternCharacter

/-- Characters that start an identifier in every normal form. -/
def xidStart : Description :=
  .diff idStart (.table ["oq 249 3k 6p4.1 148y.5 bb.1 39 2 2 2 2 2 2 2 80.1"])

/-- Characters that continue an identifier in every normal form. -/
def xidContinue : Description :=
  .diff idContinue (.table ["oq 8wx.1 148y.5 bb.1 39 2 2 2 2 2 2 2"])

/-- Characters that the change to lower case alters. -/
def changesWhenLowercased : Description :=
  .union (.inter .caseVaried (.union uppercase (.categories ["Lt"]))) (.intervals [(0x130, 0x130)])

/-- Characters that the change to upper case alters. -/
def changesWhenUppercased : Description :=
  .union (.diff .caseVaried uppercase)
    (.table ["8h o 4n pj 4y7.4 52 2 2 2 2k 2 2.1 b 2 2.1 b 4.1 b 2 2.1 b 2 2.1 179l.4 f.4"])

/-- Characters that the change to title case alters. -/
def changesWhenTitlecased : Description :=
  .union
    (.diff changesWhenUppercased
      (.union (.categories ["Lt"]) (.intervals [(0x10D0, 0x10FA), (0x10FD, 0x10FF)])))
    (.intervals [(0x1C4, 0x1C4), (0x1C7, 0x1C7), (0x1CA, 0x1CA), (0x1F1, 0x1F1)])

/-- Characters that some change of case alters. -/
def changesWhenCasemapped : Description :=
  .union (.union changesWhenLowercased changesWhenUppercased) changesWhenTitlecased

/-- Characters that the folding of case to one or more characters alters. -/
def changesWhenCasefolded : Description :=
  .union (.diff changesWhenLowercased (.intervals [(0x13A0, 0x13F5)]))
    (.table ["51 16 2y 1i cm 3h e.1 4.1 q.1 4 b6 2up.5 1oj.8 eq.1 6d.7 9.7 9.7 b.2 3 b.2 3 17.2 3",
            "rjt.27 fnl.6 d.4"])

/-! ### Names -/

/-- The names of the properties. -/
def binaryNames : List (List String × Description) :=
  [(["alphabetic", "alpha"], alphabetic), (["asciihexdigit", "ahex"], asciiHexDigit),
    (["bidicontrol", "bidic"], bidiControl), (["bidimirrored", "bidim"], bidiMirrored),
    (["cased"], cased), (["caseignorable", "ci"], caseIgnorable),
    (["changeswhencasefolded", "cwcf"], changesWhenCasefolded),
    (["changeswhencasemapped", "cwcm"], changesWhenCasemapped),
    (["changeswhenlowercased", "cwl"], changesWhenLowercased),
    (["changeswhentitlecased", "cwt"], changesWhenTitlecased),
    (["changeswhenuppercased", "cwu"], changesWhenUppercased), (["dash"], dash),
    (["defaultignorablecodepoint", "di"], defaultIgnorableCodePoint),
    (["deprecated", "dep"], deprecated), (["diacritic", "dia"], diacritic), (["emoji"], emoji),
    (["emojicomponent", "ecomp"], emojiComponent), (["emojimodifier", "emod"], emojiModifier),
    (["emojimodifierbase", "ebase"], emojiModifierBase),
    (["emojipresentation", "epres"], emojiPresentation),
    (["extendedpictographic", "extpict"], extendedPictographic), (["extender", "ext"], extender),
    (["graphemebase", "grbase"], graphemeBase), (["graphemeextend", "grext"], graphemeExtend),
    (["graphemelink", "grlink"], graphemeLink), (["hexdigit", "hex"], hexDigit),
    (["hyphen"], hyphen), (["idcompatmathcontinue"], idCompatMathContinue),
    (["idcompatmathstart"], idCompatMathStart), (["idcontinue", "idc"], idContinue),
    (["ideographic", "ideo"], ideographic), (["idsbinaryoperator", "idsb"], idsBinaryOperator),
    (["idstart", "ids"], idStart), (["idstrinaryoperator", "idst"], idsTrinaryOperator),
    (["idsunaryoperator", "idsu"], idsUnaryOperator), (["joincontrol", "joinc"], joinControl),
    (["logicalorderexception", "loe"], logicalOrderException), (["lowercase", "lower"], lowercase),
    (["math"], math), (["modifiercombiningmark", "mcm"], modifierCombiningMark),
    (["noncharactercodepoint", "nchar"], noncharacterCodePoint),
    (["otheralphabetic", "oalpha"], otherAlphabetic),
    (["otherdefaultignorablecodepoint", "odi"], otherDefaultIgnorableCodePoint),
    (["othergraphemeextend", "ogrext"], otherGraphemeExtend),
    (["otheridcontinue", "oidc"], otherIdContinue), (["otheridstart", "oids"], otherIdStart),
    (["otherlowercase", "olower"], otherLowercase), (["othermath", "omath"], otherMath),
    (["otheruppercase", "oupper"], otherUppercase), (["patternsyntax", "patsyn"], patternSyntax),
    (["patternwhitespace", "patws"], patternWhiteSpace),
    (["prependedconcatenationmark", "pcm"], prependedConcatenationMark),
    (["quotationmark", "qmark"], quotationMark), (["radical"], radical),
    (["regionalindicator", "ri"], regionalIndicator),
    (["sentenceterminal", "sterm"], sentenceTerminal), (["softdotted", "sd"], softDotted),
    (["terminalpunctuation", "term"], terminalPunctuation),
    (["unifiedideograph", "uideo"], unifiedIdeograph), (["uppercase", "upper"], uppercase),
    (["variationselector", "vs"], variationSelector),
    (["whitespace", "wspace", "space"], whiteSpace), (["xidcontinue", "xidc"], xidContinue),
    (["xidstart", "xids"], xidStart)]

/-- The property behind a name in lower case without blanks, hyphens and underscores. -/
def binary? (name : String) : Option Description :=
  (binaryNames.find? fun (names, _) => names.contains name).map (·.2)

end Property

end Pattern

end TableMapper
