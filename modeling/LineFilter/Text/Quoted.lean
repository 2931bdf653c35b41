import LineFilter.Unicode.CharSet

/-!
# Quoted texts in messages

A text between double quotes. Quotes and backslashes are escaped, and so is
every character that does not show or that would run into the one before it, in
version 17.0 of the Unicode standard. The tables are packed: pairs of numbers in
base 36, each pair a gap and the length of the range behind it less one.
-/

namespace LineFilter.Text

/-- Characters without a visible form of their own, except the blank: those of the
general categories Cc, Cf, Cn, Co, Zl, Zp and Zs. -/
def invisible : CodeRanges := .unpack <|
  "0 v 2n x c 0 ju 1 6 3 7 0 1 0 k 0 b1 0 12 1 1e 1 3 0 1j 7 r 3 6 g m 0 5c 0 1c 1 1n 1 2t d " ++
  "1n 1 1d 1 f 0 s 1 1 0 b 4 w 6 23 0 4h 0 8 1 2 1 m 0 7 0 1 2 4 1 9 1 2 1 4 7 1 3 2 0 5 1 p " ++
  "1 3 0 6 3 2 1 m 0 7 0 2 0 2 0 2 1 1 0 5 3 2 1 3 2 1 6 4 0 1 6 h 9 3 0 9 0 3 0 m 0 7 0 2 0 " ++
  "5 1 a 0 3 0 3 1 1 e 4 1 c 6 7 0 3 0 8 1 2 1 m 0 7 0 2 0 5 1 9 1 2 1 3 6 3 3 2 0 5 1 i 9 2 " ++
  "0 6 2 3 0 4 2 2 0 1 0 2 2 2 2 3 2 c 3 5 2 3 0 4 1 1 5 1 d l 4 d 0 3 0 n 0 g 1 9 0 3 0 4 6 " ++
  "2 0 3 0 2 1 4 1 a 6 m 0 3 0 n 0 a 0 5 1 9 0 3 0 4 6 2 4 3 0 4 1 a 0 3 b d 0 3 0 1f 0 3 0 6 " ++
  "3 g 1 q 0 3 0 i 2 o 0 9 0 1 1 7 2 1 3 6 0 1 0 8 5 a 1 3 b 1m 3 t 10 2 0 1 0 5 0 o 0 1 0 n " ++
  "1 5 0 1 0 7 0 a 1 4 v 20 0 10 3 13 0 10 0 f 0 d 10 5i 0 1 4 1 1 ah 0 4 1 7 0 1 0 4 1 15 0 " ++
  "4 1 x 0 4 1 7 0 1 0 4 1 f 0 1l 0 4 1 1v 1 w 2 q 5 2e 1 6 1 hs 0 s 2 2h 6 m 8 o 8 k b d 0 3 " ++
  "0 2 b 2m 1 a 5 a 5 e 0 b 5 2h 6 17 4 1y 9 v 0 c 3 c 3 1 2 16 1 5 a 18 3 q 5 b 2 1q 1 1t 0 " ++
  "t 1 b 5 a 5 e 1 1a 1 c j 25 0 4m 7 1o 2 f 2 1q 4 17 1 b 7 17 4 eu 1 6 1 12 1 6 1 8 0 1 0 1 " ++
  "0 1 0 v 1 1h 0 f 0 e 1 6 0 j 1 3 0 9 g o 7 1b g 2 1 r 0 d 2 y d x e 3w 3 ii l b k 1ec 1 am " ++
  "4 19 0 1 4 1 1 1k 6 2 d o 8 7 0 7 0 7 0 7 0 7 0 7 0 7 0 7 0 3i x q 0 2h b 5y p g 0 1r 0 2e " ++
  "1 2v 4 17 0 2m 0 2e 8 1c 0 mlp 2 1j 8 9o j 54 7 65 j 1o 2 a 5 1k 7 1y 7 c 5 38 a u 2 26 0 " ++
  "b 3 x 0 1j 8 e 1 a 1 2v n s 9 6 1 6 1 6 8 7 0 7 0 1o 3 3i 1 a 5 8mc b n 3 1d 3 1kw 4xr a6 " ++
  "1 2y 11 7 b 5 4 q 0 5 0 1 0 2 0 2 0 i2 v 16 5 1f 0 j 0 4 3 5 0 3r 3 5a 2 6 1 6 1 6 1 3 2 7 " ++
  "0 7 c 2 1 c 0 q 0 j 0 2 0 f 1 e x 3f 4 3 3 19 2 2g 0 d 2 1 1a 1a 3l t 2 1d e s 3 10 8 u 4 " ++
  "17 4 u 0 11 3 e 15 4e 1 a 5 10 3 10 3 14 7 1g a c 0 f 0 7 0 2 0 b 0 f 0 7 0 2 2 1g b 8n 8 " ++
  "m 9 8 n 6 0 16 0 9 1w 6 1 1 0 18 0 2 2 1 1 n 0 20 7 9 1b j 0 2 4 x 2 r 4 r 11 1k 3 k 1 1e " ++
  "0 2 4 8 0 3 0 t 1 3 3 a 6 9 6 1s v 13 3 c 8 1i 2 t 1 r 4 q 6 4 b 7 27 21 1i 1f c 1f 6 1a 7 " ++
  "a 5 12 2 t 7 2 5r v 0 16 0 3 1 2 f 6 7 9 w 1a 7 16 l q 11 s j n 8 26 3 10 8 1q 0 5 c p 6 a " ++
  "5 1h 0 i 7 13 8 2o 0 k a i 0 1b 1p 7 0 1 0 4 0 f 0 b 5 1n 4 a 5 4 0 8 1 2 1 m 0 7 0 2 0 5 " ++
  "0 a 1 2 1 3 1 1 5 1 4 7 1 7 2 5 a a 0 1 1 1 0 12 0 a 0 1 1 1 0 4 0 a 0 2 7 2 s 2k 0 5 t 20 " ++
  "7 a 4l 1i 1 12 x 1x a a 5 d i 1m 5 a 5 k r r 1 f 3 n 54 1o 2r 2b b 8 1 1 1 8 0 2 0 u 0 2 1 " ++
  "c 8 a 1x 8 1 1a 1 b q 20 7 2b c 21 6 a 2d 8 2f y d a 5 9 0 19 0 e 9 t 2 w 1 m 0 e 20 7 0 2 " ++
  "0 18 2 1 0 2 0 9 7 a 5 6 0 2 0 11 0 2 0 6 6 a 5 18 3 a 6t p 6 h 0 15 2 t 2c 1 e 1e c pn 2t " ++
  "33 0 5 a 5g 217 2r c ts f m 9 32z 4 g7 5a0 1m 1c5 ft 6 v 0 a 3 29 0 a 5 u 1 6 9 1y 9 a 0 7 " ++
  "0 l 4 j bz 1m 5h 2j 4 p 1 p 17 23 3 1l 6 h 1r 5 a 7 8 5p2 14 w 2o 37 6po 4 0 7 0 2 0 83 e " ++
  "1 s 3 1 1 d 4 7 b0 1s3 2z 4 d 2 9 6 a 1 4 31b 71 2 c4 5 n e h e 1a 1 n 8 38 1n 6u 9 13 1 " ++
  "22 7 34 k 1y 3d k b k b 2f 8 p 3q 2d 0 1z 0 2 1 1 1 2 1 4 0 c 0 1 0 7 0 1t 0 4 1 8 0 7 0 s " ++
  "0 4 0 5 0 1 2 7 0 9g 1 84 1 ji e 5 0 f un v 5 6 5w 7 0 h 1 7 0 2 0 5 4 1q w 1 33 19 2 e 1 " ++
  "a 3 2 8v v g 1m 4 1 cv 16 5x 17 3 1 5b v 0 m 7 2 67 7 0 4 0 2 0 f 0 5h 1 g 14 24 3 a 3 2 " ++
  "ls 1w 23 1p 5d 4 0 r 0 2 0 1 1 1 0 a 0 4 0 1 0 1 5 1 3 1 0 1 0 1 0 3 0 2 0 1 1 1 0 1 0 1 0 " ++
  "1 0 1 0 2 0 1 1 4 0 7 0 4 0 4 0 1 0 a 0 h 4 3 0 5 0 h 1f 2 7h 18 3 2s b f 1 f 0 f 0 11 9 " ++
  "4u 1j t c 18 3 9 6 2 d 6 49 rd 2 h 2 d 2 62 5 c 3 1 e c 3 1k 7 a 5 14 7 u 1 c 3 2 d 9 12 " ++
  "9k 7 e 1 d 2 b 2 1l 0 1 3 g 1 c 3 a 6 43 0 2v sk wyo v 3dq 1 4ge 1 5rl e ha 1wh f2 15t 3t7 " ++
  "4 6ju f62t 6o 47bj"

/-- Characters that extend the one before them: the property Grapheme_Extend. -/
def extending : CodeRanges := .unpack <|
  "lc 33 7n 6 7b 18 1 0 1 1 1 1 1 0 20 a 1c k g 0 2t 6 2 5 2 1 1 3 z 0 u q 2j a 1m 8 9 0 o 3 " ++
  "1 8 1 2 1 4 17 2 1n 8 16 n 1 v 1j 0 1 0 4 7 4 0 3 6 a 1 t 0 1m 0 1 0 2 3 8 0 9 0 a 1 q 0 2 " ++
  "1 1l 0 4 1 4 1 2 2 3 0 u 1 3 0 b 1 1l 0 4 4 1 1 4 0 k 1 m 5 1 0 1m 0 1 1 1 3 8 0 7 2 a 1 u " ++
  "0 1n 0 1 0 c 0 9 0 14 0 3 0 1j 0 1 2 5 2 1 3 7 1 b 1 t 0 1m 0 2 1 1 0 3 2 1 3 7 1 b 1 s 1 " ++
  "1l 1 1 0 2 3 8 0 9 0 a 1 t 0 20 0 4 0 2 2 1 0 8 0 29 0 2 6 c 7 2q 0 2 8 b 6 21 1 r 0 1 0 1 " ++
  "0 1j d 1 4 1 1 5 a 1 z 9 0 2u 3 1 5 1 1 2 1 p 1 4 2 g 3 d 0 2 1 6 0 f 0 jj 2 qa 3 s 2 t 1 " ++
  "u 1 1s 1 1 6 8 0 2 a 9 0 19 2 1 0 39 1 y 0 3a 2 4 1 9 0 6 2 63 1 2 0 1m 0 1 6 1 0 1 0 2 7 " ++
  "6 9 2 0 1c 19 2 b k 3 1c 9 4 2 12 8 c 1 w 3 2 5 1k 0 1 1 3 0 1 4 1k 7 2 1 48 2 1 c 1 6 4 0 " ++
  "6 0 3 1 5i 1r ek 0 5f w 2da 2 3x 0 2o v fe 5 2x 1 n9w 3 1 9 w 1 28 1 7k 0 3 0 4 0 p 1 5 0 " ++
  "47 1 q h d 0 12 7 p a 1 0 18 2 1c 0 2 3 2 1 2 0 10 0 1v 5 2 1 2 1 c 0 8 0 1b 0 1f 0 1 2 2 " ++
  "1 5 1 1 0 16 1 8 0 6m 0 2 0 4 0 fn4 0 kh f g f a6 1 gt 0 6a 0 45 4 1ae 2 1 1 5 3 14 2 4 0 " ++
  "4l 1 fx 3 1t 4 8t 1 25 5 1y a 1d 3 3f 0 1i e 15 0 2 1 a 2 1d 3 2 1 7 0 1p 2 10 4 1 7 1q 0 " ++
  "c 1 1g 8 1 0 8 3 2 0 2n 2 2 3 6 0 2 0 4d 0 3 7 l 1 1l 1 1 0 1 0 c 0 9 0 e 6 3 4 1v 0 2 5 1 " ++
  "0 2 0 1 2 4 2 1 0 e 1 2d 7 2 2 1 0 n 0 29 0 2 5 1 0 2 0 1 1 1 1 6j 0 2 3 6 1 1 1 r 1 2d 7 " ++
  "2 0 1 1 2y 0 1 0 2 7 2t 0 1 0 2 3 1 4 77 8 1 1 6t 0 a 3 4 0 40 3 2 1 4 0 w 9 14 5 2 3 8 0 " ++
  "9 5 2 2 1a c 1 1 5i 0 1 2 1 0 5l 6 1 5 1 0 2a l 2 6 1 1 1 1 3e 5 3 0 1 1 1 6 1 0 20 1 3 0 " ++
  "1 0 9n 1 b 1 1g 4 5 2 n 0 44l 0 6 e 8ug b 3 2 1xc 4 1n 6 t4 0 1r 3 29 0 b 1 f57 1 3mp 19 2 " ++
  "m f2 4 3 5 8 7 2 6 u 3 44 2 1iz 1i 4 1d 8 0 e 0 m 4 1 e 11s 6 1 g 2 6 1 1 1 4 2s 0 4g 6 af " ++
  "0 1p 3 e4 3 72 1 6r 0 2 0 7 1 5 0 d6 6 31 6 gzbp 2n 3k 6n"

/-- A character between quotes. -/
def quoteChar (c : Char) : Text :=
  match c with
  | '"' => ['\\', '"']
  | '\\' => ['\\', '\\']
  | '\n' => ['\\', 'n']
  | '\r' => ['\\', 'r']
  | '\t' => ['\\', 't']
  | '\x00' => ['\\', '0']
  | c =>
    if invisible.has c.toNat || extending.has c.toNat then
      ['\\', 'u', '\x7b'] ++ Nat.toDigits 16 c.toNat ++ ['\x7d']
    else [c]

def quote (text : Text) : Text := '"' :: text.flatMap quoteChar ++ ['"']

end LineFilter.Text
