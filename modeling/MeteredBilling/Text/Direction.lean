import MeteredBilling.Text.CharSet
import MeteredBilling.Text.Extending

/-!
# Directions of writing

The kinds of characters by the direction in which they are written, and the rule for a line of
labels that are written in both directions. Characters that stand in no label may be counted as any
kind, and symbols of letters are counted like the letters.
-/

namespace MeteredBilling.Text

namespace Direction

def rightToLeft : CharSet :=
  ⟨[0x5be, 0x606, 0x608, 0x609, 0x60b, 0x60c, 0x60d, 0x60e, 0x61b, 0x660, 0x66d, 0x6de, 0x6e5,
    0x6e9, 0x6ee, 0x6f0, 0x6fa, 0x7f6, 0x7fa, 0x903, 0x2135, 0x2139, 0xfb1d, 0xfd3e, 0xfd50,
    0xfdcf, 0xfdf0, 0xfdfd, 0xfe71, 0xff5f, 0x10800, 0x1091f, 0x10920, 0x10b39, 0x10b40, 0x10d30,
    0x10d40, 0x10e60, 0x10e80, 0x11000, 0x1e800, 0x1eef0]⟩

def europeanNumbers : CharSet :=
  ⟨[0x30, 0x3b, 0x6f0, 0x6fa, 0x102e1, 0x10300]⟩

def arabicNumbers : CharSet :=
  ⟨[0x660, 0x66a, 0x66b, 0x66d, 0x10d30, 0x10d40, 0x10e60, 0x10e80]⟩

def neutrals : CharSet :=
  ⟨[0x21, 0x30, 0x3b, 0x41, 0x5f, 0x61, 0x7b, 0xb5, 0xb6, 0xc0, 0xd7, 0xd8, 0xf7, 0xf8, 0x2b9,
    0x2bb, 0x2c2, 0x2d0, 0x2d2, 0x2e0, 0x2e5, 0x2ee, 0x2ef, 0x370, 0x374, 0x376, 0x387, 0x388,
    0x3f6, 0x3f7, 0x58a, 0x5be, 0x606, 0x608, 0x609, 0x60b, 0x60c, 0x60d, 0x60e, 0x61b, 0x66a,
    0x66b, 0x6de, 0x6e5, 0x6e9, 0x6ee, 0x7f6, 0x7fa, 0x9f2, 0x9f4, 0x9fb, 0x9fc, 0xaf1, 0xaf9,
    0xbf3, 0xc01, 0xc78, 0xc7f, 0xe3f, 0xe40, 0xf3a, 0xf3e, 0x1390, 0x13a0, 0x1400, 0x1401,
    0x169b, 0x16a0, 0x17db, 0x17dc, 0x17f0, 0x1810, 0x1940, 0x1946, 0x19de, 0x1a00, 0x200d,
    0x2094, 0x20a0, 0x2107, 0x2108, 0x210f, 0x2114, 0x2126, 0x2127, 0x212b, 0x212e, 0x2132,
    0x213a, 0x213c, 0x2140, 0x214e, 0x2150, 0x2180, 0x2189, 0x2336, 0x237b, 0x2395, 0x2396,
    0x2427, 0x2440, 0x26ac, 0x26ad, 0x2800, 0x2900, 0x2b96, 0x2b97, 0x2c00, 0x2ce5, 0x2ceb,
    0x2cf9, 0x2d00, 0x2e00, 0x3005, 0x3008, 0x3021, 0x3030, 0x3031, 0x3036, 0x3038, 0x303d,
    0x3041, 0x30a0, 0x30a1, 0x30fb, 0x30fc, 0x31c0, 0x31e4, 0x321d, 0x3220, 0x327c, 0x327f,
    0x33de, 0x33e0, 0x4dc0, 0x4e00, 0xa490, 0xa4d0, 0xa60d, 0xa610, 0xa673, 0xa680, 0xa700,
    0xa722, 0xa788, 0xa789, 0xa828, 0xa830, 0xa838, 0xa840, 0xa874, 0xa880, 0xab6a, 0xab70,
    0xfd3e, 0xfd50, 0xfdcf, 0xfdf0, 0xfdfd, 0xfe71, 0xff5f, 0xff66, 0xffe0, 0x10000, 0x10101,
    0x10102, 0x10140, 0x1018d, 0x10190, 0x101d0, 0x1091f, 0x10920, 0x10b39, 0x10b40, 0x11052,
    0x11066, 0x11660, 0x11680, 0x11fd5, 0x11fff, 0x16fe2, 0x16fe3, 0x1d1e9, 0x1d2c0, 0x1d300,
    0x1d360, 0x1d6db, 0x1d6dc, 0x1d715, 0x1d716, 0x1d74f, 0x1d750, 0x1d789, 0x1d78a, 0x1d7c3,
    0x1d7c4, 0x1e2ff, 0x1e4d0, 0x1eef0, 0x1f12a, 0x1f12f, 0x1f150, 0x1f16d, 0x1f170, 0x1f1ad,
    0x1f1e6, 0x1f260, 0x1f6d8, 0x1f6dc, 0x1f777, 0x1f77b, 0x1f8b2, 0x1f900, 0x1fa54, 0x1fa60,
    0x1fa89, 0x1fa90, 0x1fabe, 0x1fabf, 0x1fac6, 0x1face, 0x1fadc, 0x1fae0, 0x1fae9, 0x1faf0,
    0x1fbcb]⟩

end Direction

/-- The kinds of characters. -/
inductive Direction
  | left
  | right
  | number
  | arabicNumber
  /-- Takes on the direction around it. -/
  | neutral
  /-- Belongs to the character in front of it. -/
  | extending
  deriving DecidableEq, Repr

namespace Direction

def ofChar (c : Char) : Direction :=
  if Text.extending.contains c then extending
  else if rightToLeft.contains c then right
  else if europeanNumbers.contains c then number
  else if arabicNumbers.contains c then arabicNumber
  else if neutrals.contains c then neutral
  else left

/-- A label with a character that is written to the left. -/
def hasLeftward (label : List Char) : Bool :=
  label.any fun c => [right, arabicNumber].contains (ofChar c)

/-- A label starts and ends with characters of its own direction, numbers may end it, and none of
the other direction stands in it. Numbers of both kinds do not stand side by side. -/
def isConsistent (label : List Char) : Bool :=
  let kinds := label.map ofChar
  let last := (kinds.reverse.dropWhile (· == extending)).head?
  match kinds with
  | [] => true
  | right :: _ =>
    !kinds.contains left && [some right, some number, some arabicNumber].contains last
      && !(kinds.contains number && kinds.contains arabicNumber)
  | left :: _ =>
    !kinds.contains right && !kinds.contains arabicNumber
      && [some left, some number].contains last
  | _ => false

/-- Labels of both directions may stand together only if each is consistent. -/
def areReadable (labels : List (List Char)) : Bool :=
  !labels.any hasLeftward || labels.all isConsistent

end Direction
end MeteredBilling.Text
