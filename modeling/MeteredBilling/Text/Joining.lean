import MeteredBilling.Text.CharSet
import MeteredBilling.Text.Extending

/-!
# Joining characters

Which characters are written together with their neighbours, and where a mark that says so may
stand. Characters that stand in no label may be counted either way.
-/

namespace MeteredBilling.Text.Joining

/-- Letters that join the one behind them. -/
def forward : CharSet :=
  ⟨[0x620, 0x621, 0x626, 0x627, 0x628, 0x629, 0x62a, 0x62f, 0x633, 0x640, 0x641, 0x648, 0x649,
    0x660, 0x66e, 0x671, 0x678, 0x688, 0x69a, 0x6c0, 0x6c1, 0x6c3, 0x6cc, 0x6cd, 0x6ce, 0x6cf,
    0x6d0, 0x6d2, 0x6fa, 0x6fd, 0x6ff, 0x700, 0x712, 0x715, 0x71a, 0x71e, 0x71f, 0x728, 0x729,
    0x72a, 0x72b, 0x72c, 0x72d, 0x72f, 0x74e, 0x759, 0x75c, 0x76b, 0x76d, 0x771, 0x772, 0x773,
    0x775, 0x778, 0x77a, 0x780, 0x7ca, 0x7f4, 0x841, 0x846, 0x848, 0x849, 0x84a, 0x854, 0x855,
    0x856, 0x860, 0x861, 0x862, 0x866, 0x868, 0x869, 0x886, 0x887, 0x889, 0x88e, 0x8a0, 0x8aa,
    0x8af, 0x8b1, 0x8b3, 0x8b9, 0x8ba, 0x8c9, 0x1807, 0x1808, 0x1820, 0x1880, 0x1887, 0x18b0,
    0xa840, 0xa873, 0x10ac0, 0x10ac5, 0x10acd, 0x10ace, 0x10ad3, 0x10add, 0x10ade, 0x10ae1,
    0x10aeb, 0x10aef, 0x10b80, 0x10b81, 0x10b82, 0x10b83, 0x10b86, 0x10b89, 0x10b8a, 0x10b8c,
    0x10b8d, 0x10b8e, 0x10b90, 0x10b91, 0x10bad, 0x10baf, 0x10d00, 0x10d22, 0x10d23, 0x10d30,
    0x10f30, 0x10f33, 0x10f34, 0x10f45, 0x10f51, 0x10f54, 0x10f70, 0x10f74, 0x10f76, 0x10f86,
    0x10fb0, 0x10fb1, 0x10fb2, 0x10fb4, 0x10fb8, 0x10fb9, 0x10fbb, 0x10fbd, 0x10fbe, 0x10fc0,
    0x10fc1, 0x10fc2, 0x10fc4, 0x10fc5, 0x10fca, 0x10fe0, 0x1e900, 0x1e94b]⟩

/-- Letters that join the one in front of them. -/
def backward : CharSet :=
  ⟨[0x620, 0x621, 0x622, 0x640, 0x641, 0x660, 0x66e, 0x674, 0x675, 0x6d4, 0x6d5, 0x6de, 0x6ee,
    0x6f0, 0x6fa, 0x6fd, 0x6ff, 0x700, 0x710, 0x780, 0x7ca, 0x7f4, 0x840, 0x85e, 0x860, 0x861,
    0x862, 0x866, 0x867, 0x883, 0x886, 0x887, 0x889, 0x88f, 0x8a0, 0x8ad, 0x8ae, 0x8c9, 0x1807,
    0x1808, 0x1820, 0x1880, 0x1887, 0x18b0, 0xa840, 0xa872, 0x10ac0, 0x10ac6, 0x10ac7, 0x10ac8,
    0x10ac9, 0x10acb, 0x10ace, 0x10ad7, 0x10ad8, 0x10ae2, 0x10ae4, 0x10af0, 0x10b80, 0x10b99,
    0x10ba9, 0x10baf, 0x10d01, 0x10d30, 0x10f30, 0x10f45, 0x10f51, 0x10f55, 0x10f70, 0x10f86,
    0x10fb0, 0x10fb1, 0x10fb2, 0x10fb7, 0x10fb8, 0x10fc0, 0x10fc1, 0x10fc5, 0x10fc9, 0x10fcb,
    0x1e900, 0x1e94b]⟩

/-- Signs that take the vowel from the letter in front of them. -/
def viramas : CharSet :=
  ⟨[0x94d, 0x94e, 0x9cd, 0x9ce, 0xa4d, 0xa51, 0xacd, 0xad0, 0xb4d, 0xb55, 0xbcd, 0xbd0, 0xc4d,
    0xc55, 0xccd, 0xcd5, 0xd3b, 0xd3d, 0xd4d, 0xd4e, 0xdca, 0xdcf, 0xe3a, 0xe3f, 0xeba, 0xebb,
    0xf84, 0xf85, 0x1039, 0x103b, 0x1714, 0x171f, 0x1734, 0x1735, 0x17d2, 0x17d3, 0x1a60, 0x1a61,
    0x1b44, 0x1b45, 0x1baa, 0x1bac, 0x1bf2, 0x1bfc, 0x2d7f, 0x2d80, 0xa806, 0xa807, 0xa82c,
    0xa830, 0xa8c4, 0xa8c5, 0xa953, 0xa95f, 0xa9c0, 0xa9c1, 0xaaf6, 0xab01, 0xabed, 0xabf0,
    0x10a3f, 0x10a40, 0x11046, 0x11047, 0x11070, 0x11071, 0x1107f, 0x11080, 0x110b9, 0x110ba,
    0x11133, 0x11136, 0x111c0, 0x111c1, 0x11235, 0x11236, 0x112ea, 0x112f0, 0x1134d, 0x11350,
    0x11442, 0x11443, 0x114c2, 0x114c3, 0x115bf, 0x115c0, 0x1163f, 0x11640, 0x116b6, 0x116b7,
    0x1172b, 0x11730, 0x11839, 0x1183a, 0x1193d, 0x1193f, 0x119e0, 0x119e1, 0x11a34, 0x11a35,
    0x11a47, 0x11a50, 0x11a99, 0x11a9a, 0x11c3f, 0x11c40, 0x11d44, 0x11d46, 0x11d97, 0x11d98,
    0x11f41, 0x11f43]⟩

def joiner : Char := '\u200d'

def nonJoiner : Char := '\u200c'

/-- The characters in front of a mark, from it backwards, and those behind it allow the mark: it
stands behind a virama, or keeps two letters apart that would be joined. -/
def isAllowed (mark : Char) (before after : List Char) : Bool :=
  before.head?.any viramas.contains
    || (mark == nonJoiner
      && (before.dropWhile extending.contains).head?.any forward.contains
      && (after.dropWhile extending.contains).head?.any backward.contains)

/-- All marks stand where they are allowed. -/
def areAllowed (text : List Char) : Bool := go [] text
where
  go (before : List Char) : List Char → Bool
    | [] => true
    | c :: rest =>
      (!(c == joiner || c == nonJoiner) || isAllowed c before rest) && go (c :: before) rest

end MeteredBilling.Text.Joining
