import MeteredBilling.Text.CharSet
import MeteredBilling.Text.Extending

/-!
# Marks

Characters that mark the one in front of them: those that extend it, and those that take space of
their own. Characters that stand in no label may be counted either way.
-/

namespace MeteredBilling.Text

def spacingMarks : CharSet :=
  ⟨[0x903, 0x904, 0x93b, 0x93d, 0x93e, 0x950, 0x982, 0x985, 0x9bf, 0x9ce, 0xa03, 0xa05, 0xa3e,
    0xa59, 0xa83, 0xa85, 0xabe, 0xad0, 0xb02, 0xb05, 0xb40, 0xb5c, 0xbbf, 0xbd0, 0xc01, 0xc05,
    0xc41, 0xc58, 0xc82, 0xc84, 0xcbe, 0xcdc, 0xcf3, 0xd04, 0xd3f, 0xd4e, 0xd82, 0xd85, 0xdd0,
    0xde6, 0xdf2, 0xdf4, 0xf3e, 0xf40, 0xf7f, 0xf85, 0x102b, 0x103f, 0x1056, 0x105a, 0x1062,
    0x1065, 0x1067, 0x106e, 0x1083, 0x108e, 0x108f, 0x1090, 0x109a, 0x109e, 0x1715, 0x171f,
    0x1734, 0x1735, 0x17b6, 0x17d4, 0x1923, 0x1940, 0x1a19, 0x1a1e, 0x1a55, 0x1a80, 0x1b04,
    0x1b05, 0x1b3b, 0x1b45, 0x1b82, 0x1b83, 0x1ba1, 0x1bae, 0x1be7, 0x1bfc, 0x1c24, 0x1c3b,
    0x1ce1, 0x1ce9, 0x1cf7, 0x1cfa, 0xa823, 0xa828, 0xa880, 0xa882, 0xa8b4, 0xa8ce, 0xa952,
    0xa95f, 0xa983, 0xa984, 0xa9b4, 0xa9c1, 0xaa2f, 0xaa40, 0xaa4d, 0xaa50, 0xaa7b, 0xaa7e,
    0xaaeb, 0xaaf0, 0xaaf5, 0xab01, 0xabe3, 0xabeb, 0xabec, 0xabf0, 0x11000, 0x11003, 0x11082,
    0x11083, 0x110b0, 0x110bb, 0x1112c, 0x11136, 0x11145, 0x11147, 0x11182, 0x11183, 0x111b3,
    0x111c1, 0x111ce, 0x111d0, 0x1122c, 0x11238, 0x112e0, 0x112f0, 0x11302, 0x11305, 0x1133f,
    0x11350, 0x11362, 0x11380, 0x11435, 0x11447, 0x114b1, 0x114c4, 0x115b0, 0x115c1, 0x11630,
    0x11641, 0x116ac, 0x116b8, 0x11720, 0x11730, 0x1182c, 0x1183b, 0x11931, 0x1193f, 0x11940,
    0x11941, 0x11942, 0x11944, 0x119d1, 0x119e1, 0x119e4, 0x11a00, 0x11a39, 0x11a3a, 0x11a57,
    0x11a5c, 0x11a97, 0x11a9a, 0x11c2f, 0x11c40, 0x11ca9, 0x11d00, 0x11d8a, 0x11d98, 0x11ef5,
    0x11ef7, 0x11f03, 0x11f04, 0x11f34, 0x11f43, 0x16f51, 0x16f93, 0x16ff0, 0x16ff2, 0x1d166,
    0x1d16a, 0x1d16d, 0x1d183]⟩

def isMark (c : Char) : Bool := extending.contains c || spacingMarks.contains c

end MeteredBilling.Text
