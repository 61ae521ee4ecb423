import MeteredBilling.Text.CharSet

/-!
# Characters of host names

Which characters may stand in the name of a host, and which of them stand for others there. Those
that stand for others beyond the first 128 are kept, since they are of the same kind.
-/

namespace MeteredBilling.Web.HostChar

open Text

/-- The characters from 128 on that may not stand in a name, by themselves or by what they stand
for. -/
def excluded : CharSet :=
  ⟨[0x80, 0xa1, 0xa8, 0xa9, 0xaf, 0xb0, 0xb4, 0xb5, 0xb8, 0xb9, 0x2d8, 0x2de, 0x378, 0x37b, 0x380,
    0x386, 0x38b, 0x38c, 0x38d, 0x38e, 0x3a2, 0x3a3, 0x530, 0x531, 0x557, 0x559, 0x58b, 0x58d,
    0x590, 0x591, 0x5c8, 0x5d0, 0x5eb, 0x5ef, 0x5f5, 0x606, 0x61c, 0x61d, 0x6dd, 0x6de, 0x70e,
    0x710, 0x74b, 0x74d, 0x7b2, 0x7c0, 0x7fb, 0x7fd, 0x82e, 0x830, 0x83f, 0x840, 0x85c, 0x85e,
    0x85f, 0x860, 0x86b, 0x870, 0x890, 0x897, 0x8e2, 0x8e3, 0x984, 0x985, 0x98d, 0x98f, 0x991,
    0x993, 0x9a9, 0x9aa, 0x9b1, 0x9b2, 0x9b3, 0x9b6, 0x9ba, 0x9bc, 0x9c5, 0x9c7, 0x9c9, 0x9cb,
    0x9cf, 0x9d7, 0x9d8, 0x9dc, 0x9de, 0x9df, 0x9e4, 0x9e6, 0x9ff, 0xa01, 0xa04, 0xa05, 0xa0b,
    0xa0f, 0xa11, 0xa13, 0xa29, 0xa2a, 0xa31, 0xa32, 0xa34, 0xa35, 0xa37, 0xa38, 0xa3a, 0xa3c,
    0xa3d, 0xa3e, 0xa43, 0xa47, 0xa49, 0xa4b, 0xa4e, 0xa51, 0xa52, 0xa59, 0xa5d, 0xa5e, 0xa5f,
    0xa66, 0xa77, 0xa81, 0xa84, 0xa85, 0xa8e, 0xa8f, 0xa92, 0xa93, 0xaa9, 0xaaa, 0xab1, 0xab2,
    0xab4, 0xab5, 0xaba, 0xabc, 0xac6, 0xac7, 0xaca, 0xacb, 0xace, 0xad0, 0xad1, 0xae0, 0xae4,
    0xae6, 0xaf2, 0xaf9, 0xb00, 0xb01, 0xb04, 0xb05, 0xb0d, 0xb0f, 0xb11, 0xb13, 0xb29, 0xb2a,
    0xb31, 0xb32, 0xb34, 0xb35, 0xb3a, 0xb3c, 0xb45, 0xb47, 0xb49, 0xb4b, 0xb4e, 0xb55, 0xb58,
    0xb5c, 0xb5e, 0xb5f, 0xb64, 0xb66, 0xb78, 0xb82, 0xb84, 0xb85, 0xb8b, 0xb8e, 0xb91, 0xb92,
    0xb96, 0xb99, 0xb9b, 0xb9c, 0xb9d, 0xb9e, 0xba0, 0xba3, 0xba5, 0xba8, 0xbab, 0xbae, 0xbba,
    0xbbe, 0xbc3, 0xbc6, 0xbc9, 0xbca, 0xbce, 0xbd0, 0xbd1, 0xbd7, 0xbd8, 0xbe6, 0xbfb, 0xc00,
    0xc0d, 0xc0e, 0xc11, 0xc12, 0xc29, 0xc2a, 0xc3a, 0xc3c, 0xc45, 0xc46, 0xc49, 0xc4a, 0xc4e,
    0xc55, 0xc57, 0xc58, 0xc5b, 0xc5c, 0xc5e, 0xc60, 0xc64, 0xc66, 0xc70, 0xc77, 0xc8d, 0xc8e,
    0xc91, 0xc92, 0xca9, 0xcaa, 0xcb4, 0xcb5, 0xcba, 0xcbc, 0xcc5, 0xcc6, 0xcc9, 0xcca, 0xcce,
    0xcd5, 0xcd7, 0xcdc, 0xcdf, 0xce0, 0xce4, 0xce6, 0xcf0, 0xcf1, 0xcf4, 0xd00, 0xd0d, 0xd0e,
    0xd11, 0xd12, 0xd45, 0xd46, 0xd49, 0xd4a, 0xd50, 0xd54, 0xd64, 0xd66, 0xd80, 0xd81, 0xd84,
    0xd85, 0xd97, 0xd9a, 0xdb2, 0xdb3, 0xdbc, 0xdbd, 0xdbe, 0xdc0, 0xdc7, 0xdca, 0xdcb, 0xdcf,
    0xdd5, 0xdd6, 0xdd7, 0xdd8, 0xde0, 0xde6, 0xdf0, 0xdf2, 0xdf5, 0xe01, 0xe3b, 0xe3f, 0xe5c,
    0xe81, 0xe83, 0xe84, 0xe85, 0xe86, 0xe8b, 0xe8c, 0xea4, 0xea5, 0xea6, 0xea7, 0xebe, 0xec0,
    0xec5, 0xec6, 0xec7, 0xec8, 0xecf, 0xed0, 0xeda, 0xedc, 0xee0, 0xf00, 0xf48, 0xf49, 0xf6d,
    0xf71, 0xf98, 0xf99, 0xfbd, 0xfbe, 0xfcd, 0xfce, 0xfdb, 0x1000, 0x10c6, 0x10c7, 0x10c8,
    0x10cd, 0x10ce, 0x10d0, 0x1249, 0x124a, 0x124e, 0x1250, 0x1257, 0x1258, 0x1259, 0x125a,
    0x125e, 0x1260, 0x1289, 0x128a, 0x128e, 0x1290, 0x12b1, 0x12b2, 0x12b6, 0x12b8, 0x12bf,
    0x12c0, 0x12c1, 0x12c2, 0x12c6, 0x12c8, 0x12d7, 0x12d8, 0x1311, 0x1312, 0x1316, 0x1318,
    0x135b, 0x135d, 0x137d, 0x1380, 0x139a, 0x13a0, 0x13f6, 0x13f8, 0x13fe, 0x1400, 0x1680,
    0x1681, 0x169d, 0x16a0, 0x16f9, 0x1700, 0x1716, 0x171f, 0x1737, 0x1740, 0x1754, 0x1760,
    0x176d, 0x176e, 0x1771, 0x1772, 0x1774, 0x1780, 0x17de, 0x17e0, 0x17ea, 0x17f0, 0x17fa,
    0x1800, 0x181a, 0x1820, 0x1879, 0x1880, 0x18ab, 0x18b0, 0x18f6, 0x1900, 0x191f, 0x1920,
    0x192c, 0x1930, 0x193c, 0x1940, 0x1941, 0x1944, 0x196e, 0x1970, 0x1975, 0x1980, 0x19ac,
    0x19b0, 0x19ca, 0x19d0, 0x19db, 0x19de, 0x1a1c, 0x1a1e, 0x1a5f, 0x1a60, 0x1a7d, 0x1a7f,
    0x1a8a, 0x1a90, 0x1a9a, 0x1aa0, 0x1aae, 0x1ab0, 0x1ade, 0x1ae0, 0x1aec, 0x1b00, 0x1b4d,
    0x1b4e, 0x1bf4, 0x1bfc, 0x1c38, 0x1c3b, 0x1c4a, 0x1c4d, 0x1c8b, 0x1c90, 0x1cbb, 0x1cbd,
    0x1cc8, 0x1cd0, 0x1cfb, 0x1d00, 0x1f16, 0x1f18, 0x1f1e, 0x1f20, 0x1f46, 0x1f48, 0x1f4e,
    0x1f50, 0x1f58, 0x1f59, 0x1f5a, 0x1f5b, 0x1f5c, 0x1f5d, 0x1f5e, 0x1f5f, 0x1f7e, 0x1f80,
    0x1fb5, 0x1fb6, 0x1fbd, 0x1fbe, 0x1fbf, 0x1fc2, 0x1fc5, 0x1fc6, 0x1fcd, 0x1fd0, 0x1fd4,
    0x1fd6, 0x1fdc, 0x1fe0, 0x1fed, 0x1fef, 0x1ff0, 0x1ff2, 0x1ff5, 0x1ff6, 0x1ffd, 0x200b,
    0x200e, 0x2010, 0x2017, 0x2018, 0x2024, 0x2027, 0x2028, 0x2030, 0x203e, 0x203f, 0x2047,
    0x204a, 0x205f, 0x2060, 0x2065, 0x206a, 0x2072, 0x2074, 0x208f, 0x2090, 0x209d, 0x20a0,
    0x20c2, 0x20d0, 0x20f1, 0x2102, 0x2105, 0x2107, 0x218c, 0x2190, 0x242a, 0x2440, 0x244b,
    0x2460, 0x2488, 0x249c, 0x2a74, 0x2a75, 0x2b74, 0x2b76, 0x2cf4, 0x2cf9, 0x2d26, 0x2d27,
    0x2d28, 0x2d2d, 0x2d2e, 0x2d30, 0x2d68, 0x2d6f, 0x2d71, 0x2d7f, 0x2d97, 0x2da0, 0x2da7,
    0x2da8, 0x2daf, 0x2db0, 0x2db7, 0x2db8, 0x2dbf, 0x2dc0, 0x2dc7, 0x2dc8, 0x2dcf, 0x2dd0,
    0x2dd7, 0x2dd8, 0x2ddf, 0x2de0, 0x2e5e, 0x2e80, 0x2e9a, 0x2e9b, 0x2ef4, 0x2f00, 0x2fd6,
    0x3001, 0x3040, 0x3041, 0x3097, 0x3099, 0x309b, 0x309d, 0x3100, 0x3105, 0x3130, 0x3131,
    0x318f, 0x3190, 0x31e6, 0x31f0, 0x321f, 0x3220, 0x33c2, 0x33c3, 0x33c7, 0x33c8, 0x33d8,
    0x33d9, 0xa48d, 0xa490, 0xa4c7, 0xa4d0, 0xa62c, 0xa640, 0xa6f8, 0xa700, 0xa7dd, 0xa7f1,
    0xa82d, 0xa830, 0xa83a, 0xa840, 0xa878, 0xa880, 0xa8c6, 0xa8ce, 0xa8da, 0xa8e0, 0xa954,
    0xa95f, 0xa97d, 0xa980, 0xa9ce, 0xa9cf, 0xa9da, 0xa9de, 0xa9ff, 0xaa00, 0xaa37, 0xaa40,
    0xaa4e, 0xaa50, 0xaa5a, 0xaa5c, 0xaac3, 0xaadb, 0xaaf7, 0xab01, 0xab07, 0xab09, 0xab0f,
    0xab11, 0xab17, 0xab20, 0xab27, 0xab28, 0xab2f, 0xab30, 0xab6c, 0xab70, 0xabee, 0xabf0,
    0xabfa, 0xac00, 0xd7a4, 0xd7b0, 0xd7c7, 0xd7cb, 0xd7fc, 0xf900, 0xfa6e, 0xfa70, 0xfada,
    0xfb00, 0xfb07, 0xfb13, 0xfb18, 0xfb1d, 0xfb37, 0xfb38, 0xfb3d, 0xfb3e, 0xfb3f, 0xfb40,
    0xfb42, 0xfb43, 0xfb45, 0xfb46, 0xfc5e, 0xfc64, 0xfdd0, 0xfdf0, 0xfdfa, 0xfdfc, 0xfe12,
    0xfe14, 0xfe16, 0xfe17, 0xfe19, 0xfe20, 0xfe30, 0xfe31, 0xfe47, 0xfe4d, 0xfe52, 0xfe54,
    0xfe55, 0xfe57, 0xfe5f, 0xfe60, 0xfe64, 0xfe66, 0xfe67, 0xfe69, 0xfe6a, 0xfe71, 0xfe72,
    0xfe73, 0xfe74, 0xfe77, 0xfe78, 0xfe79, 0xfe7a, 0xfe7b, 0xfe7c, 0xfe7d, 0xfe7e, 0xfe7f,
    0xfefd, 0xfeff, 0xff00, 0xff01, 0xff03, 0xff04, 0xff05, 0xff06, 0xff0f, 0xff10, 0xff1a,
    0xff1b, 0xff1c, 0xff1d, 0xff1e, 0xff21, 0xff3b, 0xff3f, 0xff5c, 0xff5d, 0xffbf, 0xffc2,
    0xffc8, 0xffca, 0xffd0, 0xffd2, 0xffd8, 0xffda, 0xffdd, 0xffe0, 0xffe3, 0xffe4, 0xffe7,
    0xffe8, 0xffef, 0x10000, 0x1000c, 0x1000d, 0x10027, 0x10028, 0x1003b, 0x1003c, 0x1003e,
    0x1003f, 0x1004e, 0x10050, 0x1005e, 0x10080, 0x100fb, 0x10100, 0x10103, 0x10107, 0x10134,
    0x10137, 0x1018f, 0x10190, 0x1019d, 0x101a0, 0x101a1, 0x101d0, 0x101fe, 0x10280, 0x1029d,
    0x102a0, 0x102d1, 0x102e0, 0x102fc, 0x10300, 0x10324, 0x1032d, 0x1034b, 0x10350, 0x1037b,
    0x10380, 0x1039e, 0x1039f, 0x103c4, 0x103c8, 0x103d6, 0x10400, 0x1049e, 0x104a0, 0x104aa,
    0x104b0, 0x104d4, 0x104d8, 0x104fc, 0x10500, 0x10528, 0x10530, 0x10564, 0x1056f, 0x1057b,
    0x1057c, 0x1058b, 0x1058c, 0x10593, 0x10594, 0x10596, 0x10597, 0x105a2, 0x105a3, 0x105b2,
    0x105b3, 0x105ba, 0x105bb, 0x105bd, 0x105c0, 0x105f4, 0x10600, 0x10737, 0x10740, 0x10756,
    0x10760, 0x10768, 0x10780, 0x10786, 0x10787, 0x107b1, 0x107b2, 0x107bb, 0x10800, 0x10806,
    0x10808, 0x10809, 0x1080a, 0x10836, 0x10837, 0x10839, 0x1083c, 0x1083d, 0x1083f, 0x10856,
    0x10857, 0x1089f, 0x108a7, 0x108b0, 0x108e0, 0x108f3, 0x108f4, 0x108f6, 0x108fb, 0x1091c,
    0x1091f, 0x1093a, 0x1093f, 0x1095a, 0x10980, 0x109b8, 0x109bc, 0x109d0, 0x109d2, 0x10a04,
    0x10a05, 0x10a07, 0x10a0c, 0x10a14, 0x10a15, 0x10a18, 0x10a19, 0x10a36, 0x10a38, 0x10a3b,
    0x10a3f, 0x10a49, 0x10a50, 0x10a59, 0x10a60, 0x10aa0, 0x10ac0, 0x10ae7, 0x10aeb, 0x10af7,
    0x10b00, 0x10b36, 0x10b39, 0x10b56, 0x10b58, 0x10b73, 0x10b78, 0x10b92, 0x10b99, 0x10b9d,
    0x10ba9, 0x10bb0, 0x10c00, 0x10c49, 0x10c80, 0x10cb3, 0x10cc0, 0x10cf3, 0x10cfa, 0x10d28,
    0x10d30, 0x10d3a, 0x10d40, 0x10d66, 0x10d69, 0x10d86, 0x10d8e, 0x10d90, 0x10e60, 0x10e7f,
    0x10e80, 0x10eaa, 0x10eab, 0x10eae, 0x10eb0, 0x10eb2, 0x10ec2, 0x10ec8, 0x10ed0, 0x10ed9,
    0x10efa, 0x10f28, 0x10f30, 0x10f5a, 0x10f70, 0x10f8a, 0x10fb0, 0x10fcc, 0x10fe0, 0x10ff7,
    0x11000, 0x1104e, 0x11052, 0x11076, 0x1107f, 0x110bd, 0x110be, 0x110c3, 0x110d0, 0x110e9,
    0x110f0, 0x110fa, 0x11100, 0x11135, 0x11136, 0x11148, 0x11150, 0x11177, 0x11180, 0x111e0,
    0x111e1, 0x111f5, 0x11200, 0x11212, 0x11213, 0x11242, 0x11280, 0x11287, 0x11288, 0x11289,
    0x1128a, 0x1128e, 0x1128f, 0x1129e, 0x1129f, 0x112aa, 0x112b0, 0x112eb, 0x112f0, 0x112fa,
    0x11300, 0x11304, 0x11305, 0x1130d, 0x1130f, 0x11311, 0x11313, 0x11329, 0x1132a, 0x11331,
    0x11332, 0x11334, 0x11335, 0x1133a, 0x1133b, 0x11345, 0x11347, 0x11349, 0x1134b, 0x1134e,
    0x11350, 0x11351, 0x11357, 0x11358, 0x1135d, 0x11364, 0x11366, 0x1136d, 0x11370, 0x11375,
    0x11380, 0x1138a, 0x1138b, 0x1138c, 0x1138e, 0x1138f, 0x11390, 0x113b6, 0x113b7, 0x113c1,
    0x113c2, 0x113c3, 0x113c5, 0x113c6, 0x113c7, 0x113cb, 0x113cc, 0x113d6, 0x113d7, 0x113d9,
    0x113e1, 0x113e3, 0x11400, 0x1145c, 0x1145d, 0x11462, 0x11480, 0x114c8, 0x114d0, 0x114da,
    0x11580, 0x115b6, 0x115b8, 0x115de, 0x11600, 0x11645, 0x11650, 0x1165a, 0x11660, 0x1166d,
    0x11680, 0x116ba, 0x116c0, 0x116ca, 0x116d0, 0x116e4, 0x11700, 0x1171b, 0x1171d, 0x1172c,
    0x11730, 0x11747, 0x11800, 0x1183c, 0x118a0, 0x118f3, 0x118ff, 0x11907, 0x11909, 0x1190a,
    0x1190c, 0x11914, 0x11915, 0x11917, 0x11918, 0x11936, 0x11937, 0x11939, 0x1193b, 0x11947,
    0x11950, 0x1195a, 0x119a0, 0x119a8, 0x119aa, 0x119d8, 0x119da, 0x119e5, 0x11a00, 0x11a48,
    0x11a50, 0x11aa3, 0x11ab0, 0x11af9, 0x11b00, 0x11b0a, 0x11b60, 0x11b68, 0x11bc0, 0x11be2,
    0x11bf0, 0x11bfa, 0x11c00, 0x11c09, 0x11c0a, 0x11c37, 0x11c38, 0x11c46, 0x11c50, 0x11c6d,
    0x11c70, 0x11c90, 0x11c92, 0x11ca8, 0x11ca9, 0x11cb7, 0x11d00, 0x11d07, 0x11d08, 0x11d0a,
    0x11d0b, 0x11d37, 0x11d3a, 0x11d3b, 0x11d3c, 0x11d3e, 0x11d3f, 0x11d48, 0x11d50, 0x11d5a,
    0x11d60, 0x11d66, 0x11d67, 0x11d69, 0x11d6a, 0x11d8f, 0x11d90, 0x11d92, 0x11d93, 0x11d99,
    0x11da0, 0x11daa, 0x11db0, 0x11ddc, 0x11de0, 0x11dea, 0x11ee0, 0x11ef9, 0x11f00, 0x11f11,
    0x11f12, 0x11f3b, 0x11f3e, 0x11f5b, 0x11fb0, 0x11fb1, 0x11fc0, 0x11ff2, 0x11fff, 0x1239a,
    0x12400, 0x1246f, 0x12470, 0x12475, 0x12480, 0x12544, 0x12f90, 0x12ff3, 0x13000, 0x13430,
    0x13440, 0x13456, 0x13460, 0x143fb, 0x14400, 0x14647, 0x16100, 0x1613a, 0x16800, 0x16a39,
    0x16a40, 0x16a5f, 0x16a60, 0x16a6a, 0x16a6e, 0x16abf, 0x16ac0, 0x16aca, 0x16ad0, 0x16aee,
    0x16af0, 0x16af6, 0x16b00, 0x16b46, 0x16b50, 0x16b5a, 0x16b5b, 0x16b62, 0x16b63, 0x16b78,
    0x16b7d, 0x16b90, 0x16d40, 0x16d7a, 0x16e40, 0x16e9b, 0x16ea0, 0x16eb9, 0x16ebb, 0x16ed4,
    0x16f00, 0x16f4b, 0x16f4f, 0x16f88, 0x16f8f, 0x16fa0, 0x16fe0, 0x16fe5, 0x16ff0, 0x16ff7,
    0x17000, 0x18cd6, 0x18cff, 0x18d1f, 0x18d80, 0x18df3, 0x1aff0, 0x1aff4, 0x1aff5, 0x1affc,
    0x1affd, 0x1afff, 0x1b000, 0x1b123, 0x1b132, 0x1b133, 0x1b150, 0x1b153, 0x1b155, 0x1b156,
    0x1b164, 0x1b168, 0x1b170, 0x1b2fc, 0x1bc00, 0x1bc6b, 0x1bc70, 0x1bc7d, 0x1bc80, 0x1bc89,
    0x1bc90, 0x1bc9a, 0x1bc9c, 0x1bca4, 0x1cc00, 0x1ccfd, 0x1cd00, 0x1ceb4, 0x1ceba, 0x1ced1,
    0x1cee0, 0x1cef1, 0x1cf00, 0x1cf2e, 0x1cf30, 0x1cf47, 0x1cf50, 0x1cfc4, 0x1d000, 0x1d0f6,
    0x1d100, 0x1d127, 0x1d129, 0x1d1eb, 0x1d200, 0x1d246, 0x1d2c0, 0x1d2d4, 0x1d2e0, 0x1d2f4,
    0x1d300, 0x1d357, 0x1d360, 0x1d379, 0x1d400, 0x1d455, 0x1d456, 0x1d49d, 0x1d49e, 0x1d4a0,
    0x1d4a2, 0x1d4a3, 0x1d4a5, 0x1d4a7, 0x1d4a9, 0x1d4ad, 0x1d4ae, 0x1d4ba, 0x1d4bb, 0x1d4bc,
    0x1d4bd, 0x1d4c4, 0x1d4c5, 0x1d506, 0x1d507, 0x1d50b, 0x1d50d, 0x1d515, 0x1d516, 0x1d51d,
    0x1d51e, 0x1d53a, 0x1d53b, 0x1d53f, 0x1d540, 0x1d545, 0x1d546, 0x1d547, 0x1d54a, 0x1d551,
    0x1d552, 0x1d6a6, 0x1d6a8, 0x1d7cc, 0x1d7ce, 0x1da8c, 0x1da9b, 0x1daa0, 0x1daa1, 0x1dab0,
    0x1df00, 0x1df1f, 0x1df25, 0x1df2b, 0x1e000, 0x1e007, 0x1e008, 0x1e019, 0x1e01b, 0x1e022,
    0x1e023, 0x1e025, 0x1e026, 0x1e02b, 0x1e030, 0x1e06e, 0x1e08f, 0x1e090, 0x1e100, 0x1e12d,
    0x1e130, 0x1e13e, 0x1e140, 0x1e14a, 0x1e14e, 0x1e150, 0x1e290, 0x1e2af, 0x1e2c0, 0x1e2fa,
    0x1e2ff, 0x1e300, 0x1e4d0, 0x1e4fa, 0x1e5d0, 0x1e5fb, 0x1e5ff, 0x1e600, 0x1e6c0, 0x1e6df,
    0x1e6e0, 0x1e6f6, 0x1e6fe, 0x1e700, 0x1e7e0, 0x1e7e7, 0x1e7e8, 0x1e7ec, 0x1e7ed, 0x1e7ef,
    0x1e7f0, 0x1e7ff, 0x1e800, 0x1e8c5, 0x1e8c7, 0x1e8d7, 0x1e900, 0x1e94c, 0x1e950, 0x1e95a,
    0x1e95e, 0x1e960, 0x1ec71, 0x1ecb5, 0x1ed01, 0x1ed3e, 0x1ee00, 0x1ee04, 0x1ee05, 0x1ee20,
    0x1ee21, 0x1ee23, 0x1ee24, 0x1ee25, 0x1ee27, 0x1ee28, 0x1ee29, 0x1ee33, 0x1ee34, 0x1ee38,
    0x1ee39, 0x1ee3a, 0x1ee3b, 0x1ee3c, 0x1ee42, 0x1ee43, 0x1ee47, 0x1ee48, 0x1ee49, 0x1ee4a,
    0x1ee4b, 0x1ee4c, 0x1ee4d, 0x1ee50, 0x1ee51, 0x1ee53, 0x1ee54, 0x1ee55, 0x1ee57, 0x1ee58,
    0x1ee59, 0x1ee5a, 0x1ee5b, 0x1ee5c, 0x1ee5d, 0x1ee5e, 0x1ee5f, 0x1ee60, 0x1ee61, 0x1ee63,
    0x1ee64, 0x1ee65, 0x1ee67, 0x1ee6b, 0x1ee6c, 0x1ee73, 0x1ee74, 0x1ee78, 0x1ee79, 0x1ee7d,
    0x1ee7e, 0x1ee7f, 0x1ee80, 0x1ee8a, 0x1ee8b, 0x1ee9c, 0x1eea1, 0x1eea4, 0x1eea5, 0x1eeaa,
    0x1eeab, 0x1eebc, 0x1eef0, 0x1eef2, 0x1f000, 0x1f02c, 0x1f030, 0x1f094, 0x1f0a0, 0x1f0af,
    0x1f0b1, 0x1f0c0, 0x1f0c1, 0x1f0d0, 0x1f0d1, 0x1f0f6, 0x1f101, 0x1f1ae, 0x1f1e6, 0x1f203,
    0x1f210, 0x1f23c, 0x1f240, 0x1f249, 0x1f250, 0x1f252, 0x1f260, 0x1f266, 0x1f300, 0x1f6d9,
    0x1f6dc, 0x1f6ed, 0x1f6f0, 0x1f6fd, 0x1f700, 0x1f7da, 0x1f7e0, 0x1f7ec, 0x1f7f0, 0x1f7f1,
    0x1f800, 0x1f80c, 0x1f810, 0x1f848, 0x1f850, 0x1f85a, 0x1f860, 0x1f888, 0x1f890, 0x1f8ae,
    0x1f8b0, 0x1f8bc, 0x1f8c0, 0x1f8c2, 0x1f8d0, 0x1f8d9, 0x1f900, 0x1fa58, 0x1fa60, 0x1fa6e,
    0x1fa70, 0x1fa7d, 0x1fa80, 0x1fa8b, 0x1fa8e, 0x1fac7, 0x1fac8, 0x1fac9, 0x1facd, 0x1fadd,
    0x1fadf, 0x1faeb, 0x1faef, 0x1faf9, 0x1fb00, 0x1fb93, 0x1fb94, 0x1fbfb, 0x20000, 0x2a6e0,
    0x2a700, 0x2b81e, 0x2b820, 0x2ceae, 0x2ceb0, 0x2ebe1, 0x2ebf0, 0x2ee5e, 0x2f800, 0x2fa1e,
    0x30000, 0x3134b, 0x31350, 0x3347a, 0xe0100, 0xe01f0]⟩

/-- The characters that are no part of a name. -/
def ignored : CharSet :=
  ⟨[0xad, 0xae, 0x34f, 0x350, 0x115f, 0x1161, 0x17b4, 0x17b6, 0x180b, 0x1810, 0x200b, 0x200c,
    0x2060, 0x2065, 0x206a, 0x2070, 0x3164, 0x3165, 0xfe00, 0xfe10, 0xfeff, 0xff00, 0xffa0,
    0xffa1, 0x1bca0, 0x1bca4, 0x1d173, 0x1d17b, 0xe0100, 0xe01f0]⟩

/-- The characters that stand for others beyond the first 128, in runs: the first one, their number,
and the step from each to the next. -/
def folded : List (Nat × Nat × Nat) :=
  [(0xb5, 1, 1), (0xbc, 18, 2), (0xbd, 2, 1), (0xc1, 22, 1), (0xd9, 6, 1), (0x100, 25, 2),
    (0x134, 2, 2), (0x139, 9, 2), (0x140, 2, 1), (0x14a, 24, 2), (0x179, 3, 2), (0x181, 2, 1),
    (0x184, 2, 2), (0x187, 3, 2), (0x18a, 2, 1), (0x18e, 4, 1), (0x193, 2, 1), (0x196, 3, 1),
    (0x19c, 2, 1), (0x19f, 2, 1), (0x1a2, 3, 2), (0x1a7, 2, 2), (0x1ac, 2, 2), (0x1af, 5, 2),
    (0x1b2, 2, 1), (0x1b8, 1, 1), (0x1bc, 1, 1), (0x1c4, 3, 1), (0x1cd, 8, 2), (0x1de, 9, 2),
    (0x1f4, 32, 2), (0x1f7, 2, 1), (0x23a, 2, 1), (0x23d, 2, 1), (0x241, 3, 2), (0x244, 6, 2),
    (0x2b1, 1, 1), (0x2b4, 3, 1), (0x2e0, 1, 1), (0x2e4, 1, 1), (0x340, 2, 1), (0x343, 3, 1),
    (0x370, 4, 2), (0x37f, 1, 1), (0x386, 10, 1), (0x391, 27, 1), (0x3cf, 8, 1), (0x3d8, 15, 2),
    (0x3f1, 2, 1), (0x3f5, 3, 2), (0x3fa, 1, 1), (0x3fd, 51, 1), (0x460, 17, 2), (0x48a, 28, 2),
    (0x4c1, 7, 2), (0x4d0, 48, 2), (0x531, 38, 1), (0x587, 1, 1), (0x675, 4, 1), (0x958, 8, 1),
    (0x9dc, 4, 1), (0xa33, 1, 1), (0xa36, 1, 1), (0xa59, 3, 1), (0xa5e, 1, 1), (0xb5c, 2, 1),
    (0xe33, 1, 1), (0xeb3, 1, 1), (0xedc, 2, 1), (0xf0c, 1, 1), (0xf43, 1, 1), (0xf4d, 1, 1),
    (0xf52, 1, 1), (0xf57, 1, 1), (0xf5c, 1, 1), (0xf69, 1, 1), (0xf73, 4, 2), (0xf76, 4, 1),
    (0xf81, 1, 1), (0xf93, 1, 1), (0xf9d, 1, 1), (0xfa2, 1, 1), (0xfa7, 1, 1), (0xfac, 1, 1),
    (0xfb9, 1, 1), (0x10a0, 40, 1), (0x10cd, 1, 1), (0x10fc, 1, 1), (0x13f8, 6, 1),
    (0x1c80, 10, 1), (0x1c90, 48, 1), (0x1d2d, 1, 1), (0x1d32, 1, 1), (0x1d3d, 1, 1),
    (0x1d44, 3, 1), (0x1d4a, 3, 1), (0x1d51, 3, 2), (0x1d54, 2, 1), (0x1d59, 2, 1), (0x1d5c, 6, 1),
    (0x1d66, 5, 1), (0x1d78, 1, 1), (0x1d9b, 16, 2), (0x1d9e, 2, 1), (0x1da2, 25, 1),
    (0x1dbc, 4, 1), (0x1e00, 75, 2), (0x1e9a, 2, 1), (0x1e9e, 49, 2), (0x1f08, 8, 1),
    (0x1f18, 6, 1), (0x1f28, 8, 1), (0x1f38, 8, 1), (0x1f48, 6, 1), (0x1f59, 7, 1), (0x1f68, 8, 1),
    (0x1f71, 7, 2), (0x1f80, 48, 1), (0x1fb2, 3, 1), (0x1fb7, 14, 1), (0x1fc7, 6, 1),
    (0x1fd3, 1, 1), (0x1fd8, 4, 1), (0x1fe3, 1, 1), (0x1fe8, 5, 1), (0x1ff2, 3, 1), (0x1ff7, 6, 1),
    (0x2011, 1, 1), (0x2033, 2, 1), (0x2036, 2, 1), (0x2057, 1, 1), (0x207b, 1, 1), (0x208b, 1, 1),
    (0x2094, 1, 1), (0x2103, 1, 1), (0x2107, 2, 2), (0x210f, 1, 1), (0x2126, 1, 1), (0x212b, 1, 1),
    (0x2132, 1, 1), (0x2135, 4, 1), (0x213c, 5, 1), (0x2150, 16, 1), (0x2183, 1, 1),
    (0x2189, 1, 1), (0x222c, 2, 1), (0x222f, 2, 1), (0x2329, 2, 1), (0x2a0c, 1, 1), (0x2adc, 1, 1),
    (0x2c00, 48, 1), (0x2c60, 3, 2), (0x2c63, 2, 1), (0x2c67, 5, 2), (0x2c6e, 3, 1),
    (0x2c72, 1, 1), (0x2c75, 1, 1), (0x2c7e, 51, 2), (0x2c7f, 2, 1), (0x2ceb, 2, 2),
    (0x2cf2, 1, 1), (0x2d6f, 1, 1), (0x2e9f, 1, 1), (0x2ef3, 1, 1), (0x2f00, 214, 1),
    (0x3036, 3, 2), (0x3039, 2, 1), (0x309f, 1, 1), (0x30ff, 1, 1), (0x3131, 51, 1),
    (0x3165, 42, 1), (0x3192, 14, 1), (0x3200, 72, 1), (0x3260, 41, 2), (0x3261, 30, 1),
    (0x3281, 48, 1), (0x32c0, 12, 1), (0x32d0, 161, 1), (0x337b, 5, 1), (0x3382, 1, 1),
    (0x338c, 2, 1), (0x3395, 1, 1), (0x339b, 1, 1), (0x33a7, 2, 1), (0x33ae, 2, 1), (0x33b2, 1, 1),
    (0x33b6, 1, 1), (0x33bc, 1, 1), (0x33c0, 2, 1), (0x33c6, 1, 1), (0x33de, 33, 1),
    (0xa640, 23, 2), (0xa680, 15, 2), (0xa69d, 1, 1), (0xa722, 7, 2), (0xa732, 32, 2),
    (0xa779, 3, 2), (0xa77e, 5, 2), (0xa78b, 2, 2), (0xa790, 2, 2), (0xa796, 25, 2),
    (0xa7ab, 4, 1), (0xa7b1, 4, 1), (0xa7c5, 4, 2), (0xa7cc, 9, 2), (0xa7f5, 1, 1), (0xa7f8, 2, 1),
    (0xab5c, 4, 1), (0xab69, 1, 1), (0xab70, 80, 1), (0xf900, 270, 1), (0xfa10, 2, 2),
    (0xfa15, 10, 1), (0xfa20, 2, 2), (0xfa25, 2, 1), (0xfa2a, 176, 1), (0xfb13, 5, 1),
    (0xfb1d, 6, 2), (0xfb20, 17, 2), (0xfb2b, 135, 1), (0xfbd3, 139, 1), (0xfc64, 218, 1),
    (0xfd50, 64, 1), (0xfd92, 54, 1), (0xfdf0, 13, 1), (0xfe11, 1, 1), (0xfe17, 2, 1),
    (0xfe31, 2, 1), (0xfe39, 12, 1), (0xfe51, 1, 1), (0xfe58, 1, 1), (0xfe5d, 2, 1),
    (0xfe71, 1, 1), (0xfe77, 134, 1), (0xff5f, 2, 1), (0xff62, 62, 1), (0xffa1, 78, 1),
    (0x10400, 40, 1), (0x104b0, 36, 1), (0x10570, 38, 1), (0x10781, 36, 1), (0x107a6, 21, 1),
    (0x10c80, 51, 1), (0x10d50, 22, 1), (0x118a0, 32, 1), (0x16e40, 32, 1), (0x16ea0, 25, 1),
    (0x1d15e, 7, 1), (0x1d1bb, 6, 1), (0x1d6a4, 296, 1), (0x1e030, 62, 1), (0x1e900, 34, 1),
    (0x1ee00, 60, 1), (0x1ee42, 1, 1), (0x1ee47, 85, 1), (0x1eea1, 27, 1), (0x1f12a, 1, 1),
    (0x1f200, 3, 1), (0x1f210, 44, 1), (0x1f240, 9, 1), (0x1f250, 2, 1), (0x2f800, 542, 1)]

/-- The plain forms of consecutive characters from the first one on. -/
def plainForms : List (Nat × String) :=
  [(0xaa, "a"), (0xb2, "2 3"), (0xb9, "1 o"), (0x132, "ij ij"), (0x17f, "s"),
    (0x1c7, "lj lj lj nj nj nj"), (0x1f1, "dz dz dz"), (0x2b0, "h"), (0x2b2, "j r"),
    (0x2b7, "w y"), (0x2e1, "l s x"), (0x37e, ";"), (0x1d2c, "a"), (0x1d2e, "b"), (0x1d30, "d e"),
    (0x1d33, "g h i j k l m n"), (0x1d3c, "o"), (0x1d3e, "p r t u w a"), (0x1d47, "b d e"),
    (0x1d4d, "g"), (0x1d4f, "k m"), (0x1d52, "o"), (0x1d56, "p t u"), (0x1d5b, "v"),
    (0x1d62, "i r u v"), (0x1d9c, "c"), (0x1da0, "f"), (0x1dbb, "z"), (0x1fef, "\x60"),
    (0x203c, "!!"), (0x2070, "0 i"), (0x2074, "4 5 6 7 8 9 +"),
    (0x207c, "= ( ) n 0 1 2 3 4 5 6 7 8 9 +"), (0x208c, "= ( )"), (0x2090, "a e o x"),
    (0x2095, "h k l m n p s t"), (0x20a8, "rs"), (0x2102, "c"), (0x210a, "g h h h h"),
    (0x2110, "i i l l"), (0x2115, "n no"), (0x2119, "p q r r r"), (0x2120, "sm tel tm"),
    (0x2124, "z"), (0x2128, "z"), (0x212a, "k"), (0x212c, "b c"), (0x212f, "e e f"),
    (0x2133, "m o"), (0x2139, "i"), (0x213b, "fax"), (0x2145, "d d e i j"),
    (0x2160, "i ii iii iv v vi vii viii ix x xi xii l c d m i ii iii iv v vi vii viii ix x"),
    (0x217a, "xi xii l c d m"),
    (0x2460, "1 2 3 4 5 6 7 8 9 10 11 12 13 14 15 16 17 18 19 20 (1) (2) (3) (4) (5) (6)"),
    (0x247a, "(7) (8) (9) (10) (11) (12) (13) (14) (15) (16) (17) (18) (19) (20)"),
    (0x249c, "(a) (b) (c) (d) (e) (f) (g) (h) (i) (j) (k) (l) (m) (n) (o) (p) (q) (r) (s)"),
    (0x24af, "(t) (u) (v) (w) (x) (y) (z) a b c d e f g h i j k l m n o p q r s t u v w x y"),
    (0x24cf, "z a b c d e f g h i j k l m n o p q r s t u v w x y z 0"), (0x2a75, "== ==="),
    (0x2c7c, "j v"), (0x3002, "."), (0x3250, "pte 21 22 23 24 25 26 27 28 29 30 31 32 33 34 35"),
    (0x32b1, "36 37 38 39 40 41 42 43 44 45 46 47 48 49 50"), (0x32cc, "hg erg ev ltd"),
    (0x3371, "hpa da au bar ov pc dm dm2 dm3 iu"), (0x3380, "pa na"),
    (0x3383, "ma ka kb mb gb cal kcal pf nf"), (0x338e, "mg kg hz khz mhz ghz thz"),
    (0x3396, "ml dl kl fm nm"), (0x339c, "mm cm km mm2 cm2 m2 km2 mm3 cm3 m3 km3"),
    (0x33a9, "pa kpa mpa gpa rad"), (0x33b0, "ps ns"), (0x33b3, "ms pv nv"),
    (0x33b7, "mv kv mv pw nw"), (0x33bd, "mw kw mw"), (0x33c3, "bq cc cd"),
    (0x33c8, "db gy ha hp in kk km kt lm ln log lx mb mil mol ph"), (0x33d9, "ppm pr sr sv wb"),
    (0x33ff, "gal"), (0xa7f1, "s c f q"), (0xfb00, "ff fi fl ffi ffl st st"), (0xfb29, "+"),
    (0xfe10, ","), (0xfe14, "; !"), (0xfe33, "_ _ ( ) \x7b \x7d"), (0xfe4d, "_ _ _ ,"),
    (0xfe54, ";"), (0xfe57, "!"), (0xfe59, "( ) \x7b \x7d"), (0xfe60, "& * + -"), (0xfe66, "="),
    (0xfe69, "$"), (0xff01, "! \""), (0xff04, "$"), (0xff06, "& ' ( ) * + , - ."),
    (0xff10, "0 1 2 3 4 5 6 7 8 9"), (0xff1b, ";"), (0xff1d, "="),
    (0xff21, "a b c d e f g h i j k l m n o p q r s t u v w x y z"),
    (0xff3f, "_ \x60 a b c d e f g h i j k l m n o p q r s t u v w x y z \x7b"),
    (0xff5d, "\x7d ~"), (0xff61, "."), (0x107a5, "q"),
    (0x1ccd6, "a b c d e f g h i j k l m n o p q r s t u v w x y z 0 1 2 3 4 5 6 7 8 9"),
    (0x1d400, "a b c d e f g h i j k l m n o p q r s t u v w x y z a b c d e f g h i j k l m"),
    (0x1d427, "n o p q r s t u v w x y z a b c d e f g h i j k l m n o p q r s t u v w x y z"),
    (0x1d44e, "a b c d e f g"),
    (0x1d456, "i j k l m n o p q r s t u v w x y z a b c d e f g h i j k l m n o p q r s t u"),
    (0x1d47d, "v w x y z a b c d e f g h i j k l m n o p q r s t u v w x y z a"), (0x1d49e, "c d"),
    (0x1d4a2, "g"), (0x1d4a5, "j k"), (0x1d4a9, "n o p q"), (0x1d4ae, "s t u v w x y z a b c d"),
    (0x1d4bb, "f"), (0x1d4bd, "h i j k l m n"),
    (0x1d4c5, "p q r s t u v w x y z a b c d e f g h i j k l m n o p q r s t u v w x y z a b"),
    (0x1d4ec, "c d e f g h i j k l m n o p q r s t u v w x y z a b"), (0x1d507, "d e f g"),
    (0x1d50d, "j k l m n o p q"), (0x1d516, "s t u v w x y"),
    (0x1d51e, "a b c d e f g h i j k l m n o p q r s t u v w x y z a b"), (0x1d53b, "d e f g"),
    (0x1d540, "i j k l m"), (0x1d546, "o"), (0x1d54a, "s t u v w x y"),
    (0x1d552, "a b c d e f g h i j k l m n o p q r s t u v w x y z a b c d e f g h i j k l m"),
    (0x1d579, "n o p q r s t u v w x y z a b c d e f g h i j k l m n o p q r s t u v w x y z"),
    (0x1d5a0, "a b c d e f g h i j k l m n o p q r s t u v w x y z a b c d e f g h i j k l m"),
    (0x1d5c7, "n o p q r s t u v w x y z a b c d e f g h i j k l m n o p q r s t u v w x y z"),
    (0x1d5ee, "a b c d e f g h i j k l m n o p q r s t u v w x y z a b c d e f g h i j k l m"),
    (0x1d615, "n o p q r s t u v w x y z a b c d e f g h i j k l m n o p q r s t u v w x y z"),
    (0x1d63c, "a b c d e f g h i j k l m n o p q r s t u v w x y z a b c d e f g h i j k l m"),
    (0x1d663, "n o p q r s t u v w x y z a b c d e f g h i j k l m n o p q r s t u v w x y z"),
    (0x1d68a, "a b c d e f g h i j k l m n o p q r s t u v w x y z"),
    (0x1d7ce, "0 1 2 3 4 5 6 7 8 9 0 1 2 3 4 5 6 7 8 9 0 1 2 3 4 5 6 7 8 9 0 1 2 3 4 5 6 7 8"),
    (0x1d7f5, "9 0 1 2 3 4 5 6 7 8 9"), (0x1f101, "0, 1, 2, 3, 4, 5, 6, 7, 8, 9,"),
    (0x1f110, "(a) (b) (c) (d) (e) (f) (g) (h) (i) (j) (k) (l) (m) (n) (o) (p) (q) (r) (s)"),
    (0x1f123, "(t) (u) (v) (w) (x) (y) (z)"), (0x1f12b, "c r cd wz"),
    (0x1f130, "a b c d e f g h i j k l m n o p q r s t u v w x y z hv mv sd ss ppv wc"),
    (0x1f16a, "mc md mr"), (0x1f190, "dj"), (0x1fbf0, "0 1 2 3 4 5 6 7 8 9")]

/-- The delimiters of locators and the controls. -/
def isDelimiter (c : Char) : Bool :=
  c.toNat ≤ 0x20 || c.toNat == 0x7f || "#/:<>?@[\\]^|%".toList.contains c

/-- What a character from 128 on stands for. -/
def plain (c : Char) : List Char :=
  let form? : Nat × String → Option (List Char) := fun (first, forms) =>
    if c.toNat < first || first + forms.length < c.toNat then none
    else ((forms.splitOn " ")[c.toNat - first]?).map String.toList
  (plainForms.findSome? form?).getD [c]

/-- What a character is in a name; nothing if it may not stand there. -/
def spelled? (c : Char) : Option (List Char) :=
  if c.toNat < 0x80 then if isDelimiter c then none else some [c.toLower]
  else if excluded.contains c then none
  else some (if ignored.contains c then [] else plain c)

/-- A character that stands for itself alone. -/
def isOwn (c : Char) : Bool :=
  spelled? c == some [c] && !folded.any fun (first, count, step) =>
    first ≤ c.toNat && c.toNat < first + count * step && (c.toNat - first) % step == 0

end MeteredBilling.Web.HostChar
