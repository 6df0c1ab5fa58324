/-!
# Mapped characters — how domain names are spelt alike

A domain name is read with capitals as small letters, and with characters that are shown like others as
those others: wide and narrow forms, letters in circles, ligatures, ideographs with two code points. Some
characters count for nothing. The tables list code points in ascending order.
-/

namespace AccessGate.Url.Domain

/-- Ranges of code points that are mapped by a distance: the first, the last, the step from one to the
    next, and the distance to the character that each is mapped to. -/
def shifts : List (Nat × Nat × Nat × Int) :=
  [(0x41, 0x5A, 1, 32), (0xC0, 0xD6, 1, 32), (0xD8, 0xDE, 1, 32), (0x100, 0x12E, 2, 1),
   (0x139, 0x13D, 2, 1), (0x141, 0x147, 2, 1), (0x14A, 0x176, 2, 1), (0x179, 0x17D, 2, 1),
   (0x1A0, 0x1A4, 2, 1), (0x1CD, 0x1DB, 2, 1), (0x1DE, 0x1EE, 2, 1), (0x1F8, 0x21E, 2, 1),
   (0x222, 0x232, 2, 1), (0x246, 0x24E, 2, 1), (0x388, 0x38A, 1, 37), (0x391, 0x3A1, 1, 32),
   (0x3A3, 0x3AB, 1, 32), (0x3D8, 0x3EE, 2, 1), (0x3FD, 0x3FF, 1, -130), (0x400, 0x40F, 1, 80),
   (0x410, 0x42F, 1, 32), (0x460, 0x480, 2, 1), (0x48A, 0x4BE, 2, 1), (0x4C1, 0x4CD, 2, 1),
   (0x4D0, 0x52E, 2, 1), (0x531, 0x556, 1, 48), (0x10A0, 0x10C5, 1, 7264), (0x13F8, 0x13FD, 1, -8),
   (0x1C90, 0x1CBA, 1, -3008), (0x1CBD, 0x1CBF, 1, -3008), (0x1D31, 0x1D39, 2, -7372),
   (0x1D34, 0x1D3A, 2, -7372), (0x1D5D, 0x1D5F, 1, -6571), (0x1DA4, 0x1DA6, 1, -6972),
   (0x1DAE, 0x1DB1, 1, -6972), (0x1DBC, 0x1DBE, 1, -6956), (0x1E00, 0x1E94, 2, 1),
   (0x1EA0, 0x1EFE, 2, 1), (0x1F08, 0x1F0F, 1, -8), (0x1F18, 0x1F1D, 1, -8),
   (0x1F28, 0x1F2F, 1, -8), (0x1F38, 0x1F3F, 1, -8), (0x1F48, 0x1F4D, 1, -8),
   (0x1F59, 0x1F5F, 2, -8), (0x1F68, 0x1F6F, 1, -8), (0x2074, 0x2079, 1, -8256),
   (0x2080, 0x2089, 1, -8272), (0x2096, 0x2099, 1, -8235), (0x2119, 0x211B, 1, -8361),
   (0x2135, 0x2138, 1, -7013), (0x2460, 0x2468, 1, -9263), (0x24B6, 0x24CF, 1, -9301),
   (0x24D0, 0x24E9, 1, -9327), (0x2C00, 0x2C2F, 1, 48), (0x2C67, 0x2C6B, 2, 1),
   (0x2C80, 0x2CE2, 2, 1), (0x3137, 0x3139, 1, -8244), (0x313A, 0x313F, 1, -8074),
   (0x3141, 0x3143, 1, -8251), (0x3145, 0x314E, 1, -8252), (0x314F, 0x3163, 1, -8174),
   (0x3178, 0x317C, 1, -8269), (0x3184, 0x3186, 1, -8237), (0x3263, 0x3265, 1, -8542),
   (0x3269, 0x326D, 1, -8539), (0x32E4, 0x32E9, 1, -538), (0x32EE, 0x32F2, 1, -528),
   (0x32F5, 0x32FA, 1, -525), (0x32FB, 0x32FE, 1, -524), (0xA640, 0xA66C, 2, 1),
   (0xA680, 0xA69A, 2, 1), (0xA722, 0xA72E, 2, 1), (0xA732, 0xA76E, 2, 1), (0xA77E, 0xA786, 2, 1),
   (0xA796, 0xA7A8, 2, 1), (0xA7B4, 0xA7C2, 2, 1), (0xA7CC, 0xA7DA, 2, 1),
   (0xAB70, 0xABBF, 1, -38864), (0xFB24, 0xFB26, 1, -62793), (0xFE41, 0xFE44, 1, -52789),
   (0xFF01, 0xFF20, 1, -65248), (0xFF21, 0xFF3A, 1, -65216), (0xFF3B, 0xFF5E, 1, -65248),
   (0xFF85, 0xFF8A, 1, -52923), (0xFF8F, 0xFF93, 1, -52913), (0xFF96, 0xFF9B, 1, -52910),
   (0xFFA7, 0xFFA9, 1, -61092), (0xFFAA, 0xFFAF, 1, -60922), (0xFFB1, 0xFFB3, 1, -61099),
   (0xFFB5, 0xFFBE, 1, -61100), (0xFFC2, 0xFFC7, 1, -61025), (0xFFCA, 0xFFCF, 1, -61027),
   (0xFFD2, 0xFFD7, 1, -61029), (0xFFDA, 0xFFDC, 1, -61031), (0xFFE9, 0xFFEC, 1, -56921),
   (0x10400, 0x10427, 1, 40), (0x104B0, 0x104D3, 1, 40), (0x10570, 0x10594, 2, 39),
   (0x10571, 0x10579, 2, 39), (0x1057D, 0x10589, 2, 39), (0x1058D, 0x10591, 2, 39),
   (0x107B6, 0x107B8, 1, -67062), (0x10C80, 0x10CB2, 1, 64), (0x10D50, 0x10D65, 1, 32),
   (0x118A0, 0x118BF, 1, 32), (0x16E40, 0x16E5F, 1, 32), (0x16EA0, 0x16EB8, 1, 27),
   (0x1CCD6, 0x1CCEF, 1, -117877), (0x1CCF0, 0x1CCF9, 1, -117952), (0x1D400, 0x1D419, 1, -119711),
   (0x1D41A, 0x1D433, 1, -119737), (0x1D434, 0x1D44D, 1, -119763), (0x1D44E, 0x1D466, 2, -119789),
   (0x1D44F, 0x1D453, 2, -119789), (0x1D457, 0x1D467, 2, -119789), (0x1D468, 0x1D481, 1, -119815),
   (0x1D482, 0x1D49B, 1, -119841), (0x1D4A9, 0x1D4AC, 1, -119867), (0x1D4AE, 0x1D4B5, 1, -119867),
   (0x1D4B6, 0x1D4B9, 1, -119893), (0x1D4BB, 0x1D4CF, 2, -119893), (0x1D4BE, 0x1D4C2, 2, -119893),
   (0x1D4C6, 0x1D4CE, 2, -119893), (0x1D4D0, 0x1D4E9, 1, -119919), (0x1D4EA, 0x1D503, 1, -119945),
   (0x1D505, 0x1D509, 2, -119971), (0x1D50D, 0x1D514, 1, -119971), (0x1D516, 0x1D51C, 1, -119971),
   (0x1D51E, 0x1D537, 1, -119997), (0x1D539, 0x1D53D, 2, -120023), (0x1D53C, 0x1D546, 2, -120023),
   (0x1D54A, 0x1D550, 1, -120023), (0x1D552, 0x1D56B, 1, -120049), (0x1D56C, 0x1D585, 1, -120075),
   (0x1D586, 0x1D59F, 1, -120101), (0x1D5A0, 0x1D5B9, 1, -120127), (0x1D5BA, 0x1D5D3, 1, -120153),
   (0x1D5D4, 0x1D5ED, 1, -120179), (0x1D5EE, 0x1D607, 1, -120205), (0x1D608, 0x1D621, 1, -120231),
   (0x1D622, 0x1D63B, 1, -120257), (0x1D63C, 0x1D655, 1, -120283), (0x1D656, 0x1D66F, 1, -120309),
   (0x1D670, 0x1D689, 1, -120335), (0x1D68A, 0x1D6A3, 1, -120361), (0x1D6A8, 0x1D6B8, 1, -119543),
   (0x1D6BA, 0x1D6C0, 1, -119543), (0x1D6C2, 0x1D6D2, 1, -119569), (0x1D6D4, 0x1D6DA, 1, -119569),
   (0x1D6E2, 0x1D6F2, 1, -119601), (0x1D6F4, 0x1D6FA, 1, -119601), (0x1D6FC, 0x1D70C, 1, -119627),
   (0x1D70E, 0x1D714, 1, -119627), (0x1D71C, 0x1D72C, 1, -119659), (0x1D72E, 0x1D734, 1, -119659),
   (0x1D736, 0x1D746, 1, -119685), (0x1D748, 0x1D74E, 1, -119685), (0x1D756, 0x1D766, 1, -119717),
   (0x1D768, 0x1D76E, 1, -119717), (0x1D770, 0x1D780, 1, -119743), (0x1D782, 0x1D788, 1, -119743),
   (0x1D790, 0x1D7A0, 1, -119775), (0x1D7A2, 0x1D7A8, 1, -119775), (0x1D7AA, 0x1D7BA, 1, -119801),
   (0x1D7BC, 0x1D7C2, 1, -119801), (0x1D7CE, 0x1D7D7, 1, -120734), (0x1D7D8, 0x1D7E1, 1, -120744),
   (0x1D7E2, 0x1D7EB, 1, -120754), (0x1D7EC, 0x1D7F5, 1, -120764), (0x1D7F6, 0x1D7FF, 1, -120774),
   (0x1E030, 0x1E038, 1, -121856), (0x1E039, 0x1E03B, 1, -121855), (0x1E03C, 0x1E046, 1, -121854),
   (0x1E051, 0x1E059, 1, -121889), (0x1E05F, 0x1E064, 1, -121884), (0x1E900, 0x1E921, 1, 34),
   (0x1EE0A, 0x1EE0D, 1, -124871), (0x1EE2A, 0x1EE2D, 1, -124903), (0x1EE8B, 0x1EE8D, 1, -124999),
   (0x1EEAB, 0x1EEAD, 1, -125031), (0x1F130, 0x1F149, 1, -127183), (0x1FBF0, 0x1FBF9, 1, -129984)]

/-- Ranges of code points that count for nothing. -/
def ignored : List (Nat × Nat) :=
  [(0xAD, 0xAD), (0x34F, 0x34F), (0x115F, 0x1160), (0x17B4, 0x17B5), (0x180B, 0x180F),
   (0x200B, 0x200B), (0x2060, 0x2064), (0x206A, 0x206F), (0x3164, 0x3164), (0xFE00, 0xFE0F),
   (0xFEFF, 0xFEFF), (0xFFA0, 0xFFA0), (0x1BCA0, 0x1BCA3), (0x1D173, 0x1D17A), (0xE0100, 0xE01EF)]

/-- Letters, signs and marks of the first plane, and what they are read as. -/
def letterSpellings : List (Nat × String) :=
  [(0xA0, " "), (0xA8, " \u0308"), (0xAA, "a"), (0xAF, " \u0304"), (0xB2, "2"), (0xB3, "3"),
   (0xB4, " \u0301"), (0xB5, "\u03bc"), (0xB8, " \u0327"), (0xB9, "1"), (0xBA, "o"),
   (0xBC, "1\u20444"), (0xBD, "1\u20442"), (0xBE, "3\u20444"), (0x130, "i\u0307"), (0x132, "ij"),
   (0x133, "ij"), (0x134, "\u0135"), (0x136, "\u0137"), (0x13F, "l\u00b7"), (0x140, "l\u00b7"),
   (0x149, "\u02bcn"), (0x178, "\u00ff"), (0x17F, "s"), (0x181, "\u0253"), (0x182, "\u0183"),
   (0x184, "\u0185"), (0x186, "\u0254"), (0x187, "\u0188"), (0x189, "\u0256"), (0x18A, "\u0257"),
   (0x18B, "\u018c"), (0x18E, "\u01dd"), (0x18F, "\u0259"), (0x190, "\u025b"), (0x191, "\u0192"),
   (0x193, "\u0260"), (0x194, "\u0263"), (0x196, "\u0269"), (0x197, "\u0268"), (0x198, "\u0199"),
   (0x19C, "\u026f"), (0x19D, "\u0272"), (0x19F, "\u0275"), (0x1A6, "\u0280"), (0x1A7, "\u01a8"),
   (0x1A9, "\u0283"), (0x1AC, "\u01ad"), (0x1AE, "\u0288"), (0x1AF, "\u01b0"), (0x1B1, "\u028a"),
   (0x1B2, "\u028b"), (0x1B3, "\u01b4"), (0x1B5, "\u01b6"), (0x1B7, "\u0292"), (0x1B8, "\u01b9"),
   (0x1BC, "\u01bd"), (0x1C4, "d\u017e"), (0x1C5, "d\u017e"), (0x1C6, "d\u017e"), (0x1C7, "lj"),
   (0x1C8, "lj"), (0x1C9, "lj"), (0x1CA, "nj"), (0x1CB, "nj"), (0x1CC, "nj"), (0x1F1, "dz"),
   (0x1F2, "dz"), (0x1F3, "dz"), (0x1F4, "\u01f5"), (0x1F6, "\u0195"), (0x1F7, "\u01bf"),
   (0x220, "\u019e"), (0x23A, "\u2c65"), (0x23B, "\u023c"), (0x23D, "\u019a"), (0x23E, "\u2c66"),
   (0x241, "\u0242"), (0x243, "\u0180"), (0x244, "\u0289"), (0x245, "\u028c"), (0x2B0, "h"),
   (0x2B1, "\u0266"), (0x2B2, "j"), (0x2B3, "r"), (0x2B4, "\u0279"), (0x2B5, "\u027b"),
   (0x2B6, "\u0281"), (0x2B7, "w"), (0x2B8, "y"), (0x2D8, " \u0306"), (0x2D9, " \u0307"),
   (0x2DA, " \u030a"), (0x2DB, " \u0328"), (0x2DC, " \u0303"), (0x2DD, " \u030b"),
   (0x2E0, "\u0263"), (0x2E1, "l"), (0x2E2, "s"), (0x2E3, "x"), (0x2E4, "\u0295"),
   (0x340, "\u0300"), (0x341, "\u0301"), (0x343, "\u0313"), (0x344, "\u0308\u0301"),
   (0x345, "\u03b9"), (0x370, "\u0371"), (0x372, "\u0373"), (0x374, "\u02b9"), (0x376, "\u0377"),
   (0x37A, " \u03b9"), (0x37E, ";"), (0x37F, "\u03f3"), (0x384, " \u0301"),
   (0x385, " \u0308\u0301"), (0x386, "\u03ac"), (0x387, "\u00b7"), (0x38C, "\u03cc"),
   (0x38E, "\u03cd"), (0x38F, "\u03ce"), (0x3CF, "\u03d7"), (0x3D0, "\u03b2"), (0x3D1, "\u03b8"),
   (0x3D2, "\u03c5"), (0x3D3, "\u03cd"), (0x3D4, "\u03cb"), (0x3D5, "\u03c6"), (0x3D6, "\u03c0"),
   (0x3F0, "\u03ba"), (0x3F1, "\u03c1"), (0x3F2, "\u03c3"), (0x3F4, "\u03b8"), (0x3F5, "\u03b5"),
   (0x3F7, "\u03f8"), (0x3F9, "\u03c3"), (0x3FA, "\u03fb"), (0x4C0, "\u04cf"),
   (0x587, "\u0565\u0582"), (0x675, "\u0627\u0674"), (0x676, "\u0648\u0674"),
   (0x677, "\u06c7\u0674"), (0x678, "\u064a\u0674"), (0x958, "\u0915\u093c"),
   (0x959, "\u0916\u093c"), (0x95A, "\u0917\u093c"), (0x95B, "\u091c\u093c"),
   (0x95C, "\u0921\u093c"), (0x95D, "\u0922\u093c"), (0x95E, "\u092b\u093c"),
   (0x95F, "\u092f\u093c"), (0x9DC, "\u09a1\u09bc"), (0x9DD, "\u09a2\u09bc"),
   (0x9DF, "\u09af\u09bc"), (0xA33, "\u0a32\u0a3c"), (0xA36, "\u0a38\u0a3c"),
   (0xA59, "\u0a16\u0a3c"), (0xA5A, "\u0a17\u0a3c"), (0xA5B, "\u0a1c\u0a3c"),
   (0xA5E, "\u0a2b\u0a3c"), (0xB5C, "\u0b21\u0b3c"), (0xB5D, "\u0b22\u0b3c"),
   (0xE33, "\u0e4d\u0e32"), (0xEB3, "\u0ecd\u0eb2"), (0xEDC, "\u0eab\u0e99"),
   (0xEDD, "\u0eab\u0ea1"), (0xF0C, "\u0f0b"), (0xF43, "\u0f42\u0fb7"), (0xF4D, "\u0f4c\u0fb7"),
   (0xF52, "\u0f51\u0fb7"), (0xF57, "\u0f56\u0fb7"), (0xF5C, "\u0f5b\u0fb7"),
   (0xF69, "\u0f40\u0fb5"), (0xF73, "\u0f71\u0f72"), (0xF75, "\u0f71\u0f74"),
   (0xF76, "\u0fb2\u0f80"), (0xF77, "\u0fb2\u0f71\u0f80"), (0xF78, "\u0fb3\u0f80"),
   (0xF79, "\u0fb3\u0f71\u0f80"), (0xF81, "\u0f71\u0f80"), (0xF93, "\u0f92\u0fb7"),
   (0xF9D, "\u0f9c\u0fb7"), (0xFA2, "\u0fa1\u0fb7"), (0xFA7, "\u0fa6\u0fb7"),
   (0xFAC, "\u0fab\u0fb7"), (0xFB9, "\u0f90\u0fb5"), (0x10C7, "\u2d27"), (0x10CD, "\u2d2d"),
   (0x10FC, "\u10dc"), (0x1C80, "\u0432"), (0x1C81, "\u0434"), (0x1C82, "\u043e"),
   (0x1C83, "\u0441"), (0x1C84, "\u0442"), (0x1C85, "\u0442"), (0x1C86, "\u044a"),
   (0x1C87, "\u0463"), (0x1C88, "\ua64b"), (0x1C89, "\u1c8a"), (0x1D2C, "a"), (0x1D2D, "\u00e6"),
   (0x1D2E, "b"), (0x1D30, "d"), (0x1D32, "\u01dd"), (0x1D3C, "o"), (0x1D3D, "\u0223"),
   (0x1D3E, "p"), (0x1D3F, "r"), (0x1D40, "t"), (0x1D41, "u"), (0x1D42, "w"), (0x1D43, "a"),
   (0x1D44, "\u0250"), (0x1D45, "\u0251"), (0x1D46, "\u1d02"), (0x1D47, "b"), (0x1D48, "d"),
   (0x1D49, "e"), (0x1D4A, "\u0259"), (0x1D4B, "\u025b"), (0x1D4C, "\u025c"), (0x1D4D, "g"),
   (0x1D4F, "k"), (0x1D50, "m"), (0x1D51, "\u014b"), (0x1D52, "o"), (0x1D53, "\u0254"),
   (0x1D54, "\u1d16"), (0x1D55, "\u1d17"), (0x1D56, "p"), (0x1D57, "t"), (0x1D58, "u"),
   (0x1D59, "\u1d1d"), (0x1D5A, "\u026f"), (0x1D5B, "v"), (0x1D5C, "\u1d25"), (0x1D60, "\u03c6"),
   (0x1D61, "\u03c7"), (0x1D62, "i"), (0x1D63, "r"), (0x1D64, "u"), (0x1D65, "v"),
   (0x1D66, "\u03b2"), (0x1D67, "\u03b3"), (0x1D68, "\u03c1"), (0x1D69, "\u03c6"),
   (0x1D6A, "\u03c7"), (0x1D78, "\u043d"), (0x1D9B, "\u0252"), (0x1D9C, "c"), (0x1D9D, "\u0255"),
   (0x1D9E, "\u00f0"), (0x1D9F, "\u025c"), (0x1DA0, "f"), (0x1DA1, "\u025f"), (0x1DA2, "\u0261"),
   (0x1DA3, "\u0265"), (0x1DA7, "\u1d7b"), (0x1DA8, "\u029d"), (0x1DA9, "\u026d"),
   (0x1DAA, "\u1d85"), (0x1DAB, "\u029f"), (0x1DAC, "\u0271"), (0x1DAD, "\u0270"),
   (0x1DB2, "\u0278"), (0x1DB3, "\u0282"), (0x1DB4, "\u0283"), (0x1DB5, "\u01ab"),
   (0x1DB6, "\u0289"), (0x1DB7, "\u028a"), (0x1DB8, "\u1d1c"), (0x1DB9, "\u028b"),
   (0x1DBA, "\u028c"), (0x1DBB, "z"), (0x1DBF, "\u03b8"), (0x1E9A, "a\u02be"), (0x1E9B, "\u1e61"),
   (0x1E9E, "\u00df"), (0x1F71, "\u03ac"), (0x1F73, "\u03ad"), (0x1F75, "\u03ae"),
   (0x1F77, "\u03af"), (0x1F79, "\u03cc"), (0x1F7B, "\u03cd"), (0x1F7D, "\u03ce"),
   (0x1F80, "\u1f00\u03b9"), (0x1F81, "\u1f01\u03b9"), (0x1F82, "\u1f02\u03b9"),
   (0x1F83, "\u1f03\u03b9"), (0x1F84, "\u1f04\u03b9"), (0x1F85, "\u1f05\u03b9"),
   (0x1F86, "\u1f06\u03b9"), (0x1F87, "\u1f07\u03b9"), (0x1F88, "\u1f00\u03b9"),
   (0x1F89, "\u1f01\u03b9"), (0x1F8A, "\u1f02\u03b9"), (0x1F8B, "\u1f03\u03b9"),
   (0x1F8C, "\u1f04\u03b9"), (0x1F8D, "\u1f05\u03b9"), (0x1F8E, "\u1f06\u03b9"),
   (0x1F8F, "\u1f07\u03b9"), (0x1F90, "\u1f20\u03b9"), (0x1F91, "\u1f21\u03b9"),
   (0x1F92, "\u1f22\u03b9"), (0x1F93, "\u1f23\u03b9"), (0x1F94, "\u1f24\u03b9"),
   (0x1F95, "\u1f25\u03b9"), (0x1F96, "\u1f26\u03b9"), (0x1F97, "\u1f27\u03b9"),
   (0x1F98, "\u1f20\u03b9"), (0x1F99, "\u1f21\u03b9"), (0x1F9A, "\u1f22\u03b9"),
   (0x1F9B, "\u1f23\u03b9"), (0x1F9C, "\u1f24\u03b9"), (0x1F9D, "\u1f25\u03b9"),
   (0x1F9E, "\u1f26\u03b9"), (0x1F9F, "\u1f27\u03b9"), (0x1FA0, "\u1f60\u03b9"),
   (0x1FA1, "\u1f61\u03b9"), (0x1FA2, "\u1f62\u03b9"), (0x1FA3, "\u1f63\u03b9"),
   (0x1FA4, "\u1f64\u03b9"), (0x1FA5, "\u1f65\u03b9"), (0x1FA6, "\u1f66\u03b9"),
   (0x1FA7, "\u1f67\u03b9"), (0x1FA8, "\u1f60\u03b9"), (0x1FA9, "\u1f61\u03b9"),
   (0x1FAA, "\u1f62\u03b9"), (0x1FAB, "\u1f63\u03b9"), (0x1FAC, "\u1f64\u03b9"),
   (0x1FAD, "\u1f65\u03b9"), (0x1FAE, "\u1f66\u03b9"), (0x1FAF, "\u1f67\u03b9"),
   (0x1FB2, "\u1f70\u03b9"), (0x1FB3, "\u03b1\u03b9"), (0x1FB4, "\u03ac\u03b9"),
   (0x1FB7, "\u1fb6\u03b9"), (0x1FB8, "\u1fb0"), (0x1FB9, "\u1fb1"), (0x1FBA, "\u1f70"),
   (0x1FBB, "\u03ac"), (0x1FBC, "\u03b1\u03b9"), (0x1FBD, " \u0313"), (0x1FBE, "\u03b9"),
   (0x1FBF, " \u0313"), (0x1FC0, " \u0342"), (0x1FC1, " \u0308\u0342"), (0x1FC2, "\u1f74\u03b9"),
   (0x1FC3, "\u03b7\u03b9"), (0x1FC4, "\u03ae\u03b9"), (0x1FC7, "\u1fc6\u03b9"),
   (0x1FC8, "\u1f72"), (0x1FC9, "\u03ad"), (0x1FCA, "\u1f74"), (0x1FCB, "\u03ae"),
   (0x1FCC, "\u03b7\u03b9"), (0x1FCD, " \u0313\u0300"), (0x1FCE, " \u0313\u0301"),
   (0x1FCF, " \u0313\u0342"), (0x1FD3, "\u0390"), (0x1FD8, "\u1fd0"), (0x1FD9, "\u1fd1"),
   (0x1FDA, "\u1f76"), (0x1FDB, "\u03af"), (0x1FDD, " \u0314\u0300"), (0x1FDE, " \u0314\u0301"),
   (0x1FDF, " \u0314\u0342"), (0x1FE3, "\u03b0"), (0x1FE8, "\u1fe0"), (0x1FE9, "\u1fe1"),
   (0x1FEA, "\u1f7a"), (0x1FEB, "\u03cd"), (0x1FEC, "\u1fe5"), (0x1FED, " \u0308\u0300"),
   (0x1FEE, " \u0308\u0301"), (0x1FEF, "\x60"), (0x1FF2, "\u1f7c\u03b9"), (0x1FF3, "\u03c9\u03b9"),
   (0x1FF4, "\u03ce\u03b9"), (0x1FF7, "\u1ff6\u03b9"), (0x1FF8, "\u1f78"), (0x1FF9, "\u03cc"),
   (0x1FFA, "\u1f7c"), (0x1FFB, "\u03ce"), (0x1FFC, "\u03c9\u03b9"), (0x1FFD, " \u0301"),
   (0x1FFE, " \u0314"), (0x2000, " "), (0x2001, " "), (0x2002, " "), (0x2003, " "), (0x2004, " "),
   (0x2005, " "), (0x2006, " "), (0x2007, " "), (0x2008, " "), (0x2009, " "), (0x200A, " "),
   (0x2011, "\u2010"), (0x2017, " \u0333"), (0x202F, " "), (0x2033, "\u2032\u2032"),
   (0x2034, "\u2032\u2032\u2032"), (0x2036, "\u2035\u2035"), (0x2037, "\u2035\u2035\u2035"),
   (0x203C, "!!"), (0x203E, " \u0305"), (0x2047, "??"), (0x2048, "?!"), (0x2049, "!?"),
   (0x2057, "\u2032\u2032\u2032\u2032"), (0x205F, " "), (0x2070, "0"), (0x2071, "i"),
   (0x207A, "+"), (0x207B, "\u2212"), (0x207C, "="), (0x207D, "("), (0x207E, ")"), (0x207F, "n"),
   (0x208A, "+"), (0x208B, "\u2212"), (0x208C, "="), (0x208D, "("), (0x208E, ")"), (0x2090, "a"),
   (0x2091, "e"), (0x2092, "o"), (0x2093, "x"), (0x2094, "\u0259"), (0x2095, "h"), (0x209A, "p"),
   (0x209B, "s"), (0x209C, "t"), (0x20A8, "rs"), (0x2100, "a/c"), (0x2101, "a/s"), (0x2102, "c"),
   (0x2103, "\u00b0c"), (0x2105, "c/o"), (0x2106, "c/u"), (0x2107, "\u025b"), (0x2109, "\u00b0f"),
   (0x210A, "g"), (0x210B, "h"), (0x210C, "h"), (0x210D, "h"), (0x210E, "h"), (0x210F, "\u0127"),
   (0x2110, "i"), (0x2111, "i"), (0x2112, "l"), (0x2113, "l"), (0x2115, "n"), (0x2116, "no"),
   (0x211C, "r"), (0x211D, "r"), (0x2120, "sm"), (0x2121, "tel"), (0x2122, "tm"), (0x2124, "z"),
   (0x2126, "\u03c9"), (0x2128, "z"), (0x212A, "k"), (0x212B, "\u00e5"), (0x212C, "b"),
   (0x212D, "c"), (0x212F, "e"), (0x2130, "e"), (0x2131, "f"), (0x2132, "\u214e"), (0x2133, "m"),
   (0x2134, "o"), (0x2139, "i"), (0x213B, "fax"), (0x213C, "\u03c0"), (0x213D, "\u03b3"),
   (0x213E, "\u03b3"), (0x213F, "\u03c0"), (0x2140, "\u2211"), (0x2145, "d"), (0x2146, "d"),
   (0x2147, "e"), (0x2148, "i"), (0x2149, "j"), (0x2150, "1\u20447"), (0x2151, "1\u20449"),
   (0x2152, "1\u204410"), (0x2153, "1\u20443"), (0x2154, "2\u20443"), (0x2155, "1\u20445"),
   (0x2156, "2\u20445"), (0x2157, "3\u20445"), (0x2158, "4\u20445"), (0x2159, "1\u20446"),
   (0x215A, "5\u20446"), (0x215B, "1\u20448"), (0x215C, "3\u20448"), (0x215D, "5\u20448"),
   (0x215E, "7\u20448"), (0x215F, "1\u2044"), (0x2160, "i"), (0x2161, "ii"), (0x2162, "iii"),
   (0x2163, "iv"), (0x2164, "v"), (0x2165, "vi"), (0x2166, "vii"), (0x2167, "viii"),
   (0x2168, "ix"), (0x2169, "x"), (0x216A, "xi"), (0x216B, "xii"), (0x216C, "l"), (0x216D, "c"),
   (0x216E, "d"), (0x216F, "m"), (0x2170, "i"), (0x2171, "ii"), (0x2172, "iii"), (0x2173, "iv"),
   (0x2174, "v"), (0x2175, "vi"), (0x2176, "vii"), (0x2177, "viii"), (0x2178, "ix"), (0x2179, "x"),
   (0x217A, "xi"), (0x217B, "xii"), (0x217C, "l"), (0x217D, "c"), (0x217E, "d"), (0x217F, "m"),
   (0x2183, "\u2184"), (0x2189, "0\u20443"), (0x222C, "\u222b\u222b"),
   (0x222D, "\u222b\u222b\u222b"), (0x222F, "\u222e\u222e"), (0x2230, "\u222e\u222e\u222e"),
   (0x2329, "\u3008"), (0x232A, "\u3009"), (0x2469, "10"), (0x246A, "11"), (0x246B, "12"),
   (0x246C, "13"), (0x246D, "14"), (0x246E, "15"), (0x246F, "16"), (0x2470, "17"), (0x2471, "18"),
   (0x2472, "19"), (0x2473, "20"), (0x2474, "(1)"), (0x2475, "(2)"), (0x2476, "(3)"),
   (0x2477, "(4)"), (0x2478, "(5)"), (0x2479, "(6)"), (0x247A, "(7)"), (0x247B, "(8)"),
   (0x247C, "(9)"), (0x247D, "(10)"), (0x247E, "(11)"), (0x247F, "(12)"), (0x2480, "(13)"),
   (0x2481, "(14)"), (0x2482, "(15)"), (0x2483, "(16)"), (0x2484, "(17)"), (0x2485, "(18)"),
   (0x2486, "(19)"), (0x2487, "(20)"), (0x249C, "(a)"), (0x249D, "(b)"), (0x249E, "(c)"),
   (0x249F, "(d)"), (0x24A0, "(e)"), (0x24A1, "(f)"), (0x24A2, "(g)"), (0x24A3, "(h)"),
   (0x24A4, "(i)"), (0x24A5, "(j)"), (0x24A6, "(k)"), (0x24A7, "(l)"), (0x24A8, "(m)"),
   (0x24A9, "(n)"), (0x24AA, "(o)"), (0x24AB, "(p)"), (0x24AC, "(q)"), (0x24AD, "(r)"),
   (0x24AE, "(s)"), (0x24AF, "(t)"), (0x24B0, "(u)"), (0x24B1, "(v)"), (0x24B2, "(w)"),
   (0x24B3, "(x)"), (0x24B4, "(y)"), (0x24B5, "(z)"), (0x24EA, "0"),
   (0x2A0C, "\u222b\u222b\u222b\u222b"), (0x2A74, "::="), (0x2A75, "=="), (0x2A76, "==="),
   (0x2ADC, "\u2add\u0338"), (0x2C60, "\u2c61"), (0x2C62, "\u026b"), (0x2C63, "\u1d7d"),
   (0x2C64, "\u027d"), (0x2C6D, "\u0251"), (0x2C6E, "\u0271"), (0x2C6F, "\u0250"),
   (0x2C70, "\u0252"), (0x2C72, "\u2c73"), (0x2C75, "\u2c76"), (0x2C7C, "j"), (0x2C7D, "v"),
   (0x2C7E, "\u023f"), (0x2C7F, "\u0240"), (0x2CEB, "\u2cec"), (0x2CED, "\u2cee"),
   (0x2CF2, "\u2cf3"), (0x2D6F, "\u2d61")]

/-- Ideographs, syllables and their enclosed and squared forms. -/
def ideographSpellings : List (Nat × String) :=
  [(0x2E9F, "\u6bcd"), (0x2EF3, "\u9f9f"), (0x2F00, "\u4e00"), (0x2F01, "\u4e28"),
   (0x2F02, "\u4e36"), (0x2F03, "\u4e3f"), (0x2F04, "\u4e59"), (0x2F05, "\u4e85"),
   (0x2F06, "\u4e8c"), (0x2F07, "\u4ea0"), (0x2F08, "\u4eba"), (0x2F09, "\u513f"),
   (0x2F0A, "\u5165"), (0x2F0B, "\u516b"), (0x2F0C, "\u5182"), (0x2F0D, "\u5196"),
   (0x2F0E, "\u51ab"), (0x2F0F, "\u51e0"), (0x2F10, "\u51f5"), (0x2F11, "\u5200"),
   (0x2F12, "\u529b"), (0x2F13, "\u52f9"), (0x2F14, "\u5315"), (0x2F15, "\u531a"),
   (0x2F16, "\u5338"), (0x2F17, "\u5341"), (0x2F18, "\u535c"), (0x2F19, "\u5369"),
   (0x2F1A, "\u5382"), (0x2F1B, "\u53b6"), (0x2F1C, "\u53c8"), (0x2F1D, "\u53e3"),
   (0x2F1E, "\u56d7"), (0x2F1F, "\u571f"), (0x2F20, "\u58eb"), (0x2F21, "\u5902"),
   (0x2F22, "\u590a"), (0x2F23, "\u5915"), (0x2F24, "\u5927"), (0x2F25, "\u5973"),
   (0x2F26, "\u5b50"), (0x2F27, "\u5b80"), (0x2F28, "\u5bf8"), (0x2F29, "\u5c0f"),
   (0x2F2A, "\u5c22"), (0x2F2B, "\u5c38"), (0x2F2C, "\u5c6e"), (0x2F2D, "\u5c71"),
   (0x2F2E, "\u5ddb"), (0x2F2F, "\u5de5"), (0x2F30, "\u5df1"), (0x2F31, "\u5dfe"),
   (0x2F32, "\u5e72"), (0x2F33, "\u5e7a"), (0x2F34, "\u5e7f"), (0x2F35, "\u5ef4"),
   (0x2F36, "\u5efe"), (0x2F37, "\u5f0b"), (0x2F38, "\u5f13"), (0x2F39, "\u5f50"),
   (0x2F3A, "\u5f61"), (0x2F3B, "\u5f73"), (0x2F3C, "\u5fc3"), (0x2F3D, "\u6208"),
   (0x2F3E, "\u6236"), (0x2F3F, "\u624b"), (0x2F40, "\u652f"), (0x2F41, "\u6534"),
   (0x2F42, "\u6587"), (0x2F43, "\u6597"), (0x2F44, "\u65a4"), (0x2F45, "\u65b9"),
   (0x2F46, "\u65e0"), (0x2F47, "\u65e5"), (0x2F48, "\u66f0"), (0x2F49, "\u6708"),
   (0x2F4A, "\u6728"), (0x2F4B, "\u6b20"), (0x2F4C, "\u6b62"), (0x2F4D, "\u6b79"),
   (0x2F4E, "\u6bb3"), (0x2F4F, "\u6bcb"), (0x2F50, "\u6bd4"), (0x2F51, "\u6bdb"),
   (0x2F52, "\u6c0f"), (0x2F53, "\u6c14"), (0x2F54, "\u6c34"), (0x2F55, "\u706b"),
   (0x2F56, "\u722a"), (0x2F57, "\u7236"), (0x2F58, "\u723b"), (0x2F59, "\u723f"),
   (0x2F5A, "\u7247"), (0x2F5B, "\u7259"), (0x2F5C, "\u725b"), (0x2F5D, "\u72ac"),
   (0x2F5E, "\u7384"), (0x2F5F, "\u7389"), (0x2F60, "\u74dc"), (0x2F61, "\u74e6"),
   (0x2F62, "\u7518"), (0x2F63, "\u751f"), (0x2F64, "\u7528"), (0x2F65, "\u7530"),
   (0x2F66, "\u758b"), (0x2F67, "\u7592"), (0x2F68, "\u7676"), (0x2F69, "\u767d"),
   (0x2F6A, "\u76ae"), (0x2F6B, "\u76bf"), (0x2F6C, "\u76ee"), (0x2F6D, "\u77db"),
   (0x2F6E, "\u77e2"), (0x2F6F, "\u77f3"), (0x2F70, "\u793a"), (0x2F71, "\u79b8"),
   (0x2F72, "\u79be"), (0x2F73, "\u7a74"), (0x2F74, "\u7acb"), (0x2F75, "\u7af9"),
   (0x2F76, "\u7c73"), (0x2F77, "\u7cf8"), (0x2F78, "\u7f36"), (0x2F79, "\u7f51"),
   (0x2F7A, "\u7f8a"), (0x2F7B, "\u7fbd"), (0x2F7C, "\u8001"), (0x2F7D, "\u800c"),
   (0x2F7E, "\u8012"), (0x2F7F, "\u8033"), (0x2F80, "\u807f"), (0x2F81, "\u8089"),
   (0x2F82, "\u81e3"), (0x2F83, "\u81ea"), (0x2F84, "\u81f3"), (0x2F85, "\u81fc"),
   (0x2F86, "\u820c"), (0x2F87, "\u821b"), (0x2F88, "\u821f"), (0x2F89, "\u826e"),
   (0x2F8A, "\u8272"), (0x2F8B, "\u8278"), (0x2F8C, "\u864d"), (0x2F8D, "\u866b"),
   (0x2F8E, "\u8840"), (0x2F8F, "\u884c"), (0x2F90, "\u8863"), (0x2F91, "\u897e"),
   (0x2F92, "\u898b"), (0x2F93, "\u89d2"), (0x2F94, "\u8a00"), (0x2F95, "\u8c37"),
   (0x2F96, "\u8c46"), (0x2F97, "\u8c55"), (0x2F98, "\u8c78"), (0x2F99, "\u8c9d"),
   (0x2F9A, "\u8d64"), (0x2F9B, "\u8d70"), (0x2F9C, "\u8db3"), (0x2F9D, "\u8eab"),
   (0x2F9E, "\u8eca"), (0x2F9F, "\u8f9b"), (0x2FA0, "\u8fb0"), (0x2FA1, "\u8fb5"),
   (0x2FA2, "\u9091"), (0x2FA3, "\u9149"), (0x2FA4, "\u91c6"), (0x2FA5, "\u91cc"),
   (0x2FA6, "\u91d1"), (0x2FA7, "\u9577"), (0x2FA8, "\u9580"), (0x2FA9, "\u961c"),
   (0x2FAA, "\u96b6"), (0x2FAB, "\u96b9"), (0x2FAC, "\u96e8"), (0x2FAD, "\u9751"),
   (0x2FAE, "\u975e"), (0x2FAF, "\u9762"), (0x2FB0, "\u9769"), (0x2FB1, "\u97cb"),
   (0x2FB2, "\u97ed"), (0x2FB3, "\u97f3"), (0x2FB4, "\u9801"), (0x2FB5, "\u98a8"),
   (0x2FB6, "\u98db"), (0x2FB7, "\u98df"), (0x2FB8, "\u9996"), (0x2FB9, "\u9999"),
   (0x2FBA, "\u99ac"), (0x2FBB, "\u9aa8"), (0x2FBC, "\u9ad8"), (0x2FBD, "\u9adf"),
   (0x2FBE, "\u9b25"), (0x2FBF, "\u9b2f"), (0x2FC0, "\u9b32"), (0x2FC1, "\u9b3c"),
   (0x2FC2, "\u9b5a"), (0x2FC3, "\u9ce5"), (0x2FC4, "\u9e75"), (0x2FC5, "\u9e7f"),
   (0x2FC6, "\u9ea5"), (0x2FC7, "\u9ebb"), (0x2FC8, "\u9ec3"), (0x2FC9, "\u9ecd"),
   (0x2FCA, "\u9ed1"), (0x2FCB, "\u9ef9"), (0x2FCC, "\u9efd"), (0x2FCD, "\u9f0e"),
   (0x2FCE, "\u9f13"), (0x2FCF, "\u9f20"), (0x2FD0, "\u9f3b"), (0x2FD1, "\u9f4a"),
   (0x2FD2, "\u9f52"), (0x2FD3, "\u9f8d"), (0x2FD4, "\u9f9c"), (0x2FD5, "\u9fa0"), (0x3000, " "),
   (0x3002, "."), (0x3036, "\u3012"), (0x3038, "\u5341"), (0x3039, "\u5344"), (0x303A, "\u5345"),
   (0x309B, " \u3099"), (0x309C, " \u309a"), (0x309F, "\u3088\u308a"), (0x30FF, "\u30b3\u30c8"),
   (0x3131, "\u1100"), (0x3132, "\u1101"), (0x3133, "\u11aa"), (0x3134, "\u1102"),
   (0x3135, "\u11ac"), (0x3136, "\u11ad"), (0x3140, "\u111a"), (0x3144, "\u1121"),
   (0x3165, "\u1114"), (0x3166, "\u1115"), (0x3167, "\u11c7"), (0x3168, "\u11c8"),
   (0x3169, "\u11cc"), (0x316A, "\u11ce"), (0x316B, "\u11d3"), (0x316C, "\u11d7"),
   (0x316D, "\u11d9"), (0x316E, "\u111c"), (0x316F, "\u11dd"), (0x3170, "\u11df"),
   (0x3171, "\u111d"), (0x3172, "\u111e"), (0x3173, "\u1120"), (0x3174, "\u1122"),
   (0x3175, "\u1123"), (0x3176, "\u1127"), (0x3177, "\u1129"), (0x317D, "\u1132"),
   (0x317E, "\u1136"), (0x317F, "\u1140"), (0x3180, "\u1147"), (0x3181, "\u114c"),
   (0x3182, "\u11f1"), (0x3183, "\u11f2"), (0x3187, "\u1184"), (0x3188, "\u1185"),
   (0x3189, "\u1188"), (0x318A, "\u1191"), (0x318B, "\u1192"), (0x318C, "\u1194"),
   (0x318D, "\u119e"), (0x318E, "\u11a1"), (0x3192, "\u4e00"), (0x3193, "\u4e8c"),
   (0x3194, "\u4e09"), (0x3195, "\u56db"), (0x3196, "\u4e0a"), (0x3197, "\u4e2d"),
   (0x3198, "\u4e0b"), (0x3199, "\u7532"), (0x319A, "\u4e59"), (0x319B, "\u4e19"),
   (0x319C, "\u4e01"), (0x319D, "\u5929"), (0x319E, "\u5730"), (0x319F, "\u4eba"),
   (0x3200, "(\u1100)"), (0x3201, "(\u1102)"), (0x3202, "(\u1103)"), (0x3203, "(\u1105)"),
   (0x3204, "(\u1106)"), (0x3205, "(\u1107)"), (0x3206, "(\u1109)"), (0x3207, "(\u110b)"),
   (0x3208, "(\u110c)"), (0x3209, "(\u110e)"), (0x320A, "(\u110f)"), (0x320B, "(\u1110)"),
   (0x320C, "(\u1111)"), (0x320D, "(\u1112)"), (0x320E, "(\uac00)"), (0x320F, "(\ub098)"),
   (0x3210, "(\ub2e4)"), (0x3211, "(\ub77c)"), (0x3212, "(\ub9c8)"), (0x3213, "(\ubc14)"),
   (0x3214, "(\uc0ac)"), (0x3215, "(\uc544)"), (0x3216, "(\uc790)"), (0x3217, "(\ucc28)"),
   (0x3218, "(\uce74)"), (0x3219, "(\ud0c0)"), (0x321A, "(\ud30c)"), (0x321B, "(\ud558)"),
   (0x321C, "(\uc8fc)"), (0x321D, "(\uc624\uc804)"), (0x321E, "(\uc624\ud6c4)"),
   (0x3220, "(\u4e00)"), (0x3221, "(\u4e8c)"), (0x3222, "(\u4e09)"), (0x3223, "(\u56db)"),
   (0x3224, "(\u4e94)"), (0x3225, "(\u516d)"), (0x3226, "(\u4e03)"), (0x3227, "(\u516b)"),
   (0x3228, "(\u4e5d)"), (0x3229, "(\u5341)"), (0x322A, "(\u6708)"), (0x322B, "(\u706b)"),
   (0x322C, "(\u6c34)"), (0x322D, "(\u6728)"), (0x322E, "(\u91d1)"), (0x322F, "(\u571f)"),
   (0x3230, "(\u65e5)"), (0x3231, "(\u682a)"), (0x3232, "(\u6709)"), (0x3233, "(\u793e)"),
   (0x3234, "(\u540d)"), (0x3235, "(\u7279)"), (0x3236, "(\u8ca1)"), (0x3237, "(\u795d)"),
   (0x3238, "(\u52b4)"), (0x3239, "(\u4ee3)"), (0x323A, "(\u547c)"), (0x323B, "(\u5b66)"),
   (0x323C, "(\u76e3)"), (0x323D, "(\u4f01)"), (0x323E, "(\u8cc7)"), (0x323F, "(\u5354)"),
   (0x3240, "(\u796d)"), (0x3241, "(\u4f11)"), (0x3242, "(\u81ea)"), (0x3243, "(\u81f3)"),
   (0x3244, "\u554f"), (0x3245, "\u5e7c"), (0x3246, "\u6587"), (0x3247, "\u7b8f"), (0x3250, "pte"),
   (0x3251, "21"), (0x3252, "22"), (0x3253, "23"), (0x3254, "24"), (0x3255, "25"), (0x3256, "26"),
   (0x3257, "27"), (0x3258, "28"), (0x3259, "29"), (0x325A, "30"), (0x325B, "31"), (0x325C, "32"),
   (0x325D, "33"), (0x325E, "34"), (0x325F, "35"), (0x3260, "\u1100"), (0x3261, "\u1102"),
   (0x3262, "\u1103"), (0x3266, "\u1109"), (0x3267, "\u110b"), (0x3268, "\u110c"),
   (0x326E, "\uac00"), (0x326F, "\ub098"), (0x3270, "\ub2e4"), (0x3271, "\ub77c"),
   (0x3272, "\ub9c8"), (0x3273, "\ubc14"), (0x3274, "\uc0ac"), (0x3275, "\uc544"),
   (0x3276, "\uc790"), (0x3277, "\ucc28"), (0x3278, "\uce74"), (0x3279, "\ud0c0"),
   (0x327A, "\ud30c"), (0x327B, "\ud558"), (0x327C, "\ucc38\uace0"), (0x327D, "\uc8fc\uc758"),
   (0x327E, "\uc6b0"), (0x3280, "\u4e00"), (0x3281, "\u4e8c"), (0x3282, "\u4e09"),
   (0x3283, "\u56db"), (0x3284, "\u4e94"), (0x3285, "\u516d"), (0x3286, "\u4e03"),
   (0x3287, "\u516b"), (0x3288, "\u4e5d"), (0x3289, "\u5341"), (0x328A, "\u6708"),
   (0x328B, "\u706b"), (0x328C, "\u6c34"), (0x328D, "\u6728"), (0x328E, "\u91d1"),
   (0x328F, "\u571f"), (0x3290, "\u65e5"), (0x3291, "\u682a"), (0x3292, "\u6709"),
   (0x3293, "\u793e"), (0x3294, "\u540d"), (0x3295, "\u7279"), (0x3296, "\u8ca1"),
   (0x3297, "\u795d"), (0x3298, "\u52b4"), (0x3299, "\u79d8"), (0x329A, "\u7537"),
   (0x329B, "\u5973"), (0x329C, "\u9069"), (0x329D, "\u512a"), (0x329E, "\u5370"),
   (0x329F, "\u6ce8"), (0x32A0, "\u9805"), (0x32A1, "\u4f11"), (0x32A2, "\u5199"),
   (0x32A3, "\u6b63"), (0x32A4, "\u4e0a"), (0x32A5, "\u4e2d"), (0x32A6, "\u4e0b"),
   (0x32A7, "\u5de6"), (0x32A8, "\u53f3"), (0x32A9, "\u533b"), (0x32AA, "\u5b97"),
   (0x32AB, "\u5b66"), (0x32AC, "\u76e3"), (0x32AD, "\u4f01"), (0x32AE, "\u8cc7"),
   (0x32AF, "\u5354"), (0x32B0, "\u591c"), (0x32B1, "36"), (0x32B2, "37"), (0x32B3, "38"),
   (0x32B4, "39"), (0x32B5, "40"), (0x32B6, "41"), (0x32B7, "42"), (0x32B8, "43"), (0x32B9, "44"),
   (0x32BA, "45"), (0x32BB, "46"), (0x32BC, "47"), (0x32BD, "48"), (0x32BE, "49"), (0x32BF, "50"),
   (0x32C0, "1\u6708"), (0x32C1, "2\u6708"), (0x32C2, "3\u6708"), (0x32C3, "4\u6708"),
   (0x32C4, "5\u6708"), (0x32C5, "6\u6708"), (0x32C6, "7\u6708"), (0x32C7, "8\u6708"),
   (0x32C8, "9\u6708"), (0x32C9, "10\u6708"), (0x32CA, "11\u6708"), (0x32CB, "12\u6708"),
   (0x32CC, "hg"), (0x32CD, "erg"), (0x32CE, "ev"), (0x32CF, "ltd"), (0x32D0, "\u30a2"),
   (0x32D1, "\u30a4"), (0x32D2, "\u30a6"), (0x32D3, "\u30a8"), (0x32D4, "\u30aa"),
   (0x32D5, "\u30ab"), (0x32D6, "\u30ad"), (0x32D7, "\u30af"), (0x32D8, "\u30b1"),
   (0x32D9, "\u30b3"), (0x32DA, "\u30b5"), (0x32DB, "\u30b7"), (0x32DC, "\u30b9"),
   (0x32DD, "\u30bb"), (0x32DE, "\u30bd"), (0x32DF, "\u30bf"), (0x32E0, "\u30c1"),
   (0x32E1, "\u30c4"), (0x32E2, "\u30c6"), (0x32E3, "\u30c8"), (0x32EA, "\u30d2"),
   (0x32EB, "\u30d5"), (0x32EC, "\u30d8"), (0x32ED, "\u30db"), (0x32F3, "\u30e4"),
   (0x32F4, "\u30e6"), (0x32FF, "\u4ee4\u548c"), (0x3300, "\u30a2\u30d1\u30fc\u30c8"),
   (0x3301, "\u30a2\u30eb\u30d5\u30a1"), (0x3302, "\u30a2\u30f3\u30da\u30a2"),
   (0x3303, "\u30a2\u30fc\u30eb"), (0x3304, "\u30a4\u30cb\u30f3\u30b0"),
   (0x3305, "\u30a4\u30f3\u30c1"), (0x3306, "\u30a6\u30a9\u30f3"),
   (0x3307, "\u30a8\u30b9\u30af\u30fc\u30c9"), (0x3308, "\u30a8\u30fc\u30ab\u30fc"),
   (0x3309, "\u30aa\u30f3\u30b9"), (0x330A, "\u30aa\u30fc\u30e0"), (0x330B, "\u30ab\u30a4\u30ea"),
   (0x330C, "\u30ab\u30e9\u30c3\u30c8"), (0x330D, "\u30ab\u30ed\u30ea\u30fc"),
   (0x330E, "\u30ac\u30ed\u30f3"), (0x330F, "\u30ac\u30f3\u30de"), (0x3310, "\u30ae\u30ac"),
   (0x3311, "\u30ae\u30cb\u30fc"), (0x3312, "\u30ad\u30e5\u30ea\u30fc"),
   (0x3313, "\u30ae\u30eb\u30c0\u30fc"), (0x3314, "\u30ad\u30ed"),
   (0x3315, "\u30ad\u30ed\u30b0\u30e9\u30e0"), (0x3316, "\u30ad\u30ed\u30e1\u30fc\u30c8\u30eb"),
   (0x3317, "\u30ad\u30ed\u30ef\u30c3\u30c8"), (0x3318, "\u30b0\u30e9\u30e0"),
   (0x3319, "\u30b0\u30e9\u30e0\u30c8\u30f3"), (0x331A, "\u30af\u30eb\u30bc\u30a4\u30ed"),
   (0x331B, "\u30af\u30ed\u30fc\u30cd"), (0x331C, "\u30b1\u30fc\u30b9"),
   (0x331D, "\u30b3\u30eb\u30ca"), (0x331E, "\u30b3\u30fc\u30dd"),
   (0x331F, "\u30b5\u30a4\u30af\u30eb"), (0x3320, "\u30b5\u30f3\u30c1\u30fc\u30e0"),
   (0x3321, "\u30b7\u30ea\u30f3\u30b0"), (0x3322, "\u30bb\u30f3\u30c1"),
   (0x3323, "\u30bb\u30f3\u30c8"), (0x3324, "\u30c0\u30fc\u30b9"), (0x3325, "\u30c7\u30b7"),
   (0x3326, "\u30c9\u30eb"), (0x3327, "\u30c8\u30f3"), (0x3328, "\u30ca\u30ce"),
   (0x3329, "\u30ce\u30c3\u30c8"), (0x332A, "\u30cf\u30a4\u30c4"),
   (0x332B, "\u30d1\u30fc\u30bb\u30f3\u30c8"), (0x332C, "\u30d1\u30fc\u30c4"),
   (0x332D, "\u30d0\u30fc\u30ec\u30eb"), (0x332E, "\u30d4\u30a2\u30b9\u30c8\u30eb"),
   (0x332F, "\u30d4\u30af\u30eb"), (0x3330, "\u30d4\u30b3"), (0x3331, "\u30d3\u30eb"),
   (0x3332, "\u30d5\u30a1\u30e9\u30c3\u30c9"), (0x3333, "\u30d5\u30a3\u30fc\u30c8"),
   (0x3334, "\u30d6\u30c3\u30b7\u30a7\u30eb"), (0x3335, "\u30d5\u30e9\u30f3"),
   (0x3336, "\u30d8\u30af\u30bf\u30fc\u30eb"), (0x3337, "\u30da\u30bd"),
   (0x3338, "\u30da\u30cb\u30d2"), (0x3339, "\u30d8\u30eb\u30c4"), (0x333A, "\u30da\u30f3\u30b9"),
   (0x333B, "\u30da\u30fc\u30b8"), (0x333C, "\u30d9\u30fc\u30bf"),
   (0x333D, "\u30dd\u30a4\u30f3\u30c8"), (0x333E, "\u30dc\u30eb\u30c8"), (0x333F, "\u30db\u30f3"),
   (0x3340, "\u30dd\u30f3\u30c9"), (0x3341, "\u30db\u30fc\u30eb"), (0x3342, "\u30db\u30fc\u30f3"),
   (0x3343, "\u30de\u30a4\u30af\u30ed"), (0x3344, "\u30de\u30a4\u30eb"),
   (0x3345, "\u30de\u30c3\u30cf"), (0x3346, "\u30de\u30eb\u30af"),
   (0x3347, "\u30de\u30f3\u30b7\u30e7\u30f3"), (0x3348, "\u30df\u30af\u30ed\u30f3"),
   (0x3349, "\u30df\u30ea"), (0x334A, "\u30df\u30ea\u30d0\u30fc\u30eb"), (0x334B, "\u30e1\u30ac"),
   (0x334C, "\u30e1\u30ac\u30c8\u30f3"), (0x334D, "\u30e1\u30fc\u30c8\u30eb"),
   (0x334E, "\u30e4\u30fc\u30c9"), (0x334F, "\u30e4\u30fc\u30eb"), (0x3350, "\u30e6\u30a2\u30f3"),
   (0x3351, "\u30ea\u30c3\u30c8\u30eb"), (0x3352, "\u30ea\u30e9"), (0x3353, "\u30eb\u30d4\u30fc"),
   (0x3354, "\u30eb\u30fc\u30d6\u30eb"), (0x3355, "\u30ec\u30e0"),
   (0x3356, "\u30ec\u30f3\u30c8\u30b2\u30f3"), (0x3357, "\u30ef\u30c3\u30c8"), (0x3358, "0\u70b9"),
   (0x3359, "1\u70b9"), (0x335A, "2\u70b9"), (0x335B, "3\u70b9"), (0x335C, "4\u70b9"),
   (0x335D, "5\u70b9"), (0x335E, "6\u70b9"), (0x335F, "7\u70b9"), (0x3360, "8\u70b9"),
   (0x3361, "9\u70b9"), (0x3362, "10\u70b9"), (0x3363, "11\u70b9"), (0x3364, "12\u70b9"),
   (0x3365, "13\u70b9"), (0x3366, "14\u70b9"), (0x3367, "15\u70b9"), (0x3368, "16\u70b9"),
   (0x3369, "17\u70b9"), (0x336A, "18\u70b9"), (0x336B, "19\u70b9"), (0x336C, "20\u70b9"),
   (0x336D, "21\u70b9"), (0x336E, "22\u70b9"), (0x336F, "23\u70b9"), (0x3370, "24\u70b9"),
   (0x3371, "hpa"), (0x3372, "da"), (0x3373, "au"), (0x3374, "bar"), (0x3375, "ov"),
   (0x3376, "pc"), (0x3377, "dm"), (0x3378, "dm2"), (0x3379, "dm3"), (0x337A, "iu"),
   (0x337B, "\u5e73\u6210"), (0x337C, "\u662d\u548c"), (0x337D, "\u5927\u6b63"),
   (0x337E, "\u660e\u6cbb"), (0x337F, "\u682a\u5f0f\u4f1a\u793e"), (0x3380, "pa"), (0x3381, "na"),
   (0x3382, "\u03bca"), (0x3383, "ma"), (0x3384, "ka"), (0x3385, "kb"), (0x3386, "mb"),
   (0x3387, "gb"), (0x3388, "cal"), (0x3389, "kcal"), (0x338A, "pf"), (0x338B, "nf"),
   (0x338C, "\u03bcf"), (0x338D, "\u03bcg"), (0x338E, "mg"), (0x338F, "kg"), (0x3390, "hz"),
   (0x3391, "khz"), (0x3392, "mhz"), (0x3393, "ghz"), (0x3394, "thz"), (0x3395, "\u03bcl"),
   (0x3396, "ml"), (0x3397, "dl"), (0x3398, "kl"), (0x3399, "fm"), (0x339A, "nm"),
   (0x339B, "\u03bcm"), (0x339C, "mm"), (0x339D, "cm"), (0x339E, "km"), (0x339F, "mm2"),
   (0x33A0, "cm2"), (0x33A1, "m2"), (0x33A2, "km2"), (0x33A3, "mm3"), (0x33A4, "cm3"),
   (0x33A5, "m3"), (0x33A6, "km3"), (0x33A7, "m\u2215s"), (0x33A8, "m\u2215s2"), (0x33A9, "pa"),
   (0x33AA, "kpa"), (0x33AB, "mpa"), (0x33AC, "gpa"), (0x33AD, "rad"), (0x33AE, "rad\u2215s"),
   (0x33AF, "rad\u2215s2"), (0x33B0, "ps"), (0x33B1, "ns"), (0x33B2, "\u03bcs"), (0x33B3, "ms"),
   (0x33B4, "pv"), (0x33B5, "nv"), (0x33B6, "\u03bcv"), (0x33B7, "mv"), (0x33B8, "kv"),
   (0x33B9, "mv"), (0x33BA, "pw"), (0x33BB, "nw"), (0x33BC, "\u03bcw"), (0x33BD, "mw"),
   (0x33BE, "kw"), (0x33BF, "mw"), (0x33C0, "k\u03c9"), (0x33C1, "m\u03c9"), (0x33C3, "bq"),
   (0x33C4, "cc"), (0x33C5, "cd"), (0x33C6, "c\u2215kg"), (0x33C8, "db"), (0x33C9, "gy"),
   (0x33CA, "ha"), (0x33CB, "hp"), (0x33CC, "in"), (0x33CD, "kk"), (0x33CE, "km"), (0x33CF, "kt"),
   (0x33D0, "lm"), (0x33D1, "ln"), (0x33D2, "log"), (0x33D3, "lx"), (0x33D4, "mb"),
   (0x33D5, "mil"), (0x33D6, "mol"), (0x33D7, "ph"), (0x33D9, "ppm"), (0x33DA, "pr"),
   (0x33DB, "sr"), (0x33DC, "sv"), (0x33DD, "wb"), (0x33DE, "v\u2215m"), (0x33DF, "a\u2215m"),
   (0x33E0, "1\u65e5"), (0x33E1, "2\u65e5"), (0x33E2, "3\u65e5"), (0x33E3, "4\u65e5"),
   (0x33E4, "5\u65e5"), (0x33E5, "6\u65e5"), (0x33E6, "7\u65e5"), (0x33E7, "8\u65e5"),
   (0x33E8, "9\u65e5"), (0x33E9, "10\u65e5"), (0x33EA, "11\u65e5"), (0x33EB, "12\u65e5"),
   (0x33EC, "13\u65e5"), (0x33ED, "14\u65e5"), (0x33EE, "15\u65e5"), (0x33EF, "16\u65e5"),
   (0x33F0, "17\u65e5"), (0x33F1, "18\u65e5"), (0x33F2, "19\u65e5"), (0x33F3, "20\u65e5"),
   (0x33F4, "21\u65e5"), (0x33F5, "22\u65e5"), (0x33F6, "23\u65e5"), (0x33F7, "24\u65e5"),
   (0x33F8, "25\u65e5"), (0x33F9, "26\u65e5"), (0x33FA, "27\u65e5"), (0x33FB, "28\u65e5"),
   (0x33FC, "29\u65e5"), (0x33FD, "30\u65e5"), (0x33FE, "31\u65e5"), (0x33FF, "gal"),
   (0xA69C, "\u044a"), (0xA69D, "\u044c"), (0xA770, "\ua76f"), (0xA779, "\ua77a"),
   (0xA77B, "\ua77c"), (0xA77D, "\u1d79"), (0xA78B, "\ua78c"), (0xA78D, "\u0265"),
   (0xA790, "\ua791"), (0xA792, "\ua793"), (0xA7AA, "\u0266"), (0xA7AB, "\u025c"),
   (0xA7AC, "\u0261"), (0xA7AD, "\u026c"), (0xA7AE, "\u026a"), (0xA7B0, "\u029e"),
   (0xA7B1, "\u0287"), (0xA7B2, "\u029d"), (0xA7B3, "\uab53"), (0xA7C4, "\ua794"),
   (0xA7C5, "\u0282"), (0xA7C6, "\u1d8e"), (0xA7C7, "\ua7c8"), (0xA7C9, "\ua7ca"),
   (0xA7CB, "\u0264"), (0xA7DC, "\u019b"), (0xA7F1, "s"), (0xA7F2, "c"), (0xA7F3, "f"),
   (0xA7F4, "q"), (0xA7F5, "\ua7f6"), (0xA7F8, "\u0127"), (0xA7F9, "\u0153"), (0xAB5C, "\ua727"),
   (0xAB5D, "\uab37"), (0xAB5E, "\u026b"), (0xAB5F, "\uab52"), (0xAB69, "\u028d"),
   (0xF900, "\u8c48"), (0xF901, "\u66f4"), (0xF902, "\u8eca"), (0xF903, "\u8cc8"),
   (0xF904, "\u6ed1"), (0xF905, "\u4e32"), (0xF906, "\u53e5"), (0xF907, "\u9f9c"),
   (0xF908, "\u9f9c"), (0xF909, "\u5951"), (0xF90A, "\u91d1"), (0xF90B, "\u5587"),
   (0xF90C, "\u5948"), (0xF90D, "\u61f6"), (0xF90E, "\u7669"), (0xF90F, "\u7f85"),
   (0xF910, "\u863f"), (0xF911, "\u87ba"), (0xF912, "\u88f8"), (0xF913, "\u908f"),
   (0xF914, "\u6a02"), (0xF915, "\u6d1b"), (0xF916, "\u70d9"), (0xF917, "\u73de"),
   (0xF918, "\u843d"), (0xF919, "\u916a"), (0xF91A, "\u99f1"), (0xF91B, "\u4e82"),
   (0xF91C, "\u5375"), (0xF91D, "\u6b04"), (0xF91E, "\u721b"), (0xF91F, "\u862d"),
   (0xF920, "\u9e1e"), (0xF921, "\u5d50"), (0xF922, "\u6feb"), (0xF923, "\u85cd"),
   (0xF924, "\u8964"), (0xF925, "\u62c9"), (0xF926, "\u81d8"), (0xF927, "\u881f"),
   (0xF928, "\u5eca"), (0xF929, "\u6717"), (0xF92A, "\u6d6a"), (0xF92B, "\u72fc"),
   (0xF92C, "\u90ce"), (0xF92D, "\u4f86"), (0xF92E, "\u51b7"), (0xF92F, "\u52de"),
   (0xF930, "\u64c4"), (0xF931, "\u6ad3"), (0xF932, "\u7210"), (0xF933, "\u76e7"),
   (0xF934, "\u8001"), (0xF935, "\u8606"), (0xF936, "\u865c"), (0xF937, "\u8def"),
   (0xF938, "\u9732"), (0xF939, "\u9b6f"), (0xF93A, "\u9dfa"), (0xF93B, "\u788c"),
   (0xF93C, "\u797f"), (0xF93D, "\u7da0"), (0xF93E, "\u83c9"), (0xF93F, "\u9304"),
   (0xF940, "\u9e7f"), (0xF941, "\u8ad6"), (0xF942, "\u58df"), (0xF943, "\u5f04"),
   (0xF944, "\u7c60"), (0xF945, "\u807e"), (0xF946, "\u7262"), (0xF947, "\u78ca"),
   (0xF948, "\u8cc2"), (0xF949, "\u96f7"), (0xF94A, "\u58d8"), (0xF94B, "\u5c62"),
   (0xF94C, "\u6a13"), (0xF94D, "\u6dda"), (0xF94E, "\u6f0f"), (0xF94F, "\u7d2f"),
   (0xF950, "\u7e37"), (0xF951, "\u964b"), (0xF952, "\u52d2"), (0xF953, "\u808b"),
   (0xF954, "\u51dc"), (0xF955, "\u51cc"), (0xF956, "\u7a1c"), (0xF957, "\u7dbe"),
   (0xF958, "\u83f1"), (0xF959, "\u9675"), (0xF95A, "\u8b80"), (0xF95B, "\u62cf"),
   (0xF95C, "\u6a02"), (0xF95D, "\u8afe"), (0xF95E, "\u4e39"), (0xF95F, "\u5be7"),
   (0xF960, "\u6012"), (0xF961, "\u7387"), (0xF962, "\u7570"), (0xF963, "\u5317"),
   (0xF964, "\u78fb"), (0xF965, "\u4fbf"), (0xF966, "\u5fa9"), (0xF967, "\u4e0d"),
   (0xF968, "\u6ccc"), (0xF969, "\u6578"), (0xF96A, "\u7d22"), (0xF96B, "\u53c3"),
   (0xF96C, "\u585e"), (0xF96D, "\u7701"), (0xF96E, "\u8449"), (0xF96F, "\u8aaa"),
   (0xF970, "\u6bba"), (0xF971, "\u8fb0"), (0xF972, "\u6c88"), (0xF973, "\u62fe"),
   (0xF974, "\u82e5"), (0xF975, "\u63a0"), (0xF976, "\u7565"), (0xF977, "\u4eae"),
   (0xF978, "\u5169"), (0xF979, "\u51c9"), (0xF97A, "\u6881"), (0xF97B, "\u7ce7"),
   (0xF97C, "\u826f"), (0xF97D, "\u8ad2"), (0xF97E, "\u91cf"), (0xF97F, "\u52f5"),
   (0xF980, "\u5442"), (0xF981, "\u5973"), (0xF982, "\u5eec"), (0xF983, "\u65c5"),
   (0xF984, "\u6ffe"), (0xF985, "\u792a"), (0xF986, "\u95ad"), (0xF987, "\u9a6a"),
   (0xF988, "\u9e97"), (0xF989, "\u9ece"), (0xF98A, "\u529b"), (0xF98B, "\u66c6"),
   (0xF98C, "\u6b77"), (0xF98D, "\u8f62"), (0xF98E, "\u5e74"), (0xF98F, "\u6190"),
   (0xF990, "\u6200"), (0xF991, "\u649a"), (0xF992, "\u6f23"), (0xF993, "\u7149"),
   (0xF994, "\u7489"), (0xF995, "\u79ca"), (0xF996, "\u7df4"), (0xF997, "\u806f"),
   (0xF998, "\u8f26"), (0xF999, "\u84ee"), (0xF99A, "\u9023"), (0xF99B, "\u934a"),
   (0xF99C, "\u5217"), (0xF99D, "\u52a3"), (0xF99E, "\u54bd"), (0xF99F, "\u70c8"),
   (0xF9A0, "\u88c2"), (0xF9A1, "\u8aaa"), (0xF9A2, "\u5ec9"), (0xF9A3, "\u5ff5"),
   (0xF9A4, "\u637b"), (0xF9A5, "\u6bae"), (0xF9A6, "\u7c3e"), (0xF9A7, "\u7375"),
   (0xF9A8, "\u4ee4"), (0xF9A9, "\u56f9"), (0xF9AA, "\u5be7"), (0xF9AB, "\u5dba"),
   (0xF9AC, "\u601c"), (0xF9AD, "\u73b2"), (0xF9AE, "\u7469"), (0xF9AF, "\u7f9a"),
   (0xF9B0, "\u8046"), (0xF9B1, "\u9234"), (0xF9B2, "\u96f6"), (0xF9B3, "\u9748"),
   (0xF9B4, "\u9818"), (0xF9B5, "\u4f8b"), (0xF9B6, "\u79ae"), (0xF9B7, "\u91b4"),
   (0xF9B8, "\u96b8"), (0xF9B9, "\u60e1"), (0xF9BA, "\u4e86"), (0xF9BB, "\u50da"),
   (0xF9BC, "\u5bee"), (0xF9BD, "\u5c3f"), (0xF9BE, "\u6599"), (0xF9BF, "\u6a02"),
   (0xF9C0, "\u71ce"), (0xF9C1, "\u7642"), (0xF9C2, "\u84fc"), (0xF9C3, "\u907c"),
   (0xF9C4, "\u9f8d"), (0xF9C5, "\u6688"), (0xF9C6, "\u962e"), (0xF9C7, "\u5289"),
   (0xF9C8, "\u677b"), (0xF9C9, "\u67f3"), (0xF9CA, "\u6d41"), (0xF9CB, "\u6e9c"),
   (0xF9CC, "\u7409"), (0xF9CD, "\u7559"), (0xF9CE, "\u786b"), (0xF9CF, "\u7d10"),
   (0xF9D0, "\u985e"), (0xF9D1, "\u516d"), (0xF9D2, "\u622e"), (0xF9D3, "\u9678"),
   (0xF9D4, "\u502b"), (0xF9D5, "\u5d19"), (0xF9D6, "\u6dea"), (0xF9D7, "\u8f2a"),
   (0xF9D8, "\u5f8b"), (0xF9D9, "\u6144"), (0xF9DA, "\u6817"), (0xF9DB, "\u7387"),
   (0xF9DC, "\u9686"), (0xF9DD, "\u5229"), (0xF9DE, "\u540f"), (0xF9DF, "\u5c65"),
   (0xF9E0, "\u6613"), (0xF9E1, "\u674e"), (0xF9E2, "\u68a8"), (0xF9E3, "\u6ce5"),
   (0xF9E4, "\u7406"), (0xF9E5, "\u75e2"), (0xF9E6, "\u7f79"), (0xF9E7, "\u88cf"),
   (0xF9E8, "\u88e1"), (0xF9E9, "\u91cc"), (0xF9EA, "\u96e2"), (0xF9EB, "\u533f"),
   (0xF9EC, "\u6eba"), (0xF9ED, "\u541d"), (0xF9EE, "\u71d0"), (0xF9EF, "\u7498"),
   (0xF9F0, "\u85fa"), (0xF9F1, "\u96a3"), (0xF9F2, "\u9c57"), (0xF9F3, "\u9e9f"),
   (0xF9F4, "\u6797"), (0xF9F5, "\u6dcb"), (0xF9F6, "\u81e8"), (0xF9F7, "\u7acb"),
   (0xF9F8, "\u7b20"), (0xF9F9, "\u7c92"), (0xF9FA, "\u72c0"), (0xF9FB, "\u7099"),
   (0xF9FC, "\u8b58"), (0xF9FD, "\u4ec0"), (0xF9FE, "\u8336"), (0xF9FF, "\u523a"),
   (0xFA00, "\u5207"), (0xFA01, "\u5ea6"), (0xFA02, "\u62d3"), (0xFA03, "\u7cd6"),
   (0xFA04, "\u5b85"), (0xFA05, "\u6d1e"), (0xFA06, "\u66b4"), (0xFA07, "\u8f3b"),
   (0xFA08, "\u884c"), (0xFA09, "\u964d"), (0xFA0A, "\u898b"), (0xFA0B, "\u5ed3"),
   (0xFA0C, "\u5140"), (0xFA0D, "\u55c0"), (0xFA10, "\u585a"), (0xFA12, "\u6674"),
   (0xFA15, "\u51de"), (0xFA16, "\u732a"), (0xFA17, "\u76ca"), (0xFA18, "\u793c"),
   (0xFA19, "\u795e"), (0xFA1A, "\u7965"), (0xFA1B, "\u798f"), (0xFA1C, "\u9756"),
   (0xFA1D, "\u7cbe"), (0xFA1E, "\u7fbd"), (0xFA20, "\u8612"), (0xFA22, "\u8af8"),
   (0xFA25, "\u9038"), (0xFA26, "\u90fd"), (0xFA2A, "\u98ef"), (0xFA2B, "\u98fc"),
   (0xFA2C, "\u9928"), (0xFA2D, "\u9db4"), (0xFA2E, "\u90de"), (0xFA2F, "\u96b7"),
   (0xFA30, "\u4fae"), (0xFA31, "\u50e7"), (0xFA32, "\u514d"), (0xFA33, "\u52c9"),
   (0xFA34, "\u52e4"), (0xFA35, "\u5351"), (0xFA36, "\u559d"), (0xFA37, "\u5606"),
   (0xFA38, "\u5668"), (0xFA39, "\u5840"), (0xFA3A, "\u58a8"), (0xFA3B, "\u5c64"),
   (0xFA3C, "\u5c6e"), (0xFA3D, "\u6094"), (0xFA3E, "\u6168"), (0xFA3F, "\u618e"),
   (0xFA40, "\u61f2"), (0xFA41, "\u654f"), (0xFA42, "\u65e2"), (0xFA43, "\u6691"),
   (0xFA44, "\u6885"), (0xFA45, "\u6d77"), (0xFA46, "\u6e1a"), (0xFA47, "\u6f22"),
   (0xFA48, "\u716e"), (0xFA49, "\u722b"), (0xFA4A, "\u7422"), (0xFA4B, "\u7891"),
   (0xFA4C, "\u793e"), (0xFA4D, "\u7949"), (0xFA4E, "\u7948"), (0xFA4F, "\u7950"),
   (0xFA50, "\u7956"), (0xFA51, "\u795d"), (0xFA52, "\u798d"), (0xFA53, "\u798e"),
   (0xFA54, "\u7a40"), (0xFA55, "\u7a81"), (0xFA56, "\u7bc0"), (0xFA57, "\u7df4"),
   (0xFA58, "\u7e09"), (0xFA59, "\u7e41"), (0xFA5A, "\u7f72"), (0xFA5B, "\u8005"),
   (0xFA5C, "\u81ed"), (0xFA5D, "\u8279"), (0xFA5E, "\u8279"), (0xFA5F, "\u8457"),
   (0xFA60, "\u8910"), (0xFA61, "\u8996"), (0xFA62, "\u8b01"), (0xFA63, "\u8b39"),
   (0xFA64, "\u8cd3"), (0xFA65, "\u8d08"), (0xFA66, "\u8fb6"), (0xFA67, "\u9038"),
   (0xFA68, "\u96e3"), (0xFA69, "\u97ff"), (0xFA6A, "\u983b"), (0xFA6B, "\u6075"), (0xFA6C, "𤋮"),
   (0xFA6D, "\u8218"), (0xFA70, "\u4e26"), (0xFA71, "\u51b5"), (0xFA72, "\u5168"),
   (0xFA73, "\u4f80"), (0xFA74, "\u5145"), (0xFA75, "\u5180"), (0xFA76, "\u52c7"),
   (0xFA77, "\u52fa"), (0xFA78, "\u559d"), (0xFA79, "\u5555"), (0xFA7A, "\u5599"),
   (0xFA7B, "\u55e2"), (0xFA7C, "\u585a"), (0xFA7D, "\u58b3"), (0xFA7E, "\u5944"),
   (0xFA7F, "\u5954"), (0xFA80, "\u5a62"), (0xFA81, "\u5b28"), (0xFA82, "\u5ed2"),
   (0xFA83, "\u5ed9"), (0xFA84, "\u5f69"), (0xFA85, "\u5fad"), (0xFA86, "\u60d8"),
   (0xFA87, "\u614e"), (0xFA88, "\u6108"), (0xFA89, "\u618e"), (0xFA8A, "\u6160"),
   (0xFA8B, "\u61f2"), (0xFA8C, "\u6234"), (0xFA8D, "\u63c4"), (0xFA8E, "\u641c"),
   (0xFA8F, "\u6452"), (0xFA90, "\u6556"), (0xFA91, "\u6674"), (0xFA92, "\u6717"),
   (0xFA93, "\u671b"), (0xFA94, "\u6756"), (0xFA95, "\u6b79"), (0xFA96, "\u6bba"),
   (0xFA97, "\u6d41"), (0xFA98, "\u6edb"), (0xFA99, "\u6ecb"), (0xFA9A, "\u6f22"),
   (0xFA9B, "\u701e"), (0xFA9C, "\u716e"), (0xFA9D, "\u77a7"), (0xFA9E, "\u7235"),
   (0xFA9F, "\u72af"), (0xFAA0, "\u732a"), (0xFAA1, "\u7471"), (0xFAA2, "\u7506"),
   (0xFAA3, "\u753b"), (0xFAA4, "\u761d"), (0xFAA5, "\u761f"), (0xFAA6, "\u76ca"),
   (0xFAA7, "\u76db"), (0xFAA8, "\u76f4"), (0xFAA9, "\u774a"), (0xFAAA, "\u7740"),
   (0xFAAB, "\u78cc"), (0xFAAC, "\u7ab1"), (0xFAAD, "\u7bc0"), (0xFAAE, "\u7c7b"),
   (0xFAAF, "\u7d5b"), (0xFAB0, "\u7df4"), (0xFAB1, "\u7f3e"), (0xFAB2, "\u8005"),
   (0xFAB3, "\u8352"), (0xFAB4, "\u83ef"), (0xFAB5, "\u8779"), (0xFAB6, "\u8941"),
   (0xFAB7, "\u8986"), (0xFAB8, "\u8996"), (0xFAB9, "\u8abf"), (0xFABA, "\u8af8"),
   (0xFABB, "\u8acb"), (0xFABC, "\u8b01"), (0xFABD, "\u8afe"), (0xFABE, "\u8aed"),
   (0xFABF, "\u8b39"), (0xFAC0, "\u8b8a"), (0xFAC1, "\u8d08"), (0xFAC2, "\u8f38"),
   (0xFAC3, "\u9072"), (0xFAC4, "\u9199"), (0xFAC5, "\u9276"), (0xFAC6, "\u967c"),
   (0xFAC7, "\u96e3"), (0xFAC8, "\u9756"), (0xFAC9, "\u97db"), (0xFACA, "\u97ff"),
   (0xFACB, "\u980b"), (0xFACC, "\u983b"), (0xFACD, "\u9b12"), (0xFACE, "\u9f9c"), (0xFACF, "𢡊"),
   (0xFAD0, "𢡄"), (0xFAD1, "𣏕"), (0xFAD2, "\u3b9d"), (0xFAD3, "\u4018"), (0xFAD4, "\u4039"),
   (0xFAD5, "𥉉"), (0xFAD6, "𥳐"), (0xFAD7, "𧻓"), (0xFAD8, "\u9f43"), (0xFAD9, "\u9f8e")]

/-- Ligatures, wide and narrow forms, and forms of letters by their place in a word. -/
def formSpellings : List (Nat × String) :=
  [(0xFB00, "ff"), (0xFB01, "fi"), (0xFB02, "fl"), (0xFB03, "ffi"), (0xFB04, "ffl"),
   (0xFB05, "st"), (0xFB06, "st"), (0xFB13, "\u0574\u0576"), (0xFB14, "\u0574\u0565"),
   (0xFB15, "\u0574\u056b"), (0xFB16, "\u057e\u0576"), (0xFB17, "\u0574\u056d"),
   (0xFB1D, "\u05d9\u05b4"), (0xFB1F, "\u05f2\u05b7"), (0xFB20, "\u05e2"), (0xFB21, "\u05d0"),
   (0xFB22, "\u05d3"), (0xFB23, "\u05d4"), (0xFB27, "\u05e8"), (0xFB28, "\u05ea"), (0xFB29, "+"),
   (0xFB2A, "\u05e9\u05c1"), (0xFB2B, "\u05e9\u05c2"), (0xFB2C, "\u05e9\u05bc\u05c1"),
   (0xFB2D, "\u05e9\u05bc\u05c2"), (0xFB2E, "\u05d0\u05b7"), (0xFB2F, "\u05d0\u05b8"),
   (0xFB30, "\u05d0\u05bc"), (0xFB31, "\u05d1\u05bc"), (0xFB32, "\u05d2\u05bc"),
   (0xFB33, "\u05d3\u05bc"), (0xFB34, "\u05d4\u05bc"), (0xFB35, "\u05d5\u05bc"),
   (0xFB36, "\u05d6\u05bc"), (0xFB38, "\u05d8\u05bc"), (0xFB39, "\u05d9\u05bc"),
   (0xFB3A, "\u05da\u05bc"), (0xFB3B, "\u05db\u05bc"), (0xFB3C, "\u05dc\u05bc"),
   (0xFB3E, "\u05de\u05bc"), (0xFB40, "\u05e0\u05bc"), (0xFB41, "\u05e1\u05bc"),
   (0xFB43, "\u05e3\u05bc"), (0xFB44, "\u05e4\u05bc"), (0xFB46, "\u05e6\u05bc"),
   (0xFB47, "\u05e7\u05bc"), (0xFB48, "\u05e8\u05bc"), (0xFB49, "\u05e9\u05bc"),
   (0xFB4A, "\u05ea\u05bc"), (0xFB4B, "\u05d5\u05b9"), (0xFB4C, "\u05d1\u05bf"),
   (0xFB4D, "\u05db\u05bf"), (0xFB4E, "\u05e4\u05bf"), (0xFB4F, "\u05d0\u05dc"),
   (0xFB50, "\u0671"), (0xFB51, "\u0671"), (0xFB52, "\u067b"), (0xFB53, "\u067b"),
   (0xFB54, "\u067b"), (0xFB55, "\u067b"), (0xFB56, "\u067e"), (0xFB57, "\u067e"),
   (0xFB58, "\u067e"), (0xFB59, "\u067e"), (0xFB5A, "\u0680"), (0xFB5B, "\u0680"),
   (0xFB5C, "\u0680"), (0xFB5D, "\u0680"), (0xFB5E, "\u067a"), (0xFB5F, "\u067a"),
   (0xFB60, "\u067a"), (0xFB61, "\u067a"), (0xFB62, "\u067f"), (0xFB63, "\u067f"),
   (0xFB64, "\u067f"), (0xFB65, "\u067f"), (0xFB66, "\u0679"), (0xFB67, "\u0679"),
   (0xFB68, "\u0679"), (0xFB69, "\u0679"), (0xFB6A, "\u06a4"), (0xFB6B, "\u06a4"),
   (0xFB6C, "\u06a4"), (0xFB6D, "\u06a4"), (0xFB6E, "\u06a6"), (0xFB6F, "\u06a6"),
   (0xFB70, "\u06a6"), (0xFB71, "\u06a6"), (0xFB72, "\u0684"), (0xFB73, "\u0684"),
   (0xFB74, "\u0684"), (0xFB75, "\u0684"), (0xFB76, "\u0683"), (0xFB77, "\u0683"),
   (0xFB78, "\u0683"), (0xFB79, "\u0683"), (0xFB7A, "\u0686"), (0xFB7B, "\u0686"),
   (0xFB7C, "\u0686"), (0xFB7D, "\u0686"), (0xFB7E, "\u0687"), (0xFB7F, "\u0687"),
   (0xFB80, "\u0687"), (0xFB81, "\u0687"), (0xFB82, "\u068d"), (0xFB83, "\u068d"),
   (0xFB84, "\u068c"), (0xFB85, "\u068c"), (0xFB86, "\u068e"), (0xFB87, "\u068e"),
   (0xFB88, "\u0688"), (0xFB89, "\u0688"), (0xFB8A, "\u0698"), (0xFB8B, "\u0698"),
   (0xFB8C, "\u0691"), (0xFB8D, "\u0691"), (0xFB8E, "\u06a9"), (0xFB8F, "\u06a9"),
   (0xFB90, "\u06a9"), (0xFB91, "\u06a9"), (0xFB92, "\u06af"), (0xFB93, "\u06af"),
   (0xFB94, "\u06af"), (0xFB95, "\u06af"), (0xFB96, "\u06b3"), (0xFB97, "\u06b3"),
   (0xFB98, "\u06b3"), (0xFB99, "\u06b3"), (0xFB9A, "\u06b1"), (0xFB9B, "\u06b1"),
   (0xFB9C, "\u06b1"), (0xFB9D, "\u06b1"), (0xFB9E, "\u06ba"), (0xFB9F, "\u06ba"),
   (0xFBA0, "\u06bb"), (0xFBA1, "\u06bb"), (0xFBA2, "\u06bb"), (0xFBA3, "\u06bb"),
   (0xFBA4, "\u06c0"), (0xFBA5, "\u06c0"), (0xFBA6, "\u06c1"), (0xFBA7, "\u06c1"),
   (0xFBA8, "\u06c1"), (0xFBA9, "\u06c1"), (0xFBAA, "\u06be"), (0xFBAB, "\u06be"),
   (0xFBAC, "\u06be"), (0xFBAD, "\u06be"), (0xFBAE, "\u06d2"), (0xFBAF, "\u06d2"),
   (0xFBB0, "\u06d3"), (0xFBB1, "\u06d3"), (0xFBD3, "\u06ad"), (0xFBD4, "\u06ad"),
   (0xFBD5, "\u06ad"), (0xFBD6, "\u06ad"), (0xFBD7, "\u06c7"), (0xFBD8, "\u06c7"),
   (0xFBD9, "\u06c6"), (0xFBDA, "\u06c6"), (0xFBDB, "\u06c8"), (0xFBDC, "\u06c8"),
   (0xFBDD, "\u06c7\u0674"), (0xFBDE, "\u06cb"), (0xFBDF, "\u06cb"), (0xFBE0, "\u06c5"),
   (0xFBE1, "\u06c5"), (0xFBE2, "\u06c9"), (0xFBE3, "\u06c9"), (0xFBE4, "\u06d0"),
   (0xFBE5, "\u06d0"), (0xFBE6, "\u06d0"), (0xFBE7, "\u06d0"), (0xFBE8, "\u0649"),
   (0xFBE9, "\u0649"), (0xFBEA, "\u0626\u0627"), (0xFBEB, "\u0626\u0627"),
   (0xFBEC, "\u0626\u06d5"), (0xFBED, "\u0626\u06d5"), (0xFBEE, "\u0626\u0648"),
   (0xFBEF, "\u0626\u0648"), (0xFBF0, "\u0626\u06c7"), (0xFBF1, "\u0626\u06c7"),
   (0xFBF2, "\u0626\u06c6"), (0xFBF3, "\u0626\u06c6"), (0xFBF4, "\u0626\u06c8"),
   (0xFBF5, "\u0626\u06c8"), (0xFBF6, "\u0626\u06d0"), (0xFBF7, "\u0626\u06d0"),
   (0xFBF8, "\u0626\u06d0"), (0xFBF9, "\u0626\u0649"), (0xFBFA, "\u0626\u0649"),
   (0xFBFB, "\u0626\u0649"), (0xFBFC, "\u06cc"), (0xFBFD, "\u06cc"), (0xFBFE, "\u06cc"),
   (0xFBFF, "\u06cc"), (0xFC00, "\u0626\u062c"), (0xFC01, "\u0626\u062d"),
   (0xFC02, "\u0626\u0645"), (0xFC03, "\u0626\u0649"), (0xFC04, "\u0626\u064a"),
   (0xFC05, "\u0628\u062c"), (0xFC06, "\u0628\u062d"), (0xFC07, "\u0628\u062e"),
   (0xFC08, "\u0628\u0645"), (0xFC09, "\u0628\u0649"), (0xFC0A, "\u0628\u064a"),
   (0xFC0B, "\u062a\u062c"), (0xFC0C, "\u062a\u062d"), (0xFC0D, "\u062a\u062e"),
   (0xFC0E, "\u062a\u0645"), (0xFC0F, "\u062a\u0649"), (0xFC10, "\u062a\u064a"),
   (0xFC11, "\u062b\u062c"), (0xFC12, "\u062b\u0645"), (0xFC13, "\u062b\u0649"),
   (0xFC14, "\u062b\u064a"), (0xFC15, "\u062c\u062d"), (0xFC16, "\u062c\u0645"),
   (0xFC17, "\u062d\u062c"), (0xFC18, "\u062d\u0645"), (0xFC19, "\u062e\u062c"),
   (0xFC1A, "\u062e\u062d"), (0xFC1B, "\u062e\u0645"), (0xFC1C, "\u0633\u062c"),
   (0xFC1D, "\u0633\u062d"), (0xFC1E, "\u0633\u062e"), (0xFC1F, "\u0633\u0645"),
   (0xFC20, "\u0635\u062d"), (0xFC21, "\u0635\u0645"), (0xFC22, "\u0636\u062c"),
   (0xFC23, "\u0636\u062d"), (0xFC24, "\u0636\u062e"), (0xFC25, "\u0636\u0645"),
   (0xFC26, "\u0637\u062d"), (0xFC27, "\u0637\u0645"), (0xFC28, "\u0638\u0645"),
   (0xFC29, "\u0639\u062c"), (0xFC2A, "\u0639\u0645"), (0xFC2B, "\u063a\u062c"),
   (0xFC2C, "\u063a\u0645"), (0xFC2D, "\u0641\u062c"), (0xFC2E, "\u0641\u062d"),
   (0xFC2F, "\u0641\u062e"), (0xFC30, "\u0641\u0645"), (0xFC31, "\u0641\u0649"),
   (0xFC32, "\u0641\u064a"), (0xFC33, "\u0642\u062d"), (0xFC34, "\u0642\u0645"),
   (0xFC35, "\u0642\u0649"), (0xFC36, "\u0642\u064a"), (0xFC37, "\u0643\u0627"),
   (0xFC38, "\u0643\u062c"), (0xFC39, "\u0643\u062d"), (0xFC3A, "\u0643\u062e"),
   (0xFC3B, "\u0643\u0644"), (0xFC3C, "\u0643\u0645"), (0xFC3D, "\u0643\u0649"),
   (0xFC3E, "\u0643\u064a"), (0xFC3F, "\u0644\u062c"), (0xFC40, "\u0644\u062d"),
   (0xFC41, "\u0644\u062e"), (0xFC42, "\u0644\u0645"), (0xFC43, "\u0644\u0649"),
   (0xFC44, "\u0644\u064a"), (0xFC45, "\u0645\u062c"), (0xFC46, "\u0645\u062d"),
   (0xFC47, "\u0645\u062e"), (0xFC48, "\u0645\u0645"), (0xFC49, "\u0645\u0649"),
   (0xFC4A, "\u0645\u064a"), (0xFC4B, "\u0646\u062c"), (0xFC4C, "\u0646\u062d"),
   (0xFC4D, "\u0646\u062e"), (0xFC4E, "\u0646\u0645"), (0xFC4F, "\u0646\u0649"),
   (0xFC50, "\u0646\u064a"), (0xFC51, "\u0647\u062c"), (0xFC52, "\u0647\u0645"),
   (0xFC53, "\u0647\u0649"), (0xFC54, "\u0647\u064a"), (0xFC55, "\u064a\u062c"),
   (0xFC56, "\u064a\u062d"), (0xFC57, "\u064a\u062e"), (0xFC58, "\u064a\u0645"),
   (0xFC59, "\u064a\u0649"), (0xFC5A, "\u064a\u064a"), (0xFC5B, "\u0630\u0670"),
   (0xFC5C, "\u0631\u0670"), (0xFC5D, "\u0649\u0670"), (0xFC5E, " \u064c\u0651"),
   (0xFC5F, " \u064d\u0651"), (0xFC60, " \u064e\u0651"), (0xFC61, " \u064f\u0651"),
   (0xFC62, " \u0650\u0651"), (0xFC63, " \u0651\u0670"), (0xFC64, "\u0626\u0631"),
   (0xFC65, "\u0626\u0632"), (0xFC66, "\u0626\u0645"), (0xFC67, "\u0626\u0646"),
   (0xFC68, "\u0626\u0649"), (0xFC69, "\u0626\u064a"), (0xFC6A, "\u0628\u0631"),
   (0xFC6B, "\u0628\u0632"), (0xFC6C, "\u0628\u0645"), (0xFC6D, "\u0628\u0646"),
   (0xFC6E, "\u0628\u0649"), (0xFC6F, "\u0628\u064a"), (0xFC70, "\u062a\u0631"),
   (0xFC71, "\u062a\u0632"), (0xFC72, "\u062a\u0645"), (0xFC73, "\u062a\u0646"),
   (0xFC74, "\u062a\u0649"), (0xFC75, "\u062a\u064a"), (0xFC76, "\u062b\u0631"),
   (0xFC77, "\u062b\u0632"), (0xFC78, "\u062b\u0645"), (0xFC79, "\u062b\u0646"),
   (0xFC7A, "\u062b\u0649"), (0xFC7B, "\u062b\u064a"), (0xFC7C, "\u0641\u0649"),
   (0xFC7D, "\u0641\u064a"), (0xFC7E, "\u0642\u0649"), (0xFC7F, "\u0642\u064a"),
   (0xFC80, "\u0643\u0627"), (0xFC81, "\u0643\u0644"), (0xFC82, "\u0643\u0645"),
   (0xFC83, "\u0643\u0649"), (0xFC84, "\u0643\u064a"), (0xFC85, "\u0644\u0645"),
   (0xFC86, "\u0644\u0649"), (0xFC87, "\u0644\u064a"), (0xFC88, "\u0645\u0627"),
   (0xFC89, "\u0645\u0645"), (0xFC8A, "\u0646\u0631"), (0xFC8B, "\u0646\u0632"),
   (0xFC8C, "\u0646\u0645"), (0xFC8D, "\u0646\u0646"), (0xFC8E, "\u0646\u0649"),
   (0xFC8F, "\u0646\u064a"), (0xFC90, "\u0649\u0670"), (0xFC91, "\u064a\u0631"),
   (0xFC92, "\u064a\u0632"), (0xFC93, "\u064a\u0645"), (0xFC94, "\u064a\u0646"),
   (0xFC95, "\u064a\u0649"), (0xFC96, "\u064a\u064a"), (0xFC97, "\u0626\u062c"),
   (0xFC98, "\u0626\u062d"), (0xFC99, "\u0626\u062e"), (0xFC9A, "\u0626\u0645"),
   (0xFC9B, "\u0626\u0647"), (0xFC9C, "\u0628\u062c"), (0xFC9D, "\u0628\u062d"),
   (0xFC9E, "\u0628\u062e"), (0xFC9F, "\u0628\u0645"), (0xFCA0, "\u0628\u0647"),
   (0xFCA1, "\u062a\u062c"), (0xFCA2, "\u062a\u062d"), (0xFCA3, "\u062a\u062e"),
   (0xFCA4, "\u062a\u0645"), (0xFCA5, "\u062a\u0647"), (0xFCA6, "\u062b\u0645"),
   (0xFCA7, "\u062c\u062d"), (0xFCA8, "\u062c\u0645"), (0xFCA9, "\u062d\u062c"),
   (0xFCAA, "\u062d\u0645"), (0xFCAB, "\u062e\u062c"), (0xFCAC, "\u062e\u0645"),
   (0xFCAD, "\u0633\u062c"), (0xFCAE, "\u0633\u062d"), (0xFCAF, "\u0633\u062e"),
   (0xFCB0, "\u0633\u0645"), (0xFCB1, "\u0635\u062d"), (0xFCB2, "\u0635\u062e"),
   (0xFCB3, "\u0635\u0645"), (0xFCB4, "\u0636\u062c"), (0xFCB5, "\u0636\u062d"),
   (0xFCB6, "\u0636\u062e"), (0xFCB7, "\u0636\u0645"), (0xFCB8, "\u0637\u062d"),
   (0xFCB9, "\u0638\u0645"), (0xFCBA, "\u0639\u062c"), (0xFCBB, "\u0639\u0645"),
   (0xFCBC, "\u063a\u062c"), (0xFCBD, "\u063a\u0645"), (0xFCBE, "\u0641\u062c"),
   (0xFCBF, "\u0641\u062d"), (0xFCC0, "\u0641\u062e"), (0xFCC1, "\u0641\u0645"),
   (0xFCC2, "\u0642\u062d"), (0xFCC3, "\u0642\u0645"), (0xFCC4, "\u0643\u062c"),
   (0xFCC5, "\u0643\u062d"), (0xFCC6, "\u0643\u062e"), (0xFCC7, "\u0643\u0644"),
   (0xFCC8, "\u0643\u0645"), (0xFCC9, "\u0644\u062c"), (0xFCCA, "\u0644\u062d"),
   (0xFCCB, "\u0644\u062e"), (0xFCCC, "\u0644\u0645"), (0xFCCD, "\u0644\u0647"),
   (0xFCCE, "\u0645\u062c"), (0xFCCF, "\u0645\u062d"), (0xFCD0, "\u0645\u062e"),
   (0xFCD1, "\u0645\u0645"), (0xFCD2, "\u0646\u062c"), (0xFCD3, "\u0646\u062d"),
   (0xFCD4, "\u0646\u062e"), (0xFCD5, "\u0646\u0645"), (0xFCD6, "\u0646\u0647"),
   (0xFCD7, "\u0647\u062c"), (0xFCD8, "\u0647\u0645"), (0xFCD9, "\u0647\u0670"),
   (0xFCDA, "\u064a\u062c"), (0xFCDB, "\u064a\u062d"), (0xFCDC, "\u064a\u062e"),
   (0xFCDD, "\u064a\u0645"), (0xFCDE, "\u064a\u0647"), (0xFCDF, "\u0626\u0645"),
   (0xFCE0, "\u0626\u0647"), (0xFCE1, "\u0628\u0645"), (0xFCE2, "\u0628\u0647"),
   (0xFCE3, "\u062a\u0645"), (0xFCE4, "\u062a\u0647"), (0xFCE5, "\u062b\u0645"),
   (0xFCE6, "\u062b\u0647"), (0xFCE7, "\u0633\u0645"), (0xFCE8, "\u0633\u0647"),
   (0xFCE9, "\u0634\u0645"), (0xFCEA, "\u0634\u0647"), (0xFCEB, "\u0643\u0644"),
   (0xFCEC, "\u0643\u0645"), (0xFCED, "\u0644\u0645"), (0xFCEE, "\u0646\u0645"),
   (0xFCEF, "\u0646\u0647"), (0xFCF0, "\u064a\u0645"), (0xFCF1, "\u064a\u0647"),
   (0xFCF2, "\u0640\u064e\u0651"), (0xFCF3, "\u0640\u064f\u0651"), (0xFCF4, "\u0640\u0650\u0651"),
   (0xFCF5, "\u0637\u0649"), (0xFCF6, "\u0637\u064a"), (0xFCF7, "\u0639\u0649"),
   (0xFCF8, "\u0639\u064a"), (0xFCF9, "\u063a\u0649"), (0xFCFA, "\u063a\u064a"),
   (0xFCFB, "\u0633\u0649"), (0xFCFC, "\u0633\u064a"), (0xFCFD, "\u0634\u0649"),
   (0xFCFE, "\u0634\u064a"), (0xFCFF, "\u062d\u0649"), (0xFD00, "\u062d\u064a"),
   (0xFD01, "\u062c\u0649"), (0xFD02, "\u062c\u064a"), (0xFD03, "\u062e\u0649"),
   (0xFD04, "\u062e\u064a"), (0xFD05, "\u0635\u0649"), (0xFD06, "\u0635\u064a"),
   (0xFD07, "\u0636\u0649"), (0xFD08, "\u0636\u064a"), (0xFD09, "\u0634\u062c"),
   (0xFD0A, "\u0634\u062d"), (0xFD0B, "\u0634\u062e"), (0xFD0C, "\u0634\u0645"),
   (0xFD0D, "\u0634\u0631"), (0xFD0E, "\u0633\u0631"), (0xFD0F, "\u0635\u0631"),
   (0xFD10, "\u0636\u0631"), (0xFD11, "\u0637\u0649"), (0xFD12, "\u0637\u064a"),
   (0xFD13, "\u0639\u0649"), (0xFD14, "\u0639\u064a"), (0xFD15, "\u063a\u0649"),
   (0xFD16, "\u063a\u064a"), (0xFD17, "\u0633\u0649"), (0xFD18, "\u0633\u064a"),
   (0xFD19, "\u0634\u0649"), (0xFD1A, "\u0634\u064a"), (0xFD1B, "\u062d\u0649"),
   (0xFD1C, "\u062d\u064a"), (0xFD1D, "\u062c\u0649"), (0xFD1E, "\u062c\u064a"),
   (0xFD1F, "\u062e\u0649"), (0xFD20, "\u062e\u064a"), (0xFD21, "\u0635\u0649"),
   (0xFD22, "\u0635\u064a"), (0xFD23, "\u0636\u0649"), (0xFD24, "\u0636\u064a"),
   (0xFD25, "\u0634\u062c"), (0xFD26, "\u0634\u062d"), (0xFD27, "\u0634\u062e"),
   (0xFD28, "\u0634\u0645"), (0xFD29, "\u0634\u0631"), (0xFD2A, "\u0633\u0631"),
   (0xFD2B, "\u0635\u0631"), (0xFD2C, "\u0636\u0631"), (0xFD2D, "\u0634\u062c"),
   (0xFD2E, "\u0634\u062d"), (0xFD2F, "\u0634\u062e"), (0xFD30, "\u0634\u0645"),
   (0xFD31, "\u0633\u0647"), (0xFD32, "\u0634\u0647"), (0xFD33, "\u0637\u0645"),
   (0xFD34, "\u0633\u062c"), (0xFD35, "\u0633\u062d"), (0xFD36, "\u0633\u062e"),
   (0xFD37, "\u0634\u062c"), (0xFD38, "\u0634\u062d"), (0xFD39, "\u0634\u062e"),
   (0xFD3A, "\u0637\u0645"), (0xFD3B, "\u0638\u0645"), (0xFD3C, "\u0627\u064b"),
   (0xFD3D, "\u0627\u064b"), (0xFD50, "\u062a\u062c\u0645"), (0xFD51, "\u062a\u062d\u062c"),
   (0xFD52, "\u062a\u062d\u062c"), (0xFD53, "\u062a\u062d\u0645"), (0xFD54, "\u062a\u062e\u0645"),
   (0xFD55, "\u062a\u0645\u062c"), (0xFD56, "\u062a\u0645\u062d"), (0xFD57, "\u062a\u0645\u062e"),
   (0xFD58, "\u062c\u0645\u062d"), (0xFD59, "\u062c\u0645\u062d"), (0xFD5A, "\u062d\u0645\u064a"),
   (0xFD5B, "\u062d\u0645\u0649"), (0xFD5C, "\u0633\u062d\u062c"), (0xFD5D, "\u0633\u062c\u062d"),
   (0xFD5E, "\u0633\u062c\u0649"), (0xFD5F, "\u0633\u0645\u062d"), (0xFD60, "\u0633\u0645\u062d"),
   (0xFD61, "\u0633\u0645\u062c"), (0xFD62, "\u0633\u0645\u0645"), (0xFD63, "\u0633\u0645\u0645"),
   (0xFD64, "\u0635\u062d\u062d"), (0xFD65, "\u0635\u062d\u062d"), (0xFD66, "\u0635\u0645\u0645"),
   (0xFD67, "\u0634\u062d\u0645"), (0xFD68, "\u0634\u062d\u0645"), (0xFD69, "\u0634\u062c\u064a"),
   (0xFD6A, "\u0634\u0645\u062e"), (0xFD6B, "\u0634\u0645\u062e"), (0xFD6C, "\u0634\u0645\u0645"),
   (0xFD6D, "\u0634\u0645\u0645"), (0xFD6E, "\u0636\u062d\u0649"), (0xFD6F, "\u0636\u062e\u0645"),
   (0xFD70, "\u0636\u062e\u0645"), (0xFD71, "\u0637\u0645\u062d"), (0xFD72, "\u0637\u0645\u062d"),
   (0xFD73, "\u0637\u0645\u0645"), (0xFD74, "\u0637\u0645\u064a"), (0xFD75, "\u0639\u062c\u0645"),
   (0xFD76, "\u0639\u0645\u0645"), (0xFD77, "\u0639\u0645\u0645"), (0xFD78, "\u0639\u0645\u0649"),
   (0xFD79, "\u063a\u0645\u0645"), (0xFD7A, "\u063a\u0645\u064a"), (0xFD7B, "\u063a\u0645\u0649"),
   (0xFD7C, "\u0641\u062e\u0645"), (0xFD7D, "\u0641\u062e\u0645"), (0xFD7E, "\u0642\u0645\u062d"),
   (0xFD7F, "\u0642\u0645\u0645"), (0xFD80, "\u0644\u062d\u0645"), (0xFD81, "\u0644\u062d\u064a"),
   (0xFD82, "\u0644\u062d\u0649"), (0xFD83, "\u0644\u062c\u062c"), (0xFD84, "\u0644\u062c\u062c"),
   (0xFD85, "\u0644\u062e\u0645"), (0xFD86, "\u0644\u062e\u0645"), (0xFD87, "\u0644\u0645\u062d"),
   (0xFD88, "\u0644\u0645\u062d"), (0xFD89, "\u0645\u062d\u062c"), (0xFD8A, "\u0645\u062d\u0645"),
   (0xFD8B, "\u0645\u062d\u064a"), (0xFD8C, "\u0645\u062c\u062d"), (0xFD8D, "\u0645\u062c\u0645"),
   (0xFD8E, "\u0645\u062e\u062c"), (0xFD8F, "\u0645\u062e\u0645"), (0xFD92, "\u0645\u062c\u062e"),
   (0xFD93, "\u0647\u0645\u062c"), (0xFD94, "\u0647\u0645\u0645"), (0xFD95, "\u0646\u062d\u0645"),
   (0xFD96, "\u0646\u062d\u0649"), (0xFD97, "\u0646\u062c\u0645"), (0xFD98, "\u0646\u062c\u0645"),
   (0xFD99, "\u0646\u062c\u0649"), (0xFD9A, "\u0646\u0645\u064a"), (0xFD9B, "\u0646\u0645\u0649"),
   (0xFD9C, "\u064a\u0645\u0645"), (0xFD9D, "\u064a\u0645\u0645"), (0xFD9E, "\u0628\u062e\u064a"),
   (0xFD9F, "\u062a\u062c\u064a"), (0xFDA0, "\u062a\u062c\u0649"), (0xFDA1, "\u062a\u062e\u064a"),
   (0xFDA2, "\u062a\u062e\u0649"), (0xFDA3, "\u062a\u0645\u064a"), (0xFDA4, "\u062a\u0645\u0649"),
   (0xFDA5, "\u062c\u0645\u064a"), (0xFDA6, "\u062c\u062d\u0649"), (0xFDA7, "\u062c\u0645\u0649"),
   (0xFDA8, "\u0633\u062e\u0649"), (0xFDA9, "\u0635\u062d\u064a"), (0xFDAA, "\u0634\u062d\u064a"),
   (0xFDAB, "\u0636\u062d\u064a"), (0xFDAC, "\u0644\u062c\u064a"), (0xFDAD, "\u0644\u0645\u064a"),
   (0xFDAE, "\u064a\u062d\u064a"), (0xFDAF, "\u064a\u062c\u064a"), (0xFDB0, "\u064a\u0645\u064a"),
   (0xFDB1, "\u0645\u0645\u064a"), (0xFDB2, "\u0642\u0645\u064a"), (0xFDB3, "\u0646\u062d\u064a"),
   (0xFDB4, "\u0642\u0645\u062d"), (0xFDB5, "\u0644\u062d\u0645"), (0xFDB6, "\u0639\u0645\u064a"),
   (0xFDB7, "\u0643\u0645\u064a"), (0xFDB8, "\u0646\u062c\u062d"), (0xFDB9, "\u0645\u062e\u064a"),
   (0xFDBA, "\u0644\u062c\u0645"), (0xFDBB, "\u0643\u0645\u0645"), (0xFDBC, "\u0644\u062c\u0645"),
   (0xFDBD, "\u0646\u062c\u062d"), (0xFDBE, "\u062c\u062d\u064a"), (0xFDBF, "\u062d\u062c\u064a"),
   (0xFDC0, "\u0645\u062c\u064a"), (0xFDC1, "\u0641\u0645\u064a"), (0xFDC2, "\u0628\u062d\u064a"),
   (0xFDC3, "\u0643\u0645\u0645"), (0xFDC4, "\u0639\u062c\u0645"), (0xFDC5, "\u0635\u0645\u0645"),
   (0xFDC6, "\u0633\u062e\u064a"), (0xFDC7, "\u0646\u062c\u064a"), (0xFDF0, "\u0635\u0644\u06d2"),
   (0xFDF1, "\u0642\u0644\u06d2"), (0xFDF2, "\u0627\u0644\u0644\u0647"),
   (0xFDF3, "\u0627\u0643\u0628\u0631"), (0xFDF4, "\u0645\u062d\u0645\u062f"),
   (0xFDF5, "\u0635\u0644\u0639\u0645"), (0xFDF6, "\u0631\u0633\u0648\u0644"),
   (0xFDF7, "\u0639\u0644\u064a\u0647"), (0xFDF8, "\u0648\u0633\u0644\u0645"),
   (0xFDF9, "\u0635\u0644\u0649"),
   (0xFDFA, "\u0635\u0644\u0649 \u0627\u0644\u0644\u0647 \u0639\u0644\u064a\u0647 \u0648\u0633\u0644\u0645"),
   (0xFDFB, "\u062c\u0644 \u062c\u0644\u0627\u0644\u0647"), (0xFDFC, "\u0631\u06cc\u0627\u0644"),
   (0xFE10, ","), (0xFE11, "\u3001"), (0xFE13, ":"), (0xFE14, ";"), (0xFE15, "!"), (0xFE16, "?"),
   (0xFE17, "\u3016"), (0xFE18, "\u3017"), (0xFE31, "\u2014"), (0xFE32, "\u2013"), (0xFE33, "_"),
   (0xFE34, "_"), (0xFE35, "("), (0xFE36, ")"), (0xFE37, "\x7b"), (0xFE38, "\x7d"),
   (0xFE39, "\u3014"), (0xFE3A, "\u3015"), (0xFE3B, "\u3010"), (0xFE3C, "\u3011"),
   (0xFE3D, "\u300a"), (0xFE3E, "\u300b"), (0xFE3F, "\u3008"), (0xFE40, "\u3009"), (0xFE47, "["),
   (0xFE48, "]"), (0xFE49, " \u0305"), (0xFE4A, " \u0305"), (0xFE4B, " \u0305"),
   (0xFE4C, " \u0305"), (0xFE4D, "_"), (0xFE4E, "_"), (0xFE4F, "_"), (0xFE50, ","),
   (0xFE51, "\u3001"), (0xFE54, ";"), (0xFE55, ":"), (0xFE56, "?"), (0xFE57, "!"),
   (0xFE58, "\u2014"), (0xFE59, "("), (0xFE5A, ")"), (0xFE5B, "\x7b"), (0xFE5C, "\x7d"),
   (0xFE5D, "\u3014"), (0xFE5E, "\u3015"), (0xFE5F, "#"), (0xFE60, "&"), (0xFE61, "*"),
   (0xFE62, "+"), (0xFE63, "-"), (0xFE64, "<"), (0xFE65, ">"), (0xFE66, "="), (0xFE68, "\\"),
   (0xFE69, "$"), (0xFE6A, "%"), (0xFE6B, "@"), (0xFE70, " \u064b"), (0xFE71, "\u0640\u064b"),
   (0xFE72, " \u064c"), (0xFE74, " \u064d"), (0xFE76, " \u064e"), (0xFE77, "\u0640\u064e"),
   (0xFE78, " \u064f"), (0xFE79, "\u0640\u064f"), (0xFE7A, " \u0650"), (0xFE7B, "\u0640\u0650"),
   (0xFE7C, " \u0651"), (0xFE7D, "\u0640\u0651"), (0xFE7E, " \u0652"), (0xFE7F, "\u0640\u0652"),
   (0xFE80, "\u0621"), (0xFE81, "\u0622"), (0xFE82, "\u0622"), (0xFE83, "\u0623"),
   (0xFE84, "\u0623"), (0xFE85, "\u0624"), (0xFE86, "\u0624"), (0xFE87, "\u0625"),
   (0xFE88, "\u0625"), (0xFE89, "\u0626"), (0xFE8A, "\u0626"), (0xFE8B, "\u0626"),
   (0xFE8C, "\u0626"), (0xFE8D, "\u0627"), (0xFE8E, "\u0627"), (0xFE8F, "\u0628"),
   (0xFE90, "\u0628"), (0xFE91, "\u0628"), (0xFE92, "\u0628"), (0xFE93, "\u0629"),
   (0xFE94, "\u0629"), (0xFE95, "\u062a"), (0xFE96, "\u062a"), (0xFE97, "\u062a"),
   (0xFE98, "\u062a"), (0xFE99, "\u062b"), (0xFE9A, "\u062b"), (0xFE9B, "\u062b"),
   (0xFE9C, "\u062b"), (0xFE9D, "\u062c"), (0xFE9E, "\u062c"), (0xFE9F, "\u062c"),
   (0xFEA0, "\u062c"), (0xFEA1, "\u062d"), (0xFEA2, "\u062d"), (0xFEA3, "\u062d"),
   (0xFEA4, "\u062d"), (0xFEA5, "\u062e"), (0xFEA6, "\u062e"), (0xFEA7, "\u062e"),
   (0xFEA8, "\u062e"), (0xFEA9, "\u062f"), (0xFEAA, "\u062f"), (0xFEAB, "\u0630"),
   (0xFEAC, "\u0630"), (0xFEAD, "\u0631"), (0xFEAE, "\u0631"), (0xFEAF, "\u0632"),
   (0xFEB0, "\u0632"), (0xFEB1, "\u0633"), (0xFEB2, "\u0633"), (0xFEB3, "\u0633"),
   (0xFEB4, "\u0633"), (0xFEB5, "\u0634"), (0xFEB6, "\u0634"), (0xFEB7, "\u0634"),
   (0xFEB8, "\u0634"), (0xFEB9, "\u0635"), (0xFEBA, "\u0635"), (0xFEBB, "\u0635"),
   (0xFEBC, "\u0635"), (0xFEBD, "\u0636"), (0xFEBE, "\u0636"), (0xFEBF, "\u0636"),
   (0xFEC0, "\u0636"), (0xFEC1, "\u0637"), (0xFEC2, "\u0637"), (0xFEC3, "\u0637"),
   (0xFEC4, "\u0637"), (0xFEC5, "\u0638"), (0xFEC6, "\u0638"), (0xFEC7, "\u0638"),
   (0xFEC8, "\u0638"), (0xFEC9, "\u0639"), (0xFECA, "\u0639"), (0xFECB, "\u0639"),
   (0xFECC, "\u0639"), (0xFECD, "\u063a"), (0xFECE, "\u063a"), (0xFECF, "\u063a"),
   (0xFED0, "\u063a"), (0xFED1, "\u0641"), (0xFED2, "\u0641"), (0xFED3, "\u0641"),
   (0xFED4, "\u0641"), (0xFED5, "\u0642"), (0xFED6, "\u0642"), (0xFED7, "\u0642"),
   (0xFED8, "\u0642"), (0xFED9, "\u0643"), (0xFEDA, "\u0643"), (0xFEDB, "\u0643"),
   (0xFEDC, "\u0643"), (0xFEDD, "\u0644"), (0xFEDE, "\u0644"), (0xFEDF, "\u0644"),
   (0xFEE0, "\u0644"), (0xFEE1, "\u0645"), (0xFEE2, "\u0645"), (0xFEE3, "\u0645"),
   (0xFEE4, "\u0645"), (0xFEE5, "\u0646"), (0xFEE6, "\u0646"), (0xFEE7, "\u0646"),
   (0xFEE8, "\u0646"), (0xFEE9, "\u0647"), (0xFEEA, "\u0647"), (0xFEEB, "\u0647"),
   (0xFEEC, "\u0647"), (0xFEED, "\u0648"), (0xFEEE, "\u0648"), (0xFEEF, "\u0649"),
   (0xFEF0, "\u0649"), (0xFEF1, "\u064a"), (0xFEF2, "\u064a"), (0xFEF3, "\u064a"),
   (0xFEF4, "\u064a"), (0xFEF5, "\u0644\u0622"), (0xFEF6, "\u0644\u0622"),
   (0xFEF7, "\u0644\u0623"), (0xFEF8, "\u0644\u0623"), (0xFEF9, "\u0644\u0625"),
   (0xFEFA, "\u0644\u0625"), (0xFEFB, "\u0644\u0627"), (0xFEFC, "\u0644\u0627"),
   (0xFF5F, "\u2985"), (0xFF60, "\u2986"), (0xFF61, "."), (0xFF62, "\u300c"), (0xFF63, "\u300d"),
   (0xFF64, "\u3001"), (0xFF65, "\u30fb"), (0xFF66, "\u30f2"), (0xFF67, "\u30a1"),
   (0xFF68, "\u30a3"), (0xFF69, "\u30a5"), (0xFF6A, "\u30a7"), (0xFF6B, "\u30a9"),
   (0xFF6C, "\u30e3"), (0xFF6D, "\u30e5"), (0xFF6E, "\u30e7"), (0xFF6F, "\u30c3"),
   (0xFF70, "\u30fc"), (0xFF71, "\u30a2"), (0xFF72, "\u30a4"), (0xFF73, "\u30a6"),
   (0xFF74, "\u30a8"), (0xFF75, "\u30aa"), (0xFF76, "\u30ab"), (0xFF77, "\u30ad"),
   (0xFF78, "\u30af"), (0xFF79, "\u30b1"), (0xFF7A, "\u30b3"), (0xFF7B, "\u30b5"),
   (0xFF7C, "\u30b7"), (0xFF7D, "\u30b9"), (0xFF7E, "\u30bb"), (0xFF7F, "\u30bd"),
   (0xFF80, "\u30bf"), (0xFF81, "\u30c1"), (0xFF82, "\u30c4"), (0xFF83, "\u30c6"),
   (0xFF84, "\u30c8"), (0xFF8B, "\u30d2"), (0xFF8C, "\u30d5"), (0xFF8D, "\u30d8"),
   (0xFF8E, "\u30db"), (0xFF94, "\u30e4"), (0xFF95, "\u30e6"), (0xFF9C, "\u30ef"),
   (0xFF9D, "\u30f3"), (0xFF9E, "\u3099"), (0xFF9F, "\u309a"), (0xFFA1, "\u1100"),
   (0xFFA2, "\u1101"), (0xFFA3, "\u11aa"), (0xFFA4, "\u1102"), (0xFFA5, "\u11ac"),
   (0xFFA6, "\u11ad"), (0xFFB0, "\u111a"), (0xFFB4, "\u1121"), (0xFFE0, "\u00a2"),
   (0xFFE1, "\u00a3"), (0xFFE2, "\u00ac"), (0xFFE3, " \u0304"), (0xFFE4, "\u00a6"),
   (0xFFE5, "\u00a5"), (0xFFE6, "\u20a9"), (0xFFE8, "\u2502"), (0xFFED, "\u25a0"),
   (0xFFEE, "\u25cb")]

/-- Characters outside the first plane. -/
def planeSpellings : List (Nat × String) :=
  [(0x10595, "𐖼"), (0x10781, "\u02d0"), (0x10782, "\u02d1"), (0x10783, "\u00e6"),
   (0x10784, "\u0299"), (0x10785, "\u0253"), (0x10787, "\u02a3"), (0x10788, "\uab66"),
   (0x10789, "\u02a5"), (0x1078A, "\u02a4"), (0x1078B, "\u0256"), (0x1078C, "\u0257"),
   (0x1078D, "\u1d91"), (0x1078E, "\u0258"), (0x1078F, "\u025e"), (0x10790, "\u02a9"),
   (0x10791, "\u0264"), (0x10792, "\u0262"), (0x10793, "\u0260"), (0x10794, "\u029b"),
   (0x10795, "\u0127"), (0x10796, "\u029c"), (0x10797, "\u0267"), (0x10798, "\u0284"),
   (0x10799, "\u02aa"), (0x1079A, "\u02ab"), (0x1079B, "\u026c"), (0x1079C, "𝼄"),
   (0x1079D, "\ua78e"), (0x1079E, "\u026e"), (0x1079F, "𝼅"), (0x107A0, "\u028e"), (0x107A1, "𝼆"),
   (0x107A2, "\u00f8"), (0x107A3, "\u0276"), (0x107A4, "\u0277"), (0x107A5, "q"),
   (0x107A6, "\u027a"), (0x107A7, "𝼈"), (0x107A8, "\u027d"), (0x107A9, "\u027e"),
   (0x107AA, "\u0280"), (0x107AB, "\u02a8"), (0x107AC, "\u02a6"), (0x107AD, "\uab67"),
   (0x107AE, "\u02a7"), (0x107AF, "\u0288"), (0x107B0, "\u2c71"), (0x107B2, "\u028f"),
   (0x107B3, "\u02a1"), (0x107B4, "\u02a2"), (0x107B5, "\u0298"), (0x107B9, "𝼊"), (0x107BA, "𝼞"),
   (0x1D15E, "𝅗𝅥"), (0x1D15F, "𝅘𝅥"), (0x1D160, "𝅘𝅥𝅮"), (0x1D161, "𝅘𝅥𝅯"), (0x1D162, "𝅘𝅥𝅰"),
   (0x1D163, "𝅘𝅥𝅱"), (0x1D164, "𝅘𝅥𝅲"), (0x1D1BB, "𝆹𝅥"), (0x1D1BC, "𝆺𝅥"), (0x1D1BD, "𝆹𝅥𝅮"),
   (0x1D1BE, "𝆺𝅥𝅮"), (0x1D1BF, "𝆹𝅥𝅯"), (0x1D1C0, "𝆺𝅥𝅯"), (0x1D49C, "a"), (0x1D49E, "c"),
   (0x1D49F, "d"), (0x1D4A2, "g"), (0x1D4A5, "j"), (0x1D4A6, "k"), (0x1D504, "a"), (0x1D508, "e"),
   (0x1D50A, "g"), (0x1D538, "a"), (0x1D541, "j"), (0x1D543, "l"), (0x1D6A4, "\u0131"),
   (0x1D6A5, "\u0237"), (0x1D6B9, "\u03b8"), (0x1D6C1, "\u2207"), (0x1D6D3, "\u03c3"),
   (0x1D6DB, "\u2202"), (0x1D6DC, "\u03b5"), (0x1D6DD, "\u03b8"), (0x1D6DE, "\u03ba"),
   (0x1D6DF, "\u03c6"), (0x1D6E0, "\u03c1"), (0x1D6E1, "\u03c0"), (0x1D6F3, "\u03b8"),
   (0x1D6FB, "\u2207"), (0x1D70D, "\u03c3"), (0x1D715, "\u2202"), (0x1D716, "\u03b5"),
   (0x1D717, "\u03b8"), (0x1D718, "\u03ba"), (0x1D719, "\u03c6"), (0x1D71A, "\u03c1"),
   (0x1D71B, "\u03c0"), (0x1D72D, "\u03b8"), (0x1D735, "\u2207"), (0x1D747, "\u03c3"),
   (0x1D74F, "\u2202"), (0x1D750, "\u03b5"), (0x1D751, "\u03b8"), (0x1D752, "\u03ba"),
   (0x1D753, "\u03c6"), (0x1D754, "\u03c1"), (0x1D755, "\u03c0"), (0x1D767, "\u03b8"),
   (0x1D76F, "\u2207"), (0x1D781, "\u03c3"), (0x1D789, "\u2202"), (0x1D78A, "\u03b5"),
   (0x1D78B, "\u03b8"), (0x1D78C, "\u03ba"), (0x1D78D, "\u03c6"), (0x1D78E, "\u03c1"),
   (0x1D78F, "\u03c0"), (0x1D7A1, "\u03b8"), (0x1D7A9, "\u2207"), (0x1D7BB, "\u03c3"),
   (0x1D7C3, "\u2202"), (0x1D7C4, "\u03b5"), (0x1D7C5, "\u03b8"), (0x1D7C6, "\u03ba"),
   (0x1D7C7, "\u03c6"), (0x1D7C8, "\u03c1"), (0x1D7C9, "\u03c0"), (0x1D7CA, "\u03dd"),
   (0x1D7CB, "\u03dd"), (0x1E047, "\u044b"), (0x1E048, "\u044d"), (0x1E049, "\u044e"),
   (0x1E04A, "\ua689"), (0x1E04B, "\u04d9"), (0x1E04C, "\u0456"), (0x1E04D, "\u0458"),
   (0x1E04E, "\u04e9"), (0x1E04F, "\u04af"), (0x1E050, "\u04cf"), (0x1E05A, "\u043a"),
   (0x1E05B, "\u043b"), (0x1E05C, "\u043e"), (0x1E05D, "\u043f"), (0x1E05E, "\u0441"),
   (0x1E065, "\u044a"), (0x1E066, "\u044b"), (0x1E067, "\u0491"), (0x1E068, "\u0456"),
   (0x1E069, "\u0455"), (0x1E06A, "\u045f"), (0x1E06B, "\u04ab"), (0x1E06C, "\ua651"),
   (0x1E06D, "\u04b1"), (0x1EE00, "\u0627"), (0x1EE01, "\u0628"), (0x1EE02, "\u062c"),
   (0x1EE03, "\u062f"), (0x1EE05, "\u0648"), (0x1EE06, "\u0632"), (0x1EE07, "\u062d"),
   (0x1EE08, "\u0637"), (0x1EE09, "\u064a"), (0x1EE0E, "\u0633"), (0x1EE0F, "\u0639"),
   (0x1EE10, "\u0641"), (0x1EE11, "\u0635"), (0x1EE12, "\u0642"), (0x1EE13, "\u0631"),
   (0x1EE14, "\u0634"), (0x1EE15, "\u062a"), (0x1EE16, "\u062b"), (0x1EE17, "\u062e"),
   (0x1EE18, "\u0630"), (0x1EE19, "\u0636"), (0x1EE1A, "\u0638"), (0x1EE1B, "\u063a"),
   (0x1EE1C, "\u066e"), (0x1EE1D, "\u06ba"), (0x1EE1E, "\u06a1"), (0x1EE1F, "\u066f"),
   (0x1EE21, "\u0628"), (0x1EE22, "\u062c"), (0x1EE24, "\u0647"), (0x1EE27, "\u062d"),
   (0x1EE29, "\u064a"), (0x1EE2E, "\u0633"), (0x1EE2F, "\u0639"), (0x1EE30, "\u0641"),
   (0x1EE31, "\u0635"), (0x1EE32, "\u0642"), (0x1EE34, "\u0634"), (0x1EE35, "\u062a"),
   (0x1EE36, "\u062b"), (0x1EE37, "\u062e"), (0x1EE39, "\u0636"), (0x1EE3B, "\u063a"),
   (0x1EE42, "\u062c"), (0x1EE47, "\u062d"), (0x1EE49, "\u064a"), (0x1EE4B, "\u0644"),
   (0x1EE4D, "\u0646"), (0x1EE4E, "\u0633"), (0x1EE4F, "\u0639"), (0x1EE51, "\u0635"),
   (0x1EE52, "\u0642"), (0x1EE54, "\u0634"), (0x1EE57, "\u062e"), (0x1EE59, "\u0636"),
   (0x1EE5B, "\u063a"), (0x1EE5D, "\u06ba"), (0x1EE5F, "\u066f"), (0x1EE61, "\u0628"),
   (0x1EE62, "\u062c"), (0x1EE64, "\u0647"), (0x1EE67, "\u062d"), (0x1EE68, "\u0637"),
   (0x1EE69, "\u064a"), (0x1EE6A, "\u0643"), (0x1EE6C, "\u0645"), (0x1EE6D, "\u0646"),
   (0x1EE6E, "\u0633"), (0x1EE6F, "\u0639"), (0x1EE70, "\u0641"), (0x1EE71, "\u0635"),
   (0x1EE72, "\u0642"), (0x1EE74, "\u0634"), (0x1EE75, "\u062a"), (0x1EE76, "\u062b"),
   (0x1EE77, "\u062e"), (0x1EE79, "\u0636"), (0x1EE7A, "\u0638"), (0x1EE7B, "\u063a"),
   (0x1EE7C, "\u066e"), (0x1EE7E, "\u06a1"), (0x1EE80, "\u0627"), (0x1EE81, "\u0628"),
   (0x1EE82, "\u062c"), (0x1EE83, "\u062f"), (0x1EE84, "\u0647"), (0x1EE85, "\u0648"),
   (0x1EE86, "\u0632"), (0x1EE87, "\u062d"), (0x1EE88, "\u0637"), (0x1EE89, "\u064a"),
   (0x1EE8E, "\u0633"), (0x1EE8F, "\u0639"), (0x1EE90, "\u0641"), (0x1EE91, "\u0635"),
   (0x1EE92, "\u0642"), (0x1EE93, "\u0631"), (0x1EE94, "\u0634"), (0x1EE95, "\u062a"),
   (0x1EE96, "\u062b"), (0x1EE97, "\u062e"), (0x1EE98, "\u0630"), (0x1EE99, "\u0636"),
   (0x1EE9A, "\u0638"), (0x1EE9B, "\u063a"), (0x1EEA1, "\u0628"), (0x1EEA2, "\u062c"),
   (0x1EEA3, "\u062f"), (0x1EEA5, "\u0648"), (0x1EEA6, "\u0632"), (0x1EEA7, "\u062d"),
   (0x1EEA8, "\u0637"), (0x1EEA9, "\u064a"), (0x1EEAE, "\u0633"), (0x1EEAF, "\u0639"),
   (0x1EEB0, "\u0641"), (0x1EEB1, "\u0635"), (0x1EEB2, "\u0642"), (0x1EEB3, "\u0631"),
   (0x1EEB4, "\u0634"), (0x1EEB5, "\u062a"), (0x1EEB6, "\u062b"), (0x1EEB7, "\u062e"),
   (0x1EEB8, "\u0630"), (0x1EEB9, "\u0636"), (0x1EEBA, "\u0638"), (0x1EEBB, "\u063a"),
   (0x1F101, "0,"), (0x1F102, "1,"), (0x1F103, "2,"), (0x1F104, "3,"), (0x1F105, "4,"),
   (0x1F106, "5,"), (0x1F107, "6,"), (0x1F108, "7,"), (0x1F109, "8,"), (0x1F10A, "9,"),
   (0x1F110, "(a)"), (0x1F111, "(b)"), (0x1F112, "(c)"), (0x1F113, "(d)"), (0x1F114, "(e)"),
   (0x1F115, "(f)"), (0x1F116, "(g)"), (0x1F117, "(h)"), (0x1F118, "(i)"), (0x1F119, "(j)"),
   (0x1F11A, "(k)"), (0x1F11B, "(l)"), (0x1F11C, "(m)"), (0x1F11D, "(n)"), (0x1F11E, "(o)"),
   (0x1F11F, "(p)"), (0x1F120, "(q)"), (0x1F121, "(r)"), (0x1F122, "(s)"), (0x1F123, "(t)"),
   (0x1F124, "(u)"), (0x1F125, "(v)"), (0x1F126, "(w)"), (0x1F127, "(x)"), (0x1F128, "(y)"),
   (0x1F129, "(z)"), (0x1F12A, "\u3014s\u3015"), (0x1F12B, "c"), (0x1F12C, "r"), (0x1F12D, "cd"),
   (0x1F12E, "wz"), (0x1F14A, "hv"), (0x1F14B, "mv"), (0x1F14C, "sd"), (0x1F14D, "ss"),
   (0x1F14E, "ppv"), (0x1F14F, "wc"), (0x1F16A, "mc"), (0x1F16B, "md"), (0x1F16C, "mr"),
   (0x1F190, "dj"), (0x1F200, "\u307b\u304b"), (0x1F201, "\u30b3\u30b3"), (0x1F202, "\u30b5"),
   (0x1F210, "\u624b"), (0x1F211, "\u5b57"), (0x1F212, "\u53cc"), (0x1F213, "\u30c7"),
   (0x1F214, "\u4e8c"), (0x1F215, "\u591a"), (0x1F216, "\u89e3"), (0x1F217, "\u5929"),
   (0x1F218, "\u4ea4"), (0x1F219, "\u6620"), (0x1F21A, "\u7121"), (0x1F21B, "\u6599"),
   (0x1F21C, "\u524d"), (0x1F21D, "\u5f8c"), (0x1F21E, "\u518d"), (0x1F21F, "\u65b0"),
   (0x1F220, "\u521d"), (0x1F221, "\u7d42"), (0x1F222, "\u751f"), (0x1F223, "\u8ca9"),
   (0x1F224, "\u58f0"), (0x1F225, "\u5439"), (0x1F226, "\u6f14"), (0x1F227, "\u6295"),
   (0x1F228, "\u6355"), (0x1F229, "\u4e00"), (0x1F22A, "\u4e09"), (0x1F22B, "\u904a"),
   (0x1F22C, "\u5de6"), (0x1F22D, "\u4e2d"), (0x1F22E, "\u53f3"), (0x1F22F, "\u6307"),
   (0x1F230, "\u8d70"), (0x1F231, "\u6253"), (0x1F232, "\u7981"), (0x1F233, "\u7a7a"),
   (0x1F234, "\u5408"), (0x1F235, "\u6e80"), (0x1F236, "\u6709"), (0x1F237, "\u6708"),
   (0x1F238, "\u7533"), (0x1F239, "\u5272"), (0x1F23A, "\u55b6"), (0x1F23B, "\u914d"),
   (0x1F240, "\u3014\u672c\u3015"), (0x1F241, "\u3014\u4e09\u3015"),
   (0x1F242, "\u3014\u4e8c\u3015"), (0x1F243, "\u3014\u5b89\u3015"),
   (0x1F244, "\u3014\u70b9\u3015"), (0x1F245, "\u3014\u6253\u3015"),
   (0x1F246, "\u3014\u76d7\u3015"), (0x1F247, "\u3014\u52dd\u3015"),
   (0x1F248, "\u3014\u6557\u3015"), (0x1F250, "\u5f97"), (0x1F251, "\u53ef"), (0x2F800, "\u4e3d"),
   (0x2F801, "\u4e38"), (0x2F802, "\u4e41"), (0x2F803, "𠄢"), (0x2F804, "\u4f60"),
   (0x2F805, "\u4fae"), (0x2F806, "\u4fbb"), (0x2F807, "\u5002"), (0x2F808, "\u507a"),
   (0x2F809, "\u5099"), (0x2F80A, "\u50e7"), (0x2F80B, "\u50cf"), (0x2F80C, "\u349e"),
   (0x2F80D, "𠘺"), (0x2F80E, "\u514d"), (0x2F80F, "\u5154"), (0x2F810, "\u5164"),
   (0x2F811, "\u5177"), (0x2F812, "𠔜"), (0x2F813, "\u34b9"), (0x2F814, "\u5167"),
   (0x2F815, "\u518d"), (0x2F816, "𠕋"), (0x2F817, "\u5197"), (0x2F818, "\u51a4"),
   (0x2F819, "\u4ecc"), (0x2F81A, "\u51ac"), (0x2F81B, "\u51b5"), (0x2F81C, "𩇟"),
   (0x2F81D, "\u51f5"), (0x2F81E, "\u5203"), (0x2F81F, "\u34df"), (0x2F820, "\u523b"),
   (0x2F821, "\u5246"), (0x2F822, "\u5272"), (0x2F823, "\u5277"), (0x2F824, "\u3515"),
   (0x2F825, "\u52c7"), (0x2F826, "\u52c9"), (0x2F827, "\u52e4"), (0x2F828, "\u52fa"),
   (0x2F829, "\u5305"), (0x2F82A, "\u5306"), (0x2F82B, "\u5317"), (0x2F82C, "\u5349"),
   (0x2F82D, "\u5351"), (0x2F82E, "\u535a"), (0x2F82F, "\u5373"), (0x2F830, "\u537d"),
   (0x2F831, "\u537f"), (0x2F832, "\u537f"), (0x2F833, "\u537f"), (0x2F834, "𠨬"),
   (0x2F835, "\u7070"), (0x2F836, "\u53ca"), (0x2F837, "\u53df"), (0x2F838, "𠭣"),
   (0x2F839, "\u53eb"), (0x2F83A, "\u53f1"), (0x2F83B, "\u5406"), (0x2F83C, "\u549e"),
   (0x2F83D, "\u5438"), (0x2F83E, "\u5448"), (0x2F83F, "\u5468"), (0x2F840, "\u54a2"),
   (0x2F841, "\u54f6"), (0x2F842, "\u5510"), (0x2F843, "\u5553"), (0x2F844, "\u5563"),
   (0x2F845, "\u5584"), (0x2F846, "\u5584"), (0x2F847, "\u5599"), (0x2F848, "\u55ab"),
   (0x2F849, "\u55b3"), (0x2F84A, "\u55c2"), (0x2F84B, "\u5716"), (0x2F84C, "\u5606"),
   (0x2F84D, "\u5717"), (0x2F84E, "\u5651"), (0x2F84F, "\u5674"), (0x2F850, "\u5207"),
   (0x2F851, "\u58ee"), (0x2F852, "\u57ce"), (0x2F853, "\u57f4"), (0x2F854, "\u580d"),
   (0x2F855, "\u578b"), (0x2F856, "\u5832"), (0x2F857, "\u5831"), (0x2F858, "\u58ac"),
   (0x2F859, "𡓤"), (0x2F85A, "\u58f2"), (0x2F85B, "\u58f7"), (0x2F85C, "\u5906"),
   (0x2F85D, "\u591a"), (0x2F85E, "\u5922"), (0x2F85F, "\u5962"), (0x2F860, "𡚨"), (0x2F861, "𡛪"),
   (0x2F862, "\u59ec"), (0x2F863, "\u5a1b"), (0x2F864, "\u5a27"), (0x2F865, "\u59d8"),
   (0x2F866, "\u5a66"), (0x2F867, "\u36ee"), (0x2F868, "\u36fc"), (0x2F869, "\u5b08"),
   (0x2F86A, "\u5b3e"), (0x2F86B, "\u5b3e"), (0x2F86C, "𡧈"), (0x2F86D, "\u5bc3"),
   (0x2F86E, "\u5bd8"), (0x2F86F, "\u5be7"), (0x2F870, "\u5bf3"), (0x2F871, "𡬘"),
   (0x2F872, "\u5bff"), (0x2F873, "\u5c06"), (0x2F874, "\u5f53"), (0x2F875, "\u5c22"),
   (0x2F876, "\u3781"), (0x2F877, "\u5c60"), (0x2F878, "\u5c6e"), (0x2F879, "\u5cc0"),
   (0x2F87A, "\u5c8d"), (0x2F87B, "𡷤"), (0x2F87C, "\u5d43"), (0x2F87D, "𡷦"), (0x2F87E, "\u5d6e"),
   (0x2F87F, "\u5d6b"), (0x2F880, "\u5d7c"), (0x2F881, "\u5de1"), (0x2F882, "\u5de2"),
   (0x2F883, "\u382f"), (0x2F884, "\u5dfd"), (0x2F885, "\u5e28"), (0x2F886, "\u5e3d"),
   (0x2F887, "\u5e69"), (0x2F888, "\u3862"), (0x2F889, "𢆃"), (0x2F88A, "\u387c"),
   (0x2F88B, "\u5eb0"), (0x2F88C, "\u5eb3"), (0x2F88D, "\u5eb6"), (0x2F88E, "\u5eca"),
   (0x2F88F, "𪎒"), (0x2F890, "\u5efe"), (0x2F891, "𢌱"), (0x2F892, "𢌱"), (0x2F893, "\u8201"),
   (0x2F894, "\u5f22"), (0x2F895, "\u5f22"), (0x2F896, "\u38c7"), (0x2F897, "𣊸"), (0x2F898, "𦇚"),
   (0x2F899, "\u5f62"), (0x2F89A, "\u5f6b"), (0x2F89B, "\u38e3"), (0x2F89C, "\u5f9a"),
   (0x2F89D, "\u5fcd"), (0x2F89E, "\u5fd7"), (0x2F89F, "\u5ff9"), (0x2F8A0, "\u6081"),
   (0x2F8A1, "\u393a"), (0x2F8A2, "\u391c"), (0x2F8A3, "\u6094"), (0x2F8A4, "𢛔"),
   (0x2F8A5, "\u60c7"), (0x2F8A6, "\u6148"), (0x2F8A7, "\u614c"), (0x2F8A8, "\u614e"),
   (0x2F8A9, "\u614c"), (0x2F8AA, "\u617a"), (0x2F8AB, "\u618e"), (0x2F8AC, "\u61b2"),
   (0x2F8AD, "\u61a4"), (0x2F8AE, "\u61af"), (0x2F8AF, "\u61de"), (0x2F8B0, "\u61f2"),
   (0x2F8B1, "\u61f6"), (0x2F8B2, "\u6210"), (0x2F8B3, "\u621b"), (0x2F8B4, "\u625d"),
   (0x2F8B5, "\u62b1"), (0x2F8B6, "\u62d4"), (0x2F8B7, "\u6350"), (0x2F8B8, "𢬌"),
   (0x2F8B9, "\u633d"), (0x2F8BA, "\u62fc"), (0x2F8BB, "\u6368"), (0x2F8BC, "\u6383"),
   (0x2F8BD, "\u63e4"), (0x2F8BE, "𢯱"), (0x2F8BF, "\u6422"), (0x2F8C0, "\u63c5"),
   (0x2F8C1, "\u63a9"), (0x2F8C2, "\u3a2e"), (0x2F8C3, "\u6469"), (0x2F8C4, "\u647e"),
   (0x2F8C5, "\u649d"), (0x2F8C6, "\u6477"), (0x2F8C7, "\u3a6c"), (0x2F8C8, "\u654f"),
   (0x2F8C9, "\u656c"), (0x2F8CA, "𣀊"), (0x2F8CB, "\u65e3"), (0x2F8CC, "\u66f8"),
   (0x2F8CD, "\u6649"), (0x2F8CE, "\u3b19"), (0x2F8CF, "\u6691"), (0x2F8D0, "\u3b08"),
   (0x2F8D1, "\u3ae4"), (0x2F8D2, "\u5192"), (0x2F8D3, "\u5195"), (0x2F8D4, "\u6700"),
   (0x2F8D5, "\u669c"), (0x2F8D6, "\u80ad"), (0x2F8D7, "\u43d9"), (0x2F8D8, "\u6717"),
   (0x2F8D9, "\u671b"), (0x2F8DA, "\u6721"), (0x2F8DB, "\u675e"), (0x2F8DC, "\u6753"),
   (0x2F8DD, "𣏃"), (0x2F8DE, "\u3b49"), (0x2F8DF, "\u67fa"), (0x2F8E0, "\u6785"),
   (0x2F8E1, "\u6852"), (0x2F8E2, "\u6885"), (0x2F8E3, "𣑭"), (0x2F8E4, "\u688e"),
   (0x2F8E5, "\u681f"), (0x2F8E6, "\u6914"), (0x2F8E7, "\u3b9d"), (0x2F8E8, "\u6942"),
   (0x2F8E9, "\u69a3"), (0x2F8EA, "\u69ea"), (0x2F8EB, "\u6aa8"), (0x2F8EC, "𣚣"),
   (0x2F8ED, "\u6adb"), (0x2F8EE, "\u3c18"), (0x2F8EF, "\u6b21"), (0x2F8F0, "𣢧"),
   (0x2F8F1, "\u6b54"), (0x2F8F2, "\u3c4e"), (0x2F8F3, "\u6b72"), (0x2F8F4, "\u6b9f"),
   (0x2F8F5, "\u6bba"), (0x2F8F6, "\u6bbb"), (0x2F8F7, "𣪍"), (0x2F8F8, "𡴋"), (0x2F8F9, "𣫺"),
   (0x2F8FA, "\u6c4e"), (0x2F8FB, "𣲼"), (0x2F8FC, "\u6cbf"), (0x2F8FD, "\u6ccd"),
   (0x2F8FE, "\u6c67"), (0x2F8FF, "\u6d16"), (0x2F900, "\u6d3e"), (0x2F901, "\u6d77"),
   (0x2F902, "\u6d41"), (0x2F903, "\u6d69"), (0x2F904, "\u6d78"), (0x2F905, "\u6d85"),
   (0x2F906, "𣴞"), (0x2F907, "\u6d34"), (0x2F908, "\u6e2f"), (0x2F909, "\u6e6e"),
   (0x2F90A, "\u3d33"), (0x2F90B, "\u6ecb"), (0x2F90C, "\u6ec7"), (0x2F90D, "𣻑"),
   (0x2F90E, "\u6df9"), (0x2F90F, "\u6f6e"), (0x2F910, "𣽞"), (0x2F911, "𣾎"), (0x2F912, "\u6fc6"),
   (0x2F913, "\u7039"), (0x2F914, "\u701e"), (0x2F915, "\u701b"), (0x2F916, "\u3d96"),
   (0x2F917, "\u704a"), (0x2F918, "\u707d"), (0x2F919, "\u7077"), (0x2F91A, "\u70ad"),
   (0x2F91B, "𠔥"), (0x2F91C, "\u7145"), (0x2F91D, "𤉣"), (0x2F91E, "\u719c"), (0x2F91F, "𤎫"),
   (0x2F920, "\u7228"), (0x2F921, "\u7235"), (0x2F922, "\u7250"), (0x2F923, "𤘈"),
   (0x2F924, "\u7280"), (0x2F925, "\u7295"), (0x2F926, "𤜵"), (0x2F927, "𤠔"), (0x2F928, "\u737a"),
   (0x2F929, "\u738b"), (0x2F92A, "\u3eac"), (0x2F92B, "\u73a5"), (0x2F92C, "\u3eb8"),
   (0x2F92D, "\u3eb8"), (0x2F92E, "\u7447"), (0x2F92F, "\u745c"), (0x2F930, "\u7471"),
   (0x2F931, "\u7485"), (0x2F932, "\u74ca"), (0x2F933, "\u3f1b"), (0x2F934, "\u7524"),
   (0x2F935, "𤰶"), (0x2F936, "\u753e"), (0x2F937, "𤲒"), (0x2F938, "\u7570"), (0x2F939, "𢆟"),
   (0x2F93A, "\u7610"), (0x2F93B, "𤾡"), (0x2F93C, "𤾸"), (0x2F93D, "𥁄"), (0x2F93E, "\u3ffc"),
   (0x2F93F, "\u4008"), (0x2F940, "\u76f4"), (0x2F941, "𥃳"), (0x2F942, "𥃲"), (0x2F943, "𥄙"),
   (0x2F944, "𥄳"), (0x2F945, "\u771e"), (0x2F946, "\u771f"), (0x2F947, "\u771f"),
   (0x2F948, "\u774a"), (0x2F949, "\u4039"), (0x2F94A, "\u778b"), (0x2F94B, "\u4046"),
   (0x2F94C, "\u4096"), (0x2F94D, "𥐝"), (0x2F94E, "\u784e"), (0x2F94F, "\u788c"),
   (0x2F950, "\u78cc"), (0x2F951, "\u40e3"), (0x2F952, "𥘦"), (0x2F953, "\u7956"), (0x2F954, "𥚚"),
   (0x2F955, "𥛅"), (0x2F956, "\u798f"), (0x2F957, "\u79eb"), (0x2F958, "\u412f"),
   (0x2F959, "\u7a40"), (0x2F95A, "\u7a4a"), (0x2F95B, "\u7a4f"), (0x2F95C, "𥥼"), (0x2F95D, "𥪧"),
   (0x2F95E, "𥪧"), (0x2F95F, "\u7aee"), (0x2F960, "\u4202"), (0x2F961, "𥮫"), (0x2F962, "\u7bc6"),
   (0x2F963, "\u7bc9"), (0x2F964, "\u4227"), (0x2F965, "𥲀"), (0x2F966, "\u7cd2"),
   (0x2F967, "\u42a0"), (0x2F968, "\u7ce8"), (0x2F969, "\u7ce3"), (0x2F96A, "\u7d00"),
   (0x2F96B, "𥾆"), (0x2F96C, "\u7d63"), (0x2F96D, "\u4301"), (0x2F96E, "\u7dc7"),
   (0x2F96F, "\u7e02"), (0x2F970, "\u7e45"), (0x2F971, "\u4334"), (0x2F972, "𦈨"), (0x2F973, "𦉇"),
   (0x2F974, "\u4359"), (0x2F975, "𦋙"), (0x2F976, "\u7f7a"), (0x2F977, "𦌾"), (0x2F978, "\u7f95"),
   (0x2F979, "\u7ffa"), (0x2F97A, "\u8005"), (0x2F97B, "𦓚"), (0x2F97C, "𦔣"), (0x2F97D, "\u8060"),
   (0x2F97E, "𦖨"), (0x2F97F, "\u8070"), (0x2F980, "𣍟"), (0x2F981, "\u43d5"), (0x2F982, "\u80b2"),
   (0x2F983, "\u8103"), (0x2F984, "\u440b"), (0x2F985, "\u813e"), (0x2F986, "\u5ab5"),
   (0x2F987, "𦞧"), (0x2F988, "𦞵"), (0x2F989, "𣎓"), (0x2F98A, "𣎜"), (0x2F98B, "\u8201"),
   (0x2F98C, "\u8204"), (0x2F98D, "\u8f9e"), (0x2F98E, "\u446b"), (0x2F98F, "\u8291"),
   (0x2F990, "\u828b"), (0x2F991, "\u829d"), (0x2F992, "\u52b3"), (0x2F993, "\u82b1"),
   (0x2F994, "\u82b3"), (0x2F995, "\u82bd"), (0x2F996, "\u82e6"), (0x2F997, "𦬼"),
   (0x2F998, "\u82e5"), (0x2F999, "\u831d"), (0x2F99A, "\u8363"), (0x2F99B, "\u83ad"),
   (0x2F99C, "\u8323"), (0x2F99D, "\u83bd"), (0x2F99E, "\u83e7"), (0x2F99F, "\u8457"),
   (0x2F9A0, "\u8353"), (0x2F9A1, "\u83ca"), (0x2F9A2, "\u83cc"), (0x2F9A3, "\u83dc"),
   (0x2F9A4, "𦰶"), (0x2F9A5, "𦵫"), (0x2F9A6, "𦳕"), (0x2F9A7, "\u452b"), (0x2F9A8, "\u84f1"),
   (0x2F9A9, "\u84f3"), (0x2F9AA, "\u8516"), (0x2F9AB, "𧏊"), (0x2F9AC, "\u8564"), (0x2F9AD, "𦼬"),
   (0x2F9AE, "\u455d"), (0x2F9AF, "\u4561"), (0x2F9B0, "𦾱"), (0x2F9B1, "𧃒"), (0x2F9B2, "\u456b"),
   (0x2F9B3, "\u8650"), (0x2F9B4, "\u865c"), (0x2F9B5, "\u8667"), (0x2F9B6, "\u8669"),
   (0x2F9B7, "\u86a9"), (0x2F9B8, "\u8688"), (0x2F9B9, "\u870e"), (0x2F9BA, "\u86e2"),
   (0x2F9BB, "\u8779"), (0x2F9BC, "\u8728"), (0x2F9BD, "\u876b"), (0x2F9BE, "\u8786"),
   (0x2F9BF, "\u45d7"), (0x2F9C0, "\u87e1"), (0x2F9C1, "\u8801"), (0x2F9C2, "\u45f9"),
   (0x2F9C3, "\u8860"), (0x2F9C4, "\u8863"), (0x2F9C5, "𧙧"), (0x2F9C6, "\u88d7"),
   (0x2F9C7, "\u88de"), (0x2F9C8, "\u4635"), (0x2F9C9, "\u88fa"), (0x2F9CA, "\u34bb"),
   (0x2F9CB, "𧢮"), (0x2F9CC, "𧥦"), (0x2F9CD, "\u46be"), (0x2F9CE, "\u46c7"), (0x2F9CF, "\u8aa0"),
   (0x2F9D0, "\u8aed"), (0x2F9D1, "\u8b8a"), (0x2F9D2, "\u8c55"), (0x2F9D3, "𧲨"),
   (0x2F9D4, "\u8cab"), (0x2F9D5, "\u8cc1"), (0x2F9D6, "\u8d1b"), (0x2F9D7, "\u8d77"),
   (0x2F9D8, "𧼯"), (0x2F9D9, "𠠄"), (0x2F9DA, "\u8dcb"), (0x2F9DB, "\u8dbc"), (0x2F9DC, "\u8df0"),
   (0x2F9DD, "𠣞"), (0x2F9DE, "\u8ed4"), (0x2F9DF, "\u8f38"), (0x2F9E0, "𨗒"), (0x2F9E1, "𨗭"),
   (0x2F9E2, "\u9094"), (0x2F9E3, "\u90f1"), (0x2F9E4, "\u9111"), (0x2F9E5, "𨜮"),
   (0x2F9E6, "\u911b"), (0x2F9E7, "\u9238"), (0x2F9E8, "\u92d7"), (0x2F9E9, "\u92d8"),
   (0x2F9EA, "\u927c"), (0x2F9EB, "\u93f9"), (0x2F9EC, "\u9415"), (0x2F9ED, "𨯺"),
   (0x2F9EE, "\u958b"), (0x2F9EF, "\u4995"), (0x2F9F0, "\u95b7"), (0x2F9F1, "𨵷"),
   (0x2F9F2, "\u49e6"), (0x2F9F3, "\u96c3"), (0x2F9F4, "\u5db2"), (0x2F9F5, "\u9723"),
   (0x2F9F6, "𩅅"), (0x2F9F7, "𩈚"), (0x2F9F8, "\u4a6e"), (0x2F9F9, "\u4a76"), (0x2F9FA, "\u97e0"),
   (0x2F9FB, "𩐊"), (0x2F9FC, "\u4ab2"), (0x2F9FD, "𩒖"), (0x2F9FE, "\u980b"), (0x2F9FF, "\u980b"),
   (0x2FA00, "\u9829"), (0x2FA01, "𩖶"), (0x2FA02, "\u98e2"), (0x2FA03, "\u4b33"),
   (0x2FA04, "\u9929"), (0x2FA05, "\u99a7"), (0x2FA06, "\u99c2"), (0x2FA07, "\u99fe"),
   (0x2FA08, "\u4bce"), (0x2FA09, "𩬰"), (0x2FA0A, "\u9b12"), (0x2FA0B, "\u9c40"),
   (0x2FA0C, "\u9cfd"), (0x2FA0D, "\u4cce"), (0x2FA0E, "\u4ced"), (0x2FA0F, "\u9d67"),
   (0x2FA10, "𪃎"), (0x2FA11, "\u4cf8"), (0x2FA12, "𪄅"), (0x2FA13, "𪈎"), (0x2FA14, "𪊑"),
   (0x2FA15, "\u9ebb"), (0x2FA16, "\u4d56"), (0x2FA17, "\u9ef9"), (0x2FA18, "\u9efe"),
   (0x2FA19, "\u9f05"), (0x2FA1A, "\u9f0f"), (0x2FA1B, "\u9f16"), (0x2FA1C, "\u9f3b"),
   (0x2FA1D, "𪘀")]

end AccessGate.Url.Domain
