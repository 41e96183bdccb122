/-!
# Case mapping and case-insensitive comparison

Per-character case data of the Unicode character database, version 17.0. The lower-case mapping
is the simple one: every character maps to one character (so `İ` becomes `i`, and a final sigma
stays `ς`).
Two texts are equal without regard to case when they have the same number of characters and each
pair has the same simple case fold; the fold is simple too, so `ß` matches `ẞ` but not `SS`, and
the dotted and dotless `i` of Turkish match nothing but themselves.

Both tables list runs of code points that move by a fixed offset; in an alternating run only
every other code point, starting with the first, moves.
-/

namespace RaceArchive.CaseMap

/-- A run of code points `lo ..= hi` mapped by adding `delta`; when `alternate`, only those at an
even distance from `lo` are mapped. -/
structure Run where
  lo : Nat
  hi : Nat
  delta : Int
  alternate : Bool

/-- Runs of the simple lower-case mapping. -/
def lowerRuns : Array Run := #[
  ⟨0x41, 0x5A, 32, false⟩, ⟨0xC0, 0xD6, 32, false⟩, ⟨0xD8, 0xDE, 32, false⟩,
  ⟨0x100, 0x12E, 1, true⟩, ⟨0x130, 0x130, (-199), false⟩, ⟨0x132, 0x136, 1, true⟩,
  ⟨0x139, 0x147, 1, true⟩, ⟨0x14A, 0x176, 1, true⟩, ⟨0x178, 0x178, (-121), false⟩,
  ⟨0x179, 0x17D, 1, true⟩, ⟨0x181, 0x181, 210, false⟩, ⟨0x182, 0x184, 1, true⟩,
  ⟨0x186, 0x186, 206, false⟩, ⟨0x187, 0x187, 1, false⟩, ⟨0x189, 0x18A, 205, false⟩,
  ⟨0x18B, 0x18B, 1, false⟩, ⟨0x18E, 0x18E, 79, false⟩, ⟨0x18F, 0x18F, 202, false⟩,
  ⟨0x190, 0x190, 203, false⟩, ⟨0x191, 0x191, 1, false⟩, ⟨0x193, 0x193, 205, false⟩,
  ⟨0x194, 0x194, 207, false⟩, ⟨0x196, 0x196, 211, false⟩, ⟨0x197, 0x197, 209, false⟩,
  ⟨0x198, 0x198, 1, false⟩, ⟨0x19C, 0x19C, 211, false⟩, ⟨0x19D, 0x19D, 213, false⟩,
  ⟨0x19F, 0x19F, 214, false⟩, ⟨0x1A0, 0x1A4, 1, true⟩, ⟨0x1A6, 0x1A6, 218, false⟩,
  ⟨0x1A7, 0x1A7, 1, false⟩, ⟨0x1A9, 0x1A9, 218, false⟩, ⟨0x1AC, 0x1AC, 1, false⟩,
  ⟨0x1AE, 0x1AE, 218, false⟩, ⟨0x1AF, 0x1AF, 1, false⟩, ⟨0x1B1, 0x1B2, 217, false⟩,
  ⟨0x1B3, 0x1B5, 1, true⟩, ⟨0x1B7, 0x1B7, 219, false⟩, ⟨0x1B8, 0x1B8, 1, false⟩,
  ⟨0x1BC, 0x1BC, 1, false⟩, ⟨0x1C4, 0x1C4, 2, false⟩, ⟨0x1C5, 0x1C5, 1, false⟩,
  ⟨0x1C7, 0x1C7, 2, false⟩, ⟨0x1C8, 0x1C8, 1, false⟩, ⟨0x1CA, 0x1CA, 2, false⟩,
  ⟨0x1CB, 0x1DB, 1, true⟩, ⟨0x1DE, 0x1EE, 1, true⟩, ⟨0x1F1, 0x1F1, 2, false⟩,
  ⟨0x1F2, 0x1F4, 1, true⟩, ⟨0x1F6, 0x1F6, (-97), false⟩, ⟨0x1F7, 0x1F7, (-56), false⟩,
  ⟨0x1F8, 0x21E, 1, true⟩, ⟨0x220, 0x220, (-130), false⟩, ⟨0x222, 0x232, 1, true⟩,
  ⟨0x23A, 0x23A, 10795, false⟩, ⟨0x23B, 0x23B, 1, false⟩, ⟨0x23D, 0x23D, (-163), false⟩,
  ⟨0x23E, 0x23E, 10792, false⟩, ⟨0x241, 0x241, 1, false⟩, ⟨0x243, 0x243, (-195), false⟩,
  ⟨0x244, 0x244, 69, false⟩, ⟨0x245, 0x245, 71, false⟩, ⟨0x246, 0x24E, 1, true⟩,
  ⟨0x370, 0x372, 1, true⟩, ⟨0x376, 0x376, 1, false⟩, ⟨0x37F, 0x37F, 116, false⟩,
  ⟨0x386, 0x386, 38, false⟩, ⟨0x388, 0x38A, 37, false⟩, ⟨0x38C, 0x38C, 64, false⟩,
  ⟨0x38E, 0x38F, 63, false⟩, ⟨0x391, 0x3A1, 32, false⟩, ⟨0x3A3, 0x3AB, 32, false⟩,
  ⟨0x3CF, 0x3CF, 8, false⟩, ⟨0x3D8, 0x3EE, 1, true⟩, ⟨0x3F4, 0x3F4, (-60), false⟩,
  ⟨0x3F7, 0x3F7, 1, false⟩, ⟨0x3F9, 0x3F9, (-7), false⟩, ⟨0x3FA, 0x3FA, 1, false⟩,
  ⟨0x3FD, 0x3FF, (-130), false⟩, ⟨0x400, 0x40F, 80, false⟩, ⟨0x410, 0x42F, 32, false⟩,
  ⟨0x460, 0x480, 1, true⟩, ⟨0x48A, 0x4BE, 1, true⟩, ⟨0x4C0, 0x4C0, 15, false⟩,
  ⟨0x4C1, 0x4CD, 1, true⟩, ⟨0x4D0, 0x52E, 1, true⟩, ⟨0x531, 0x556, 48, false⟩,
  ⟨0x10A0, 0x10C5, 7264, false⟩, ⟨0x10C7, 0x10C7, 7264, false⟩, ⟨0x10CD, 0x10CD, 7264, false⟩,
  ⟨0x13A0, 0x13EF, 38864, false⟩, ⟨0x13F0, 0x13F5, 8, false⟩, ⟨0x1C89, 0x1C89, 1, false⟩,
  ⟨0x1C90, 0x1CBA, (-3008), false⟩, ⟨0x1CBD, 0x1CBF, (-3008), false⟩, ⟨0x1E00, 0x1E94, 1, true⟩,
  ⟨0x1E9E, 0x1E9E, (-7615), false⟩, ⟨0x1EA0, 0x1EFE, 1, true⟩, ⟨0x1F08, 0x1F0F, (-8), false⟩,
  ⟨0x1F18, 0x1F1D, (-8), false⟩, ⟨0x1F28, 0x1F2F, (-8), false⟩, ⟨0x1F38, 0x1F3F, (-8), false⟩,
  ⟨0x1F48, 0x1F4D, (-8), false⟩, ⟨0x1F59, 0x1F5F, (-8), true⟩, ⟨0x1F68, 0x1F6F, (-8), false⟩,
  ⟨0x1F88, 0x1F8F, (-8), false⟩, ⟨0x1F98, 0x1F9F, (-8), false⟩, ⟨0x1FA8, 0x1FAF, (-8), false⟩,
  ⟨0x1FB8, 0x1FB9, (-8), false⟩, ⟨0x1FBA, 0x1FBB, (-74), false⟩, ⟨0x1FBC, 0x1FBC, (-9), false⟩,
  ⟨0x1FC8, 0x1FCB, (-86), false⟩, ⟨0x1FCC, 0x1FCC, (-9), false⟩, ⟨0x1FD8, 0x1FD9, (-8), false⟩,
  ⟨0x1FDA, 0x1FDB, (-100), false⟩, ⟨0x1FE8, 0x1FE9, (-8), false⟩, ⟨0x1FEA, 0x1FEB, (-112), false⟩,
  ⟨0x1FEC, 0x1FEC, (-7), false⟩, ⟨0x1FF8, 0x1FF9, (-128), false⟩, ⟨0x1FFA, 0x1FFB, (-126), false⟩,
  ⟨0x1FFC, 0x1FFC, (-9), false⟩, ⟨0x2126, 0x2126, (-7517), false⟩, ⟨0x212A, 0x212A, (-8383), false⟩,
  ⟨0x212B, 0x212B, (-8262), false⟩, ⟨0x2132, 0x2132, 28, false⟩, ⟨0x2160, 0x216F, 16, false⟩,
  ⟨0x2183, 0x2183, 1, false⟩, ⟨0x24B6, 0x24CF, 26, false⟩, ⟨0x2C00, 0x2C2F, 48, false⟩,
  ⟨0x2C60, 0x2C60, 1, false⟩, ⟨0x2C62, 0x2C62, (-10743), false⟩, ⟨0x2C63, 0x2C63, (-3814), false⟩,
  ⟨0x2C64, 0x2C64, (-10727), false⟩, ⟨0x2C67, 0x2C6B, 1, true⟩, ⟨0x2C6D, 0x2C6D, (-10780), false⟩,
  ⟨0x2C6E, 0x2C6E, (-10749), false⟩, ⟨0x2C6F, 0x2C6F, (-10783), false⟩,
  ⟨0x2C70, 0x2C70, (-10782), false⟩, ⟨0x2C72, 0x2C72, 1, false⟩, ⟨0x2C75, 0x2C75, 1, false⟩,
  ⟨0x2C7E, 0x2C7F, (-10815), false⟩, ⟨0x2C80, 0x2CE2, 1, true⟩, ⟨0x2CEB, 0x2CED, 1, true⟩,
  ⟨0x2CF2, 0x2CF2, 1, false⟩, ⟨0xA640, 0xA66C, 1, true⟩, ⟨0xA680, 0xA69A, 1, true⟩,
  ⟨0xA722, 0xA72E, 1, true⟩, ⟨0xA732, 0xA76E, 1, true⟩, ⟨0xA779, 0xA77B, 1, true⟩,
  ⟨0xA77D, 0xA77D, (-35332), false⟩, ⟨0xA77E, 0xA786, 1, true⟩, ⟨0xA78B, 0xA78B, 1, false⟩,
  ⟨0xA78D, 0xA78D, (-42280), false⟩, ⟨0xA790, 0xA792, 1, true⟩, ⟨0xA796, 0xA7A8, 1, true⟩,
  ⟨0xA7AA, 0xA7AA, (-42308), false⟩, ⟨0xA7AB, 0xA7AB, (-42319), false⟩,
  ⟨0xA7AC, 0xA7AC, (-42315), false⟩, ⟨0xA7AD, 0xA7AD, (-42305), false⟩,
  ⟨0xA7AE, 0xA7AE, (-42308), false⟩, ⟨0xA7B0, 0xA7B0, (-42258), false⟩,
  ⟨0xA7B1, 0xA7B1, (-42282), false⟩, ⟨0xA7B2, 0xA7B2, (-42261), false⟩,
  ⟨0xA7B3, 0xA7B3, 928, false⟩, ⟨0xA7B4, 0xA7C2, 1, true⟩, ⟨0xA7C4, 0xA7C4, (-48), false⟩,
  ⟨0xA7C5, 0xA7C5, (-42307), false⟩, ⟨0xA7C6, 0xA7C6, (-35384), false⟩, ⟨0xA7C7, 0xA7C9, 1, true⟩,
  ⟨0xA7CB, 0xA7CB, (-42343), false⟩, ⟨0xA7CC, 0xA7DA, 1, true⟩, ⟨0xA7DC, 0xA7DC, (-42561), false⟩,
  ⟨0xA7F5, 0xA7F5, 1, false⟩, ⟨0xFF21, 0xFF3A, 32, false⟩, ⟨0x10400, 0x10427, 40, false⟩,
  ⟨0x104B0, 0x104D3, 40, false⟩, ⟨0x10570, 0x1057A, 39, false⟩, ⟨0x1057C, 0x1058A, 39, false⟩,
  ⟨0x1058C, 0x10592, 39, false⟩, ⟨0x10594, 0x10595, 39, false⟩, ⟨0x10C80, 0x10CB2, 64, false⟩,
  ⟨0x10D50, 0x10D65, 32, false⟩, ⟨0x118A0, 0x118BF, 32, false⟩, ⟨0x16E40, 0x16E5F, 32, false⟩,
  ⟨0x16EA0, 0x16EB8, 27, false⟩, ⟨0x1E900, 0x1E921, 34, false⟩
]

/-- Runs of the simple case folding. -/
def foldRuns : Array Run := #[
  ⟨0x41, 0x5A, 32, false⟩, ⟨0xB5, 0xB5, 775, false⟩, ⟨0xC0, 0xD6, 32, false⟩,
  ⟨0xD8, 0xDE, 32, false⟩, ⟨0x100, 0x12E, 1, true⟩, ⟨0x132, 0x136, 1, true⟩,
  ⟨0x139, 0x147, 1, true⟩, ⟨0x14A, 0x176, 1, true⟩, ⟨0x178, 0x178, (-121), false⟩,
  ⟨0x179, 0x17D, 1, true⟩, ⟨0x17F, 0x17F, (-268), false⟩, ⟨0x181, 0x181, 210, false⟩,
  ⟨0x182, 0x184, 1, true⟩, ⟨0x186, 0x186, 206, false⟩, ⟨0x187, 0x187, 1, false⟩,
  ⟨0x189, 0x18A, 205, false⟩, ⟨0x18B, 0x18B, 1, false⟩, ⟨0x18E, 0x18E, 79, false⟩,
  ⟨0x18F, 0x18F, 202, false⟩, ⟨0x190, 0x190, 203, false⟩, ⟨0x191, 0x191, 1, false⟩,
  ⟨0x193, 0x193, 205, false⟩, ⟨0x194, 0x194, 207, false⟩, ⟨0x196, 0x196, 211, false⟩,
  ⟨0x197, 0x197, 209, false⟩, ⟨0x198, 0x198, 1, false⟩, ⟨0x19C, 0x19C, 211, false⟩,
  ⟨0x19D, 0x19D, 213, false⟩, ⟨0x19F, 0x19F, 214, false⟩, ⟨0x1A0, 0x1A4, 1, true⟩,
  ⟨0x1A6, 0x1A6, 218, false⟩, ⟨0x1A7, 0x1A7, 1, false⟩, ⟨0x1A9, 0x1A9, 218, false⟩,
  ⟨0x1AC, 0x1AC, 1, false⟩, ⟨0x1AE, 0x1AE, 218, false⟩, ⟨0x1AF, 0x1AF, 1, false⟩,
  ⟨0x1B1, 0x1B2, 217, false⟩, ⟨0x1B3, 0x1B5, 1, true⟩, ⟨0x1B7, 0x1B7, 219, false⟩,
  ⟨0x1B8, 0x1B8, 1, false⟩, ⟨0x1BC, 0x1BC, 1, false⟩, ⟨0x1C4, 0x1C4, 2, false⟩,
  ⟨0x1C5, 0x1C5, 1, false⟩, ⟨0x1C7, 0x1C7, 2, false⟩, ⟨0x1C8, 0x1C8, 1, false⟩,
  ⟨0x1CA, 0x1CA, 2, false⟩, ⟨0x1CB, 0x1DB, 1, true⟩, ⟨0x1DE, 0x1EE, 1, true⟩,
  ⟨0x1F1, 0x1F1, 2, false⟩, ⟨0x1F2, 0x1F4, 1, true⟩, ⟨0x1F6, 0x1F6, (-97), false⟩,
  ⟨0x1F7, 0x1F7, (-56), false⟩, ⟨0x1F8, 0x21E, 1, true⟩, ⟨0x220, 0x220, (-130), false⟩,
  ⟨0x222, 0x232, 1, true⟩, ⟨0x23A, 0x23A, 10795, false⟩, ⟨0x23B, 0x23B, 1, false⟩,
  ⟨0x23D, 0x23D, (-163), false⟩, ⟨0x23E, 0x23E, 10792, false⟩, ⟨0x241, 0x241, 1, false⟩,
  ⟨0x243, 0x243, (-195), false⟩, ⟨0x244, 0x244, 69, false⟩, ⟨0x245, 0x245, 71, false⟩,
  ⟨0x246, 0x24E, 1, true⟩, ⟨0x345, 0x345, 116, false⟩, ⟨0x370, 0x372, 1, true⟩,
  ⟨0x376, 0x376, 1, false⟩, ⟨0x37F, 0x37F, 116, false⟩, ⟨0x386, 0x386, 38, false⟩,
  ⟨0x388, 0x38A, 37, false⟩, ⟨0x38C, 0x38C, 64, false⟩, ⟨0x38E, 0x38F, 63, false⟩,
  ⟨0x391, 0x3A1, 32, false⟩, ⟨0x3A3, 0x3AB, 32, false⟩, ⟨0x3C2, 0x3C2, 1, false⟩,
  ⟨0x3CF, 0x3CF, 8, false⟩, ⟨0x3D0, 0x3D0, (-30), false⟩, ⟨0x3D1, 0x3D1, (-25), false⟩,
  ⟨0x3D5, 0x3D5, (-15), false⟩, ⟨0x3D6, 0x3D6, (-22), false⟩, ⟨0x3D8, 0x3EE, 1, true⟩,
  ⟨0x3F0, 0x3F0, (-54), false⟩, ⟨0x3F1, 0x3F1, (-48), false⟩, ⟨0x3F4, 0x3F4, (-60), false⟩,
  ⟨0x3F5, 0x3F5, (-64), false⟩, ⟨0x3F7, 0x3F7, 1, false⟩, ⟨0x3F9, 0x3F9, (-7), false⟩,
  ⟨0x3FA, 0x3FA, 1, false⟩, ⟨0x3FD, 0x3FF, (-130), false⟩, ⟨0x400, 0x40F, 80, false⟩,
  ⟨0x410, 0x42F, 32, false⟩, ⟨0x460, 0x480, 1, true⟩, ⟨0x48A, 0x4BE, 1, true⟩,
  ⟨0x4C0, 0x4C0, 15, false⟩, ⟨0x4C1, 0x4CD, 1, true⟩, ⟨0x4D0, 0x52E, 1, true⟩,
  ⟨0x531, 0x556, 48, false⟩, ⟨0x10A0, 0x10C5, 7264, false⟩, ⟨0x10C7, 0x10C7, 7264, false⟩,
  ⟨0x10CD, 0x10CD, 7264, false⟩, ⟨0x13F8, 0x13FD, (-8), false⟩, ⟨0x1C80, 0x1C80, (-6222), false⟩,
  ⟨0x1C81, 0x1C81, (-6221), false⟩, ⟨0x1C82, 0x1C82, (-6212), false⟩,
  ⟨0x1C83, 0x1C84, (-6210), false⟩, ⟨0x1C85, 0x1C85, (-6211), false⟩,
  ⟨0x1C86, 0x1C86, (-6204), false⟩, ⟨0x1C87, 0x1C87, (-6180), false⟩,
  ⟨0x1C88, 0x1C88, 35267, false⟩, ⟨0x1C89, 0x1C89, 1, false⟩, ⟨0x1C90, 0x1CBA, (-3008), false⟩,
  ⟨0x1CBD, 0x1CBF, (-3008), false⟩, ⟨0x1E00, 0x1E94, 1, true⟩, ⟨0x1E9B, 0x1E9B, (-58), false⟩,
  ⟨0x1E9E, 0x1E9E, (-7615), false⟩, ⟨0x1EA0, 0x1EFE, 1, true⟩, ⟨0x1F08, 0x1F0F, (-8), false⟩,
  ⟨0x1F18, 0x1F1D, (-8), false⟩, ⟨0x1F28, 0x1F2F, (-8), false⟩, ⟨0x1F38, 0x1F3F, (-8), false⟩,
  ⟨0x1F48, 0x1F4D, (-8), false⟩, ⟨0x1F59, 0x1F5F, (-8), true⟩, ⟨0x1F68, 0x1F6F, (-8), false⟩,
  ⟨0x1F88, 0x1F8F, (-8), false⟩, ⟨0x1F98, 0x1F9F, (-8), false⟩, ⟨0x1FA8, 0x1FAF, (-8), false⟩,
  ⟨0x1FB8, 0x1FB9, (-8), false⟩, ⟨0x1FBA, 0x1FBB, (-74), false⟩, ⟨0x1FBC, 0x1FBC, (-9), false⟩,
  ⟨0x1FBE, 0x1FBE, (-7173), false⟩, ⟨0x1FC8, 0x1FCB, (-86), false⟩, ⟨0x1FCC, 0x1FCC, (-9), false⟩,
  ⟨0x1FD3, 0x1FD3, (-7235), false⟩, ⟨0x1FD8, 0x1FD9, (-8), false⟩, ⟨0x1FDA, 0x1FDB, (-100), false⟩,
  ⟨0x1FE3, 0x1FE3, (-7219), false⟩, ⟨0x1FE8, 0x1FE9, (-8), false⟩, ⟨0x1FEA, 0x1FEB, (-112), false⟩,
  ⟨0x1FEC, 0x1FEC, (-7), false⟩, ⟨0x1FF8, 0x1FF9, (-128), false⟩, ⟨0x1FFA, 0x1FFB, (-126), false⟩,
  ⟨0x1FFC, 0x1FFC, (-9), false⟩, ⟨0x2126, 0x2126, (-7517), false⟩, ⟨0x212A, 0x212A, (-8383), false⟩,
  ⟨0x212B, 0x212B, (-8262), false⟩, ⟨0x2132, 0x2132, 28, false⟩, ⟨0x2160, 0x216F, 16, false⟩,
  ⟨0x2183, 0x2183, 1, false⟩, ⟨0x24B6, 0x24CF, 26, false⟩, ⟨0x2C00, 0x2C2F, 48, false⟩,
  ⟨0x2C60, 0x2C60, 1, false⟩, ⟨0x2C62, 0x2C62, (-10743), false⟩, ⟨0x2C63, 0x2C63, (-3814), false⟩,
  ⟨0x2C64, 0x2C64, (-10727), false⟩, ⟨0x2C67, 0x2C6B, 1, true⟩, ⟨0x2C6D, 0x2C6D, (-10780), false⟩,
  ⟨0x2C6E, 0x2C6E, (-10749), false⟩, ⟨0x2C6F, 0x2C6F, (-10783), false⟩,
  ⟨0x2C70, 0x2C70, (-10782), false⟩, ⟨0x2C72, 0x2C72, 1, false⟩, ⟨0x2C75, 0x2C75, 1, false⟩,
  ⟨0x2C7E, 0x2C7F, (-10815), false⟩, ⟨0x2C80, 0x2CE2, 1, true⟩, ⟨0x2CEB, 0x2CED, 1, true⟩,
  ⟨0x2CF2, 0x2CF2, 1, false⟩, ⟨0xA640, 0xA66C, 1, true⟩, ⟨0xA680, 0xA69A, 1, true⟩,
  ⟨0xA722, 0xA72E, 1, true⟩, ⟨0xA732, 0xA76E, 1, true⟩, ⟨0xA779, 0xA77B, 1, true⟩,
  ⟨0xA77D, 0xA77D, (-35332), false⟩, ⟨0xA77E, 0xA786, 1, true⟩, ⟨0xA78B, 0xA78B, 1, false⟩,
  ⟨0xA78D, 0xA78D, (-42280), false⟩, ⟨0xA790, 0xA792, 1, true⟩, ⟨0xA796, 0xA7A8, 1, true⟩,
  ⟨0xA7AA, 0xA7AA, (-42308), false⟩, ⟨0xA7AB, 0xA7AB, (-42319), false⟩,
  ⟨0xA7AC, 0xA7AC, (-42315), false⟩, ⟨0xA7AD, 0xA7AD, (-42305), false⟩,
  ⟨0xA7AE, 0xA7AE, (-42308), false⟩, ⟨0xA7B0, 0xA7B0, (-42258), false⟩,
  ⟨0xA7B1, 0xA7B1, (-42282), false⟩, ⟨0xA7B2, 0xA7B2, (-42261), false⟩,
  ⟨0xA7B3, 0xA7B3, 928, false⟩, ⟨0xA7B4, 0xA7C2, 1, true⟩, ⟨0xA7C4, 0xA7C4, (-48), false⟩,
  ⟨0xA7C5, 0xA7C5, (-42307), false⟩, ⟨0xA7C6, 0xA7C6, (-35384), false⟩, ⟨0xA7C7, 0xA7C9, 1, true⟩,
  ⟨0xA7CB, 0xA7CB, (-42343), false⟩, ⟨0xA7CC, 0xA7DA, 1, true⟩, ⟨0xA7DC, 0xA7DC, (-42561), false⟩,
  ⟨0xA7F5, 0xA7F5, 1, false⟩, ⟨0xAB70, 0xABBF, (-38864), false⟩, ⟨0xFB05, 0xFB05, 1, false⟩,
  ⟨0xFF21, 0xFF3A, 32, false⟩, ⟨0x10400, 0x10427, 40, false⟩, ⟨0x104B0, 0x104D3, 40, false⟩,
  ⟨0x10570, 0x1057A, 39, false⟩, ⟨0x1057C, 0x1058A, 39, false⟩, ⟨0x1058C, 0x10592, 39, false⟩,
  ⟨0x10594, 0x10595, 39, false⟩, ⟨0x10C80, 0x10CB2, 64, false⟩, ⟨0x10D50, 0x10D65, 32, false⟩,
  ⟨0x118A0, 0x118BF, 32, false⟩, ⟨0x16E40, 0x16E5F, 32, false⟩, ⟨0x16EA0, 0x16EB8, 27, false⟩,
  ⟨0x1E900, 0x1E921, 34, false⟩
]

/-- The image of a code point under a table of sorted runs: the first run that holds it, searched
by halving between `lo` and `hi`. -/
def lookup (t : Array Run) (n : Nat) (lo hi : Nat) : Nat :=
  if _h : lo < hi then
    let mid := (lo + hi) / 2
    match t[mid]? with
    | some r =>
      if n < r.lo then lookup t n lo mid
      else if r.hi < n then lookup t n (mid + 1) hi
      else if r.alternate ∧ (n - r.lo) % 2 = 1 then n
      else (n + r.delta).toNat
    | none => n
  else n
termination_by hi - lo

def lowerChar (c : Char) : Char := Char.ofNat (lookup lowerRuns c.toNat 0 lowerRuns.size)

def foldChar (c : Char) : Char := Char.ofNat (lookup foldRuns c.toNat 0 foldRuns.size)

def toLower (s : String) : String := String.ofList (s.toList.map lowerChar)

def equalFold (a b : String) : Bool :=
  a.length == b.length && (a.toList.zip b.toList).all fun (x, y) => foldChar x == foldChar y

end RaceArchive.CaseMap
