import OData.Unicode.Category

/-!
# Writing direction

The direction that a character of a host name gives to a text.
-/

namespace OData.Unicode

inductive Direction where
  | leftToRight
  | rightToLeft
  | europeanNumber
  | arabicNumber
  /-- A mark goes with what precedes it. -/
  | mark
  /-- Separators, signs and symbols go with their surroundings. -/
  | neutral
  deriving DecidableEq, Repr

/-- The bidirectional classes `R` and `AL`. -/
def rightToLeft : CodeSet :=
  ⟨[0x590, 0x591, 0x5BE, 0x5BF, 0x5C0, 0x5C1, 0x5C3, 0x5C4, 0x5C6, 0x5C7, 0x5C8, 0x600, 0x608,
    0x609, 0x60B, 0x60C, 0x60D, 0x60E, 0x61B, 0x64B, 0x66D, 0x670, 0x671, 0x6D6, 0x6E5, 0x6E7,
    0x6EE, 0x6F0, 0x6FA, 0x711, 0x712, 0x730, 0x74B, 0x7A6, 0x7B1, 0x7EB, 0x7F4, 0x7F6, 0x7FA,
    0x7FD, 0x7FE, 0x816, 0x81A, 0x81B, 0x824, 0x825, 0x828, 0x829, 0x82E, 0x859, 0x85C, 0x890,
    0x892, 0x897, 0x8A0, 0x8CA, 0x200F, 0x2010, 0xFB1D, 0xFB1E, 0xFB1F, 0xFB29, 0xFB2A, 0xFBC3,
    0xFBD3, 0xFD3E, 0xFD50, 0xFD90, 0xFD92, 0xFDC8, 0xFDF0, 0xFDFD, 0xFE70, 0xFEFF, 0x10800,
    0x1091F, 0x10920, 0x10A01, 0x10A04, 0x10A05, 0x10A07, 0x10A0C, 0x10A10, 0x10A38, 0x10A3B,
    0x10A3F, 0x10A40, 0x10AE5, 0x10AE7, 0x10B39, 0x10B40, 0x10D24, 0x10D28, 0x10D30, 0x10D3A,
    0x10D40, 0x10D4A, 0x10D69, 0x10D6F, 0x10E60, 0x10E7F, 0x10EAB, 0x10EAD, 0x10ED0, 0x10ED9,
    0x10EFA, 0x10F00, 0x10F46, 0x10F51, 0x10F82, 0x10F86, 0x11000, 0x1E800, 0x1E8D0, 0x1E8D7,
    0x1E944, 0x1E94B, 0x1EEF0, 0x1EEF2, 0x1F000]⟩

/-- The bidirectional class `AN`. -/
def arabicNumbers : CodeSet :=
  ⟨[0x600, 0x606, 0x660, 0x66A, 0x66B, 0x66D, 0x6DD, 0x6DE, 0x890, 0x892, 0x8E2, 0x8E3, 0x10D30,
    0x10D3A, 0x10D40, 0x10D4A, 0x10E60, 0x10E7F]⟩

/-- The bidirectional class `EN`. -/
def europeanNumbers : CodeSet :=
  ⟨[0x30, 0x3A, 0xB2, 0xB4, 0xB9, 0xBA, 0x6F0, 0x6FA, 0x2070, 0x2071, 0x2074, 0x207A, 0x2080,
    0x208A, 0x2488, 0x249C, 0xFF10, 0xFF1A, 0x102E1, 0x102FC, 0x1D7CE, 0x1D800, 0x1F100, 0x1F10B,
    0x1FBF0, 0x1FBFA]⟩

/-- The bidirectional classes `ES`, `ET`, `CS`, `ON` and `BN`, as far
as they occur in host names. -/
def neutrals : CodeSet :=
  ⟨[0x0, 0x9, 0xE, 0x1C, 0x21, 0x30, 0x3A, 0x61, 0x7B, 0xD8, 0xF7, 0xF8, 0x2B9, 0x2BB, 0x2C2,
    0x2D0, 0x2D2, 0x2EE, 0x2EF, 0x300, 0x375, 0x376, 0x3F6, 0x3F7, 0x58A, 0x590, 0x606, 0x608,
    0x609, 0x60B, 0x60C, 0x60D, 0x60E, 0x610, 0x66A, 0x66B, 0x6DE, 0x6DF, 0x6E9, 0x6EA, 0x7F6,
    0x7FA, 0x9F2, 0x9F4, 0x9FB, 0x9FC, 0xAF1, 0xAF2, 0xBF3, 0xBFB, 0xC78, 0xC7F, 0xE3F, 0xE40,
    0xF3A, 0xF3E, 0x1390, 0x139A, 0x1400, 0x1401, 0x169B, 0x169D, 0x17DB, 0x17DC, 0x17F0, 0x180B,
    0x1940, 0x1946, 0x19DE, 0x1A00, 0x1B4E, 0x1B50, 0x1B7F, 0x1B80, 0x200C, 0x20C2, 0x2104,
    0x214E, 0x218A, 0x2336, 0x237B, 0x2395, 0x2396, 0x26AC, 0x26AD, 0x2800, 0x2900, 0x2C00,
    0x2CE5, 0x2CEB, 0x2CF9, 0x2D00, 0x2E00, 0x3005, 0x3008, 0x3021, 0x3030, 0x3031, 0x3037,
    0x3038, 0x303D, 0x3040, 0x30A0, 0x30A1, 0x30FB, 0x30FC, 0x31C0, 0x31E6, 0x4DC0, 0x4E00,
    0xA490, 0xA4C7, 0xA60D, 0xA610, 0xA673, 0xA674, 0xA67E, 0xA680, 0xA700, 0xA722, 0xA788,
    0xA789, 0xA828, 0xA82C, 0xA838, 0xA83A, 0xA874, 0xA878, 0xAB6A, 0xAB6C, 0xFBC3, 0xFE00,
    0xFE45, 0xFE47, 0x10101, 0x10102, 0x10140, 0x1018D, 0x10190, 0x101A1, 0x1091F, 0x10920,
    0x10B39, 0x10B40, 0x10D6E, 0x10D6F, 0x10ED0, 0x10ED9, 0x11052, 0x11066, 0x113D4, 0x113D9,
    0x11660, 0x1166D, 0x11BE1, 0x11BE2, 0x11FD5, 0x11FF2, 0x16D6D, 0x16D70, 0x16FE2, 0x16FE3,
    0x1CC00, 0x1CEF1, 0x1D1E9, 0x1D242, 0x1D245, 0x1D246, 0x1D300, 0x1D357, 0x1E2FF, 0x1E300,
    0x1E5FF, 0x1E600, 0x1EEF0, 0x1F130, 0x1F16D, 0x1F170, 0x1F1AD, 0x1F1AE, 0x1F260, 0x1FBFB]⟩

/-- Nonspacing marks that are read from left to right. -/
def steadyMarks : CodeSet := ⟨[0xCBF, 0xCC0, 0xCC6, 0xCC7, 0x11A07, 0x11A09, 0x11C3F, 0x11C40]⟩

def direction (c : Char) : Direction :=
  if rightToLeft.contains c then .rightToLeft
  else if arabicNumbers.contains c then .arabicNumber
  else if europeanNumbers.contains c then .europeanNumber
  else if neutrals.contains c then .neutral
  else if nonspacing.contains c && !(steadyMarks.contains c) then .mark
  else .leftToRight

end OData.Unicode
