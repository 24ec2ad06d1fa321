import Compliance.Text.Extending

/-!
The direction in which characters are written, and whether a label can stand in a text of both
directions without changing its order.
-/

namespace Compliance.Text

inductive Direction
  | left
  | right
  | arabic
  | number
  | numberSign
  | terminator
  | separator
  | arabicNumber
  | nonspacing
  | boundary
  | neutral
  deriving DecidableEq, Repr

/-- Letters that are written to the left of the one before them. -/
def rightRanges : Array (Nat × Nat) := #[
  (0x5BE, 0x5BE), (0x5C0, 0x5C0), (0x5C3, 0x5C3), (0x5C6, 0x5C6), (0x5D0, 0x5F4), (0x7C0, 0x7EA),
  (0x7F4, 0x7F5), (0x7FA, 0x7FA), (0x7FE, 0x815), (0x81A, 0x81A), (0x824, 0x824), (0x828, 0x828),
  (0x830, 0x858), (0x85E, 0x85E), (0x10800, 0x1091B), (0x10920, 0x10A00), (0x10A10, 0x10A35),
  (0x10A40, 0x10AE4), (0x10AEB, 0x10B35), (0x10B40, 0x10BAF), (0x10C00, 0x10C48),
  (0x10CC0, 0x10CFF), (0x10D40, 0x10D4F), (0x10D6E, 0x10D8F), (0x10E80, 0x10EA9),
  (0x10EAD, 0x10EB1), (0x10F00, 0x10F27), (0x10F70, 0x10F81), (0x10F86, 0x10FF6),
  (0x1E800, 0x1E8CF), (0x1E922, 0x1E943), (0x1E94B, 0x1E95F)]

def arabicRanges : Array (Nat × Nat) := #[
  (0x608, 0x608), (0x60B, 0x60B), (0x60D, 0x60D), (0x61B, 0x64A), (0x66D, 0x66F), (0x671, 0x6D5),
  (0x6E5, 0x6E6), (0x6EE, 0x6EF), (0x6FA, 0x710), (0x712, 0x72F), (0x74D, 0x7A5), (0x7B1, 0x7B1),
  (0x860, 0x88F), (0x8A0, 0x8C9), (0xFBB2, 0xFBD2), (0xFD90, 0xFDCE), (0xFE73, 0xFE73),
  (0x10D00, 0x10D23), (0x10EC2, 0x10ED8), (0x10F30, 0x10F45), (0x10F51, 0x10F59),
  (0x1EC71, 0x1ECB4), (0x1ED01, 0x1ED3D)]

def arabicNumberRanges : Array (Nat × Nat) := #[
  (0x660, 0x669), (0x66B, 0x66C), (0x10D30, 0x10D39), (0x10E60, 0x10E7E)]

def numberRanges : Array (Nat × Nat) := #[
  (0x30, 0x39), (0x6F0, 0x6F9), (0x102E1, 0x102FB)]

def terminatorRanges : Array (Nat × Nat) := #[
  (0x23, 0x25), (0xA2, 0xA5), (0xB0, 0xB1), (0x58F, 0x58F), (0x609, 0x60A), (0x66A, 0x66A),
  (0x9F2, 0x9F3), (0x9FB, 0x9FB), (0xAF1, 0xAF1), (0xBF9, 0xBF9), (0xE3F, 0xE3F), (0x17DB, 0x17DB),
  (0x2030, 0x2032), (0x20A0, 0x20C1), (0x212E, 0x212E), (0x2213, 0x2213), (0xA838, 0xA839),
  (0x11FDD, 0x11FE0), (0x1E2FF, 0x1E2FF)]

def separatorRanges : Array (Nat × Nat) := #[
  (0x2C, 0x2C), (0x2E, 0x2F), (0x3A, 0x3A), (0x60C, 0x60C), (0x2044, 0x2044)]

/-- Characters that are not shown. -/
def boundaryRanges : Array (Nat × Nat) := #[
  (0x0, 0x8), (0xE, 0x1B), (0x7F, 0x7F), (0x200C, 0x200D)]

def neutralRanges : Array (Nat × Nat) := #[
  (0x21, 0x22), (0x26, 0x2A), (0x3B, 0x60), (0x7B, 0x7E), (0xA1, 0xA1), (0xA6, 0xAE), (0xB6, 0xD7),
  (0xF7, 0xF7), (0x2B9, 0x2BA), (0x2C2, 0x2CF), (0x2D2, 0x2ED), (0x2EF, 0x2FF), (0x375, 0x375),
  (0x3F6, 0x3F6), (0x58A, 0x58E), (0x606, 0x607), (0x60E, 0x60F), (0x6DE, 0x6DE), (0x6E9, 0x6E9),
  (0x7F6, 0x7F9), (0xBF3, 0xBF8), (0xBFA, 0xBFA), (0xC78, 0xC7E), (0xF3A, 0xF3D), (0x1390, 0x1399),
  (0x1400, 0x1400), (0x169B, 0x169C), (0x17F0, 0x180A), (0x1940, 0x1945), (0x19DE, 0x19FF),
  (0x2010, 0x2027), (0x2035, 0x2043), (0x2045, 0x205E), (0x2104, 0x2129), (0x213A, 0x214D),
  (0x218A, 0x2211), (0x2214, 0x2335), (0x237B, 0x2394), (0x2396, 0x2426), (0x2440, 0x244A),
  (0x24EB, 0x26AB), (0x26AD, 0x27FF), (0x2900, 0x2B95), (0x2B97, 0x2BFF), (0x2CE5, 0x2CEA),
  (0x2CF9, 0x2CFF), (0x2E00, 0x2EF2), (0x3001, 0x3004), (0x3008, 0x3020), (0x3030, 0x3030),
  (0x3037, 0x3037), (0x303D, 0x303F), (0x30A0, 0x30A0), (0x30FB, 0x30FB), (0x31C0, 0x31E3),
  (0x4DC0, 0x4DFF), (0xA490, 0xA4C6), (0xA60D, 0xA60F), (0xA673, 0xA673), (0xA67E, 0xA67F),
  (0xA700, 0xA721), (0xA788, 0xA788), (0xA828, 0xA82B), (0xA874, 0xA877), (0xAB6A, 0xAB6B),
  (0xFD3E, 0xFD4F), (0xFDCF, 0xFDFF), (0xFE45, 0xFE46), (0x10101, 0x10101), (0x10140, 0x1018C),
  (0x10190, 0x101A0), (0x1091F, 0x1091F), (0x10B39, 0x10B3F), (0x11052, 0x11065),
  (0x11660, 0x1166C), (0x11FD5, 0x11FDC), (0x11FE1, 0x11FF1), (0x16FE2, 0x16FE2),
  (0x1D1E9, 0x1D241), (0x1D245, 0x1D245), (0x1D300, 0x1D356), (0x1EEF0, 0x1EEF1),
  (0x1F000, 0x1F12F), (0x1F16D, 0x1F16F), (0x1F1AD, 0x1F1AD), (0x1F260, 0x1F265),
  (0x1F300, 0x1F6D7), (0x1F6DC, 0x1F776), (0x1F77B, 0x1F8B1), (0x1F8D0, 0x1FA88),
  (0x1FA90, 0x1FABD), (0x1FABF, 0x1FAC5), (0x1FACE, 0x1FADB), (0x1FAE0, 0x1FAE8),
  (0x1FAF0, 0x1FBCA)]

def direction (c : Char) : Direction :=
  if c = '+' ∨ c = '-' ∨ c = '\u2212' then .numberSign
  else if isNonspacing c ∧ c ∉ ['\u0CBF', '\u0CC6'] ∧ !isWithin 0x11A07 0x11A08 c then .nonspacing
  else if inRanges rightRanges c.toNat then .right
  else if inRanges arabicRanges c.toNat then .arabic
  else if inRanges arabicNumberRanges c.toNat then .arabicNumber
  else if inRanges numberRanges c.toNat then .number
  else if inRanges terminatorRanges c.toNat then .terminator
  else if inRanges separatorRanges c.toNat then .separator
  else if inRanges boundaryRanges c.toNat then .boundary
  else if inRanges neutralRanges c.toNat then .neutral
  else .left

/-- Whether a label begins and ends so that its order is plain, and holds no other directions than
given. -/
def Direction.keepsOrder (begins within ends : List Direction) (ds : List Direction) : Bool :=
  ds.head?.all begins.contains && ds.all within.contains &&
    (ds.reverse.dropWhile (· == .nonspacing)).head?.any ends.contains

def isLeftToRight (ds : List Direction) : Bool :=
  Direction.keepsOrder [.left]
    [.left, .number, .numberSign, .separator, .terminator, .neutral, .boundary, .nonspacing]
    [.left, .number] ds

/-- A label that is written to the left. It does not hold numbers of both kinds. -/
def isRightToLeft (ds : List Direction) : Bool :=
  Direction.keepsOrder [.right, .arabic]
      [.right, .arabic, .arabicNumber, .number, .numberSign, .separator, .terminator, .neutral,
        .boundary, .nonspacing]
      [.right, .arabic, .number, .arabicNumber] ds &&
    !(ds.contains .number && ds.contains .arabicNumber)

/-- Characters that are written to the left, or make the text beside them so. -/
def isLeftward (c : Char) : Bool := [Direction.right, .arabic, .arabicNumber].contains (direction c)

def isDirected (label : List Char) : Bool :=
  label.isEmpty || isLeftToRight (label.map direction) || isRightToLeft (label.map direction)

end Compliance.Text
