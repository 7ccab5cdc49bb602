/-! The western single-byte encoding: Latin-1, with further characters in place of most of the
upper controls. -/

namespace AddressSync.Text

def westernExtras : List Char :=
  ['\u20AC', '\u0081', '\u201A', '\u0192', '\u201E', '\u2026', '\u2020', '\u2021',
   '\u02C6', '\u2030', '\u0160', '\u2039', '\u0152', '\u008D', '\u017D', '\u008F',
   '\u0090', '\u2018', '\u2019', '\u201C', '\u201D', '\u2022', '\u2013', '\u2014',
   '\u02DC', '\u2122', '\u0161', '\u203A', '\u0153', '\u009D', '\u017E', '\u0178']

def western (b : UInt8) : Char :=
  if 0x80 ≤ b ∧ b < 0xA0 then (westernExtras[b.toNat - 0x80]?).getD '\uFFFD'
  else Char.ofNat b.toNat

end AddressSync.Text
