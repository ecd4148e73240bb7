/-! # Device numbers

A device number packs a major and a minor number, each split in two so that small ones stay in the
low bits. -/
namespace ShareAgent.DeviceNumber

/-- Packs a major and a minor number of 32 bits. -/
def make (major minor : Nat) : Nat :=
  major / 0x1000 * 0x100000000000 + minor / 0x100 * 0x100000 + major % 0x1000 * 0x100 +
    minor % 0x100

/-- The major number. -/
def major (number : Nat) : Nat :=
  number / 0x100000000000 % 0x100000 * 0x1000 + number / 0x100 % 0x1000

/-- The minor number. -/
def minor (number : Nat) : Nat := number / 0x100000 % 0x1000000 * 0x100 + number % 0x100

/-- A device number has the major number it was made of. -/
theorem major_make {a b : Nat} (ha : a < 0x100000000) (hb : b < 0x100000000) :
    major (make a b) = a := by
  have hu : b / 0x100 < 0x1000000 := by omega
  have ht : (make a b) / 0x100000000000 = a / 0x1000 := by simp only [make]; omega
  have hm : (make a b) / 0x100 % 0x1000 = a % 0x1000 := by simp only [make]; omega
  simp only [major, ht, hm]
  omega

/-- A device number has the minor number it was made of. -/
theorem minor_make {a b : Nat} (hb : b < 0x100000000) : minor (make a b) = b := by
  have hm : (make a b) / 0x100000 % 0x1000000 = b / 0x100 := by simp only [make]; omega
  have hl : (make a b) % 0x100 = b % 0x100 := by simp only [make]; omega
  simp only [minor, hm, hl]
  omega

/-- The number made of two of 32 bits has 64. -/
theorem make_lt {a b : Nat} (ha : a < 0x100000000) (hb : b < 0x100000000) :
    make a b < 0x10000000000000000 := by
  simp only [make]
  omega

/-- A number of 64 bits is made of its major and its minor number. -/
theorem make_major_minor {n : Nat} (hn : n < 0x10000000000000000) :
    make (major n) (minor n) = n := by
  simp only [make, major, minor]
  omega

/-- **No two device numbers have both numbers in common.** -/
theorem eq_of_major_minor {m n : Nat} (hm : m < 0x10000000000000000)
    (hn : n < 0x10000000000000000) (hmajor : major m = major n) (hminor : minor m = minor n) :
    m = n := by
  rw [← make_major_minor hm, hmajor, hminor, make_major_minor hn]

end ShareAgent.DeviceNumber
