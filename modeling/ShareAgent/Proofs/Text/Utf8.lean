import ShareAgent.Text.Utf8

/-! # Texts are read back from their octets

The scanner finds a character in each encoded one, whatever it has found before
(`foldl_encodeChar`): the first octet says how many are missing, and each of these carries six bits.
So decoding undoes encoding, and whatever follows a text is decoded as if it stood alone
(`decodeLossy_encode_append`). -/
namespace ShareAgent.Utf8

variable {found : List (Option Char)} {octet : UInt8} {n k bits low high : Nat}

theorem toNat_octet (hn : n < 256) : (UInt8.ofNat n).toNat = n := UInt8.toNat_ofNat_of_lt' hn

namespace Scanner

theorem read_opens {u : Unfinished} (h : Lead.of octet = .opens u) :
    read ⟨found, none⟩ octet = ⟨found, some u⟩ := by
  simp only [read, lead, h]

/-- Six more bits. -/
theorem read_bits {missing : Nat} (hk : k < 64) (hlow : low ≤ 0x80 + k) (hhigh : 0x80 + k ≤ high) :
    read ⟨found, some ⟨bits, missing + 2, low, high⟩⟩ (.ofNat (0x80 + k)) =
      ⟨found, some ⟨bits * 64 + k, missing + 1, 0x80, 0xBF⟩⟩ := by
  have hvalue : (UInt8.ofNat (0x80 + k)).toNat = 0x80 + k := toNat_octet (by omega)
  simp only [read, hvalue, if_pos (And.intro hlow hhigh), Nat.add_sub_cancel_left]
  rw [if_neg (by omega)]
  rfl

/-- The last six bits. -/
theorem read_lastBits (hk : k < 64) (hlow : low ≤ 0x80 + k) (hhigh : 0x80 + k ≤ high) :
    read ⟨found, some ⟨bits, 1, low, high⟩⟩ (.ofNat (0x80 + k)) =
      ⟨some (Char.ofNat (bits * 64 + k)) :: found, none⟩ := by
  have hvalue : (UInt8.ofNat (0x80 + k)).toNat = 0x80 + k := toNat_octet (by omega)
  simp only [read, hvalue, if_pos (And.intro hlow hhigh), Nat.add_sub_cancel_left, if_true]

end Scanner
open Scanner

/-! ## The four lengths -/

theorem foldl_one (hn : n < 0x80) :
    [UInt8.ofNat n].foldl read ⟨found, none⟩ = ⟨some (Char.ofNat n) :: found, none⟩ := by
  have hvalue : (UInt8.ofNat n).toNat = n := toNat_octet (by omega)
  have hlead : Lead.of (.ofNat n) = .whole (Char.ofNat n) := by
    simp only [Lead.of, hvalue, if_pos hn]
  simp only [List.foldl_cons, List.foldl_nil, Scanner.read, lead, hlead]

theorem foldl_two (hlow : 0x80 ≤ n) (hhigh : n < 0x800) :
    [UInt8.ofNat (0xC0 + n / 64), UInt8.ofNat (0x80 + n % 64)].foldl read ⟨found, none⟩ =
      ⟨some (Char.ofNat n) :: found, none⟩ := by
  have hvalue : (UInt8.ofNat (0xC0 + n / 64)).toNat = 0xC0 + n / 64 :=
    toNat_octet (by omega)
  have hlead : Lead.of (.ofNat (0xC0 + n / 64)) = .opens ⟨n / 64, 1, 0x80, 0xBF⟩ := by
    simp only [Lead.of, hvalue, Nat.add_sub_cancel_left]
    rw [if_neg (by omega), if_neg (by omega), if_pos (by omega)]
  have hbits : n / 64 * 64 + n % 64 = n := by omega
  rw [List.foldl_cons, read_opens hlead, List.foldl_cons,
    read_lastBits (by omega) (by omega) (by omega), hbits, List.foldl_nil]

theorem foldl_three (hlow : 0x800 ≤ n) (hhigh : n < 0x10000)
    (hvalid : n < 0xD800 ∨ 0xDFFF < n) :
    [UInt8.ofNat (0xE0 + n / 4096), UInt8.ofNat (0x80 + n / 64 % 64),
        UInt8.ofNat (0x80 + n % 64)].foldl read ⟨found, none⟩ =
      ⟨some (Char.ofNat n) :: found, none⟩ := by
  have hvalue : (UInt8.ofNat (0xE0 + n / 4096)).toNat = 0xE0 + n / 4096 :=
    toNat_octet (by omega)
  have hlead : Lead.of (.ofNat (0xE0 + n / 4096)) = .opens ⟨n / 4096, 2,
      if 0xE0 + n / 4096 = 0xE0 then 0xA0 else 0x80,
      if 0xE0 + n / 4096 = 0xED then 0x9F else 0xBF⟩ := by
    simp only [Lead.of, hvalue, Nat.add_sub_cancel_left]
    rw [if_neg (by omega), if_neg (by omega), if_neg (by omega), if_pos (by omega)]
  have hbits : (n / 4096 * 64 + n / 64 % 64) * 64 + n % 64 = n := by omega
  -- Only the second octet has bounds of its own, which keep surrogates and overlong forms out.
  rw [List.foldl_cons, read_opens hlead, List.foldl_cons,
    read_bits (by omega) (by split <;> omega) (by split <;> omega), List.foldl_cons,
    read_lastBits (by omega) (by omega) (by omega), hbits, List.foldl_nil]

theorem foldl_four (hlow : 0x10000 ≤ n) (hhigh : n < 0x110000) :
    [UInt8.ofNat (0xF0 + n / 262144), UInt8.ofNat (0x80 + n / 4096 % 64),
        UInt8.ofNat (0x80 + n / 64 % 64), UInt8.ofNat (0x80 + n % 64)].foldl read ⟨found, none⟩ =
      ⟨some (Char.ofNat n) :: found, none⟩ := by
  have hvalue : (UInt8.ofNat (0xF0 + n / 262144)).toNat = 0xF0 + n / 262144 :=
    toNat_octet (by omega)
  have hlead : Lead.of (.ofNat (0xF0 + n / 262144)) = .opens ⟨n / 262144, 3,
      if 0xF0 + n / 262144 = 0xF0 then 0x90 else 0x80,
      if 0xF0 + n / 262144 = 0xF4 then 0x8F else 0xBF⟩ := by
    simp only [Lead.of, hvalue, Nat.add_sub_cancel_left]
    rw [if_neg (by omega), if_neg (by omega), if_neg (by omega), if_neg (by omega),
      if_pos (by omega)]
  have hbits : ((n / 262144 * 64 + n / 4096 % 64) * 64 + n / 64 % 64) * 64 + n % 64 = n := by
    omega
  rw [List.foldl_cons, read_opens hlead, List.foldl_cons,
    read_bits (by omega) (by split <;> omega) (by split <;> omega), List.foldl_cons,
    read_bits (by omega) (by omega) (by omega), List.foldl_cons,
    read_lastBits (by omega) (by omega) (by omega), hbits, List.foldl_nil]

/-! ## Texts -/

/-- No character is a surrogate or lies above U+10FFFF. -/
theorem toNat_cases (c : Char) :
    c.toNat < 0xD800 ∨ 0xDFFF < c.toNat ∧ c.toNat < 0x110000 := c.valid

/-- **The scanner finds an encoded character.** -/
theorem foldl_encodeChar (c : Char) :
    (encodeChar c).foldl read ⟨found, none⟩ = ⟨some c :: found, none⟩ := by
  have hvalid := toNat_cases c
  have hback : Char.ofNat c.toNat = c := Char.ofNat_toNat c
  unfold encodeChar
  by_cases h₁ : c.toNat < 0x80
  · rw [if_pos h₁, foldl_one h₁, hback]
  by_cases h₂ : c.toNat < 0x800
  · rw [if_neg h₁, if_pos h₂, foldl_two (by omega) h₂, hback]
  by_cases h₃ : c.toNat < 0x10000
  · rw [if_neg h₁, if_neg h₂, if_pos h₃, foldl_three (by omega) h₃ (by omega), hback]
  · rw [if_neg h₁, if_neg h₂, if_neg h₃, foldl_four (by omega) (by omega), hback]

theorem encode_cons (c : Char) (t : Text) : encode (c :: t) = encodeChar c ++ encode t :=
  List.flatMap_cons

theorem encode_append (s t : Text) : encode (s ++ t) = encode s ++ encode t :=
  List.flatMap_append

theorem foldl_encode (t : Text) :
    (encode t).foldl read ⟨found, none⟩ = ⟨(t.map some).reverse ++ found, none⟩ := by
  induction t generalizing found with
  | nil => rfl
  | cons c t ih =>
    rw [encode_cons, List.foldl_append, foldl_encodeChar, ih]
    simp

/-! ## What follows a text -/

namespace Scanner

/-- The same scanner with more found before. -/
def after (s : Scanner) (found : List (Option Char)) : Scanner := ⟨s.found ++ found, s.unfinished⟩

theorem lead_append (first found : List (Option Char)) (octet : UInt8) :
    lead (first ++ found) octet = (lead first octet).after found := by
  unfold lead
  cases Lead.of octet <;> rfl

theorem read_after (s : Scanner) (found : List (Option Char)) (octet : UInt8) :
    (s.after found).read octet = (s.read octet).after found := by
  unfold read after
  cases s.unfinished with
  | none => exact lead_append s.found found octet
  | some u =>
    dsimp only
    split
    · split <;> rfl
    · exact lead_append (none :: s.found) found octet

/-- What is found does not depend on what was found before. -/
theorem foldl_after (s : Scanner) (found : List (Option Char)) (octets : Bytes) :
    octets.foldl read (s.after found) = (octets.foldl read s).after found := by
  induction octets generalizing s with
  | nil => rfl
  | cons octet octets ih => rw [List.foldl_cons, read_after, ih, List.foldl_cons]

theorem finish_after (s : Scanner) (found : List (Option Char)) :
    (s.after found).finish = found.reverse ++ s.finish := by
  unfold finish after
  cases s.unfinished with
  | none => exact List.reverse_append
  | some u =>
    dsimp only
    rw [← List.cons_append, List.reverse_append]

/-- Where a character may begin, the rest is read by itself. -/
theorem finish_foldl (found : List (Option Char)) (octets : Bytes) :
    (octets.foldl read ⟨found, none⟩).finish = found.reverse ++ scan octets := by
  have hbefore : (⟨found, none⟩ : Scanner) = start.after found := rfl
  rw [hbefore, foldl_after, finish_after, scan]

end Scanner

theorem scan_encode_append (t : Text) (octets : Bytes) :
    scan (encode t ++ octets) = t.map some ++ scan octets := by
  rw [scan, List.foldl_append, start, foldl_encode, finish_foldl, List.append_nil,
    List.reverse_reverse]

theorem scan_encode (t : Text) : scan (encode t) = t.map some := by
  rw [← List.append_nil (encode t), scan_encode_append]
  exact List.append_nil _

/-- **Decoding undoes encoding.** -/
theorem decode?_encode (t : Text) : decode? (encode t) = some t := by
  rw [decode?, scan_encode]
  simp

/-- **A text is found before whatever follows it.** -/
theorem decodeLossy_encode_append (t : Text) (octets : Bytes) :
    decodeLossy (encode t ++ octets) = t ++ decodeLossy octets := by
  rw [decodeLossy, scan_encode_append, List.map_append, List.map_map]
  exact congrArg (· ++ decodeLossy octets) (List.map_id t)

/-- Nothing is lost where nothing is malformed. -/
theorem decodeLossy_encode (t : Text) : decodeLossy (encode t) = t := by
  rw [← List.append_nil (encode t), decodeLossy_encode_append]
  exact List.append_nil t

end ShareAgent.Utf8
