import ShareAgent.Text.Blank
import ShareAgent.Text.Numeral

/-! # Numerals are read back

The numeral of a number within the bounds of its type is read as that number.  A numeral is that of
a tenth of the number and one more digit, and it is read the same way (`readDigits_append`). -/
namespace ShareAgent.Numeral

variable {base limit n : Nat} {overflow : NumeralError}

theorem readDigits_append (value : Nat) (s t : Text) :
    readDigits base limit overflow value (s ++ t) =
      (readDigits base limit overflow value s).bind
        (readDigits base limit overflow · t) := by
  induction s generalizing value with
  | nil => rfl
  | cons c s ih =>
    rw [List.cons_append, readDigits, readDigits]
    cases digit? base c with
    | none => rfl
    | some d =>
      by_cases hd : base * value + d ≤ limit
      · simp only [if_pos hd, ih]
      · simp only [if_neg hd]
        rfl

theorem digit?_digitChar (hn : n < 10) : digit? 10 n.digitChar = some n := by
  have hvalue : n.digitChar.toNat - 48 = n := Nat.toNat_digitChar_sub_48_of_lt_ten hn
  rw [digit?, Nat.isDigit_digitChar, hvalue]
  simp [hn]

theorem readDigits_ofNat (hn : n ≤ limit) :
    readDigits 10 limit overflow 0 (Text.ofNat n) = .ok n := by
  induction n using Nat.strongRecOn with
  | ind n ih =>
    -- The last digit comes after the numeral of a tenth.
    rw [Text.ofNat]
    by_cases hsmall : n < 10
    · rw [Nat.toDigits_of_lt_base hsmall, readDigits, digit?_digitChar hsmall]
      simp [hn, readDigits]
    · have htenth : readDigits 10 limit overflow 0 (Nat.toDigits 10 (n / 10)) = .ok (n / 10) :=
        ih (n / 10) (by omega) (by omega)
      have hsum : 10 * (n / 10) + n % 10 = n := by omega
      rw [Nat.toDigits_of_base_le (by omega) (by omega), readDigits_append, htenth, Except.bind,
        readDigits, digit?_digitChar (Nat.mod_lt n (by omega))]
      simp only [hsum, if_pos hn, readDigits]

theorem isDigit_of_mem_ofNat {c : Char} (hc : c ∈ Text.ofNat n) : c.isDigit :=
  Nat.isDigit_of_mem_toDigits (by omega) (by omega) hc

theorem isBlank_of_mem_ofNat {c : Char} (hc : c ∈ Text.ofNat n) : isBlank c = false := by
  have hdigit := isDigit_of_mem_ofNat hc
  simp only [Char.isDigit, Bool.and_eq_true, decide_eq_true_eq, UInt32.le_iff_toNat_le,
    ge_iff_le] at hdigit
  change 48 ≤ c.toNat ∧ c.toNat ≤ 57 at hdigit
  obtain ⟨hlow, hhigh⟩ := hdigit
  simp only [isBlank, Bool.or_eq_false_iff, Bool.and_eq_false_iff, decide_eq_false_iff_not]
  omega

theorem ofNat_ne_nil : Text.ofNat n ≠ [] := Nat.toDigits_ne_nil

/-- **A number that fits is read back from its numeral.** -/
theorem readWord_ofNat {bits : Nat} (hn : n < 1 <<< bits) :
    readWord bits (Text.ofNat n) = .ok n := by
  obtain ⟨c, rest, hdigits⟩ := List.exists_cons_of_ne_nil (ofNat_ne_nil (n := n))
  have hc : c ≠ '+' := by
    rintro rfl
    have hplus : '+' ∈ Text.ofNat n := by simp [hdigits]
    exact absurd (isDigit_of_mem_ofNat hplus) (by decide)
  have hread : readDigits 10 (1 <<< bits - 1) .tooLarge 0 (c :: rest) = .ok n :=
    hdigits ▸ readDigits_ofNat (by omega)
  rw [readWord, hdigits, readNat, readSome]
  · exact hread
  · exact nofun
  · exact nofun
  · rintro rest' h
    exact hc (List.cons.inj h).1

/-- A positive number that fits is read back as a number with a sign. -/
theorem readInt_ofNat {bits : Nat} (hn : n < 1 <<< (bits - 1)) :
    readInt bits (Text.ofNat n) = .ok n := by
  obtain ⟨c, rest, hdigits⟩ := List.exists_cons_of_ne_nil (ofNat_ne_nil (n := n))
  have hdigit : c.isDigit := isDigit_of_mem_ofNat (hdigits ▸ List.mem_cons_self)
  have hread : readDigits 10 (1 <<< (bits - 1) - 1) .tooLarge 0 (c :: rest) = .ok n :=
    hdigits ▸ readDigits_ofNat (by omega)
  rw [hdigits]
  unfold readInt
  split
  · contradiction
  · rename_i h
    rw [(List.cons.inj h).1] at hdigit
    exact absurd hdigit (by decide)
  · rename_i h
    rw [(List.cons.inj h).1] at hdigit
    exact absurd hdigit (by decide)
  · rw [readSome, hread]
    rfl
    exact nofun

/-- Different numbers have different numerals. -/
theorem ofNat_injective {m : Nat} (h : Text.ofNat m = Text.ofNat n) : m = n := by
  have hm : readDigits 10 (max m n) .tooLarge 0 (Text.ofNat m) = .ok m :=
    readDigits_ofNat (Nat.le_max_left m n)
  have hn : readDigits 10 (max m n) .tooLarge 0 (Text.ofNat n) = .ok n :=
    readDigits_ofNat (Nat.le_max_right m n)
  rw [h, hn] at hm
  exact (Except.ok.inj hm).symm

/-! ## What is read fits -/

theorem toOption_eq_some_iff {number : Except NumeralError Nat} :
    number.toOption = some n ↔ number = .ok n := by
  cases number <;> simp [Except.toOption]

theorem readDigits_le {value : Nat} {t : Text} (hvalue : value ≤ limit)
    (h : readDigits base limit overflow value t = .ok n) : n ≤ limit := by
  induction t generalizing value with
  | nil =>
    obtain rfl := Except.ok.inj h
    exact hvalue
  | cons c rest ih =>
    rw [readDigits] at h
    cases hdigit : digit? base c with
    | none =>
      rw [hdigit] at h
      cases h
    | some d =>
      simp only [hdigit] at h
      by_cases hfits : base * value + d ≤ limit
      · rw [if_pos hfits] at h
        exact ih hfits h
      · rw [if_neg hfits] at h
        cases h

theorem readSome_le {t : Text} (h : readSome base limit overflow t = .ok n) : n ≤ limit := by
  cases t with
  | nil => cases h
  | cons c rest => exact readDigits_le (Nat.zero_le limit) h

/-- **A number that is read fits its type.** -/
theorem readWord_lt {bits : Nat} {t : Text} (h : readWord bits t = .ok n) : n < 1 <<< bits := by
  have hpos : 0 < 1 <<< bits := by
    rw [Nat.one_shiftLeft]
    exact Nat.two_pow_pos bits
  have hle : n ≤ 1 <<< bits - 1 := by
    unfold readWord readNat at h
    split at h
    · cases h
    · exact readSome_le h
    · exact readSome_le h
  omega

/-! ## What is read has digits -/

/-- A sign, if there is one, and digits. -/
def IsInteger (t : Text) : Prop :=
  ∃ sign digits, t = sign ++ digits ∧ (sign = [] ∨ sign = ['+'] ∨ sign = ['-']) ∧
    digits ≠ [] ∧ ∀ c ∈ digits, c.isDigit

theorem isInteger_ofNat (n : Nat) : IsInteger (Text.ofNat n) :=
  ⟨[], Text.ofNat n, rfl, .inl rfl, ofNat_ne_nil, fun _ => isDigit_of_mem_ofNat⟩

theorem isDigit_of_readDigits {value : Nat} {t : Text}
    (h : readDigits base limit overflow value t = .ok n) : ∀ c ∈ t, c.isDigit := by
  induction t generalizing value with
  | nil => exact List.forall_mem_nil _
  | cons c rest ih =>
    rw [readDigits] at h
    cases hdigit : digit? base c with
    | none =>
      rw [hdigit] at h
      cases h
    | some d =>
      simp only [hdigit] at h
      by_cases hfits : base * value + d ≤ limit
      · rw [if_pos hfits] at h
        have hc : c.isDigit := by
          unfold digit? at hdigit
          split at hdigit
          · rename_i hc
            exact (Bool.and_eq_true_iff.mp hc).1
          · cases hdigit
        exact List.forall_mem_cons.mpr ⟨hc, ih h⟩
      · rw [if_neg hfits] at h
        cases h

theorem isDigit_of_readSome {t : Text} (h : readSome base limit overflow t = .ok n) :
    t ≠ [] ∧ ∀ c ∈ t, c.isDigit := by
  cases t with
  | nil => cases h
  | cons c rest => exact ⟨List.cons_ne_nil _ _, isDigit_of_readDigits h⟩

theorem plus_or_isDigit_of_readNat {t : Text} (h : readNat base limit t = .ok n) :
    ∀ c ∈ t, c = '+' ∨ c.isDigit := by
  unfold readNat at h
  split at h
  · cases h
  · exact List.forall_mem_cons.mpr ⟨.inl rfl, fun c hc => .inr ((isDigit_of_readSome h).2 c hc)⟩
  · exact fun c hc => .inr ((isDigit_of_readSome h).2 c hc)

/-- **Only a sign and digits are read as a number.** -/
theorem isInteger_of_readInt {bits : Nat} {t : Text} {z : Int} (h : readInt bits t = .ok z) :
    IsInteger t := by
  have hsome : ∀ (limit : Nat) (overflow : NumeralError) {digits : Text},
      (∀ e, readSome 10 limit overflow digits ≠ .error e) →
        digits ≠ [] ∧ ∀ c ∈ digits, c.isDigit := by
    intro limit overflow digits hread
    cases hcase : readSome 10 limit overflow digits with
    | error e => exact (hread e hcase).elim
    | ok n => exact isDigit_of_readSome hcase
  unfold readInt at h
  split at h
  · cases h
  · refine ⟨['+'], _, rfl, .inr (.inl rfl), hsome (1 <<< (bits - 1) - 1) .tooLarge fun e he => ?_⟩
    rw [he] at h
    cases h
  · refine ⟨['-'], _, rfl, .inr (.inr rfl), hsome (1 <<< (bits - 1)) .tooSmall fun e he => ?_⟩
    rw [he] at h
    cases h
  · refine ⟨[], _, rfl, .inl rfl, hsome (1 <<< (bits - 1) - 1) .tooLarge fun e he => ?_⟩
    rw [he] at h
    cases h

end ShareAgent.Numeral
