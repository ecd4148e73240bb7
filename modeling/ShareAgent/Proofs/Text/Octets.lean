import ShareAgent.Proofs.Text.Pieces
import ShareAgent.Proofs.Text.Utf8

/-! # Texts and their octets

What the scanner has read is always the octets of the characters it has found and, at the end, the
first octets of one more (`Scanner.Reads`), unless it has found a gap.  So octets are well formed
only if they are those of a text, and decoding finds that text (`decode?_eq_some_iff`).  Octets
below 0x80 stand for themselves only: whatever they are, octets can be decoded in two parts before
one of these (`decodeLossy_append_cons`).  So the lines of a text can be cut in its octets
(`pieces_encode`), and octets are a text exactly if each of their lines is (`isText_iff_pieces`).
-/
namespace ShareAgent.Utf8

variable {found : List (Option Char)} {octet : UInt8} {octets q : Bytes} {u : Unfinished}
  {c : Char} {t : Text} {n : Nat}

/-! ## Characters from their octets -/

theorem ofNat_eq (octet : UInt8) (h : n = octet.toNat) : UInt8.ofNat n = octet := by
  rw [h, UInt8.ofNat_toNat]

/-- The first octets of a character, and what is known of it then.  The bounds leave out overlong
forms, surrogates and values above U+10FFFF. -/
inductive Pending : Bytes → Unfinished → Prop
  | two {a : UInt8} (ha : 0xC2 ≤ a.toNat) (ha' : a.toNat < 0xE0) :
      Pending [a] ⟨a.toNat - 0xC0, 1, 0x80, 0xBF⟩
  | three {a : UInt8} (ha : 0xE0 ≤ a.toNat) (ha' : a.toNat < 0xF0) :
      Pending [a] ⟨a.toNat - 0xE0, 2, if a.toNat = 0xE0 then 0xA0 else 0x80,
        if a.toNat = 0xED then 0x9F else 0xBF⟩
  | threeLast {a b : UInt8} {bits : Nat} (ha : 0xE0 ≤ a.toNat) (hb : 0x80 ≤ b.toNat)
      (hb' : b.toNat ≤ 0xBF) (hbits : bits = (a.toNat - 0xE0) * 64 + (b.toNat - 0x80))
      (hlow : 32 ≤ bits) (hvalid : bits < 0x360 ∨ 0x37F < bits ∧ bits < 0x400) :
      Pending [a, b] ⟨bits, 1, 0x80, 0xBF⟩
  | four {a : UInt8} (ha : 0xF0 ≤ a.toNat) (ha' : a.toNat < 0xF5) :
      Pending [a] ⟨a.toNat - 0xF0, 3, if a.toNat = 0xF0 then 0x90 else 0x80,
        if a.toNat = 0xF4 then 0x8F else 0xBF⟩
  | fourNext {a b : UInt8} {bits : Nat} (ha : 0xF0 ≤ a.toNat) (hb : 0x80 ≤ b.toNat)
      (hb' : b.toNat ≤ 0xBF) (hbits : bits = (a.toNat - 0xF0) * 64 + (b.toNat - 0x80))
      (hlow : 16 ≤ bits) (hvalid : bits < 0x110) :
      Pending [a, b] ⟨bits, 2, 0x80, 0xBF⟩
  | fourLast {a b d : UInt8} {bits : Nat} (ha : 0xF0 ≤ a.toNat) (hb : 0x80 ≤ b.toNat)
      (hb' : b.toNat ≤ 0xBF) (hd : 0x80 ≤ d.toNat) (hd' : d.toNat ≤ 0xBF)
      (hbits : bits = ((a.toNat - 0xF0) * 64 + (b.toNat - 0x80)) * 64 + (d.toNat - 0x80))
      (hlow : 0x400 ≤ bits) (hvalid : bits < 0x4400) :
      Pending [a, b, d] ⟨bits, 1, 0x80, 0xBF⟩

theorem toNat_ofNat (hn : n < 0xD800 ∨ 0xDFFF < n ∧ n < 0x110000) : (Char.ofNat n).toNat = n := by
  rw [Char.ofNat, dif_pos hn]
  rfl

/-- An octet by itself is a character of ASCII. -/
theorem encodeChar_of_whole (h : Lead.of octet = .whole c) : encodeChar c = [octet] := by
  simp only [Lead.of] at h
  split at h
  · rename_i hn
    obtain rfl := Lead.whole.inj h
    rw [encodeChar, toNat_ofNat (.inl (by omega)), if_pos hn, UInt8.ofNat_toNat]
  · repeat' split at h
    all_goals cases h

theorem pending_of_opens (h : Lead.of octet = .opens u) : Pending [octet] u := by
  simp only [Lead.of] at h
  split at h
  · cases h
  split at h
  · cases h
  split at h
  · obtain rfl := Lead.opens.inj h
    exact .two (by omega) (by omega)
  split at h
  · obtain rfl := Lead.opens.inj h
    exact .three (by omega) (by omega)
  split at h
  · obtain rfl := Lead.opens.inj h
    exact .four (by omega) (by omega)
  · cases h

/-- The last octet completes the character. -/
theorem Pending.complete (h : Pending q u) (hlast : u.missing = 1) (hlow : u.low ≤ octet.toNat)
    (hhigh : octet.toNat ≤ u.high) :
    encodeChar (.ofNat (u.bits * 64 + (octet.toNat - 0x80))) = q ++ [octet] := by
  cases h
  case two a ha ha' =>
    dsimp only at hlow hhigh ⊢
    rw [encodeChar, toNat_ofNat (.inl (by omega)), if_neg (by omega), if_pos (by omega)]
    rw [ofNat_eq a (by omega), ofNat_eq octet (by omega)]
    rfl
  case threeLast a b bits ha hb hb' hbits hlow' hvalid =>
    dsimp only at hlow hhigh ⊢
    rw [encodeChar, toNat_ofNat (by omega), if_neg (by omega), if_neg (by omega),
      if_pos (by omega)]
    rw [ofNat_eq a (by omega), ofNat_eq b (by omega),
      ofNat_eq octet (by omega)]
    rfl
  case fourLast a b d bits ha hb hb' hd hd' hbits hlow' hvalid =>
    dsimp only at hlow hhigh ⊢
    rw [encodeChar, toNat_ofNat (by omega), if_neg (by omega), if_neg (by omega),
      if_neg (by omega)]
    rw [ofNat_eq a (by omega), ofNat_eq b (by omega),
      ofNat_eq d (by omega), ofNat_eq octet (by omega)]
    rfl
  all_goals cases hlast

/-- An octet before the last one is added to the first ones. -/
theorem Pending.next (h : Pending q u) (hmissing : u.missing ≠ 1) (hlow : u.low ≤ octet.toNat)
    (hhigh : octet.toNat ≤ u.high) : Pending (q ++ [octet])
      ⟨u.bits * 64 + (octet.toNat - 0x80), u.missing - 1, 0x80, 0xBF⟩ := by
  cases h
  case three a ha ha' =>
    dsimp only at hlow hhigh ⊢
    refine .threeLast ha ?_ ?_ rfl ?_ ?_ <;> split at hlow <;> split at hhigh <;> omega
  case four a ha ha' =>
    dsimp only at hlow hhigh ⊢
    refine .fourNext ha ?_ ?_ rfl ?_ ?_ <;> split at hlow <;> split at hhigh <;> omega
  case fourNext a b bits ha hb hb' hbits hlow' hvalid =>
    dsimp only at hlow hhigh ⊢
    exact .fourLast ha hb hb' hlow hhigh (by rw [hbits]) (by omega) (by omega)
  all_goals exact (hmissing rfl).elim

/-! ## What the scanner has read -/

namespace Scanner

/-- Without a gap, what was read are the octets of what was found, and then of an unfinished
character. -/
def Reads (s : Scanner) (octets : Bytes) : Prop :=
  none ∈ s.found ∨ ∃ t rest, s.found = (t.map some).reverse ∧ octets = encode t ++ rest ∧
    match s.unfinished with
    | none => rest = []
    | some u => Pending rest u

theorem reads_start : start.Reads [] := .inr ⟨[], [], rfl, rfl, rfl⟩

theorem none_mem_lead (h : none ∈ found) (octet : UInt8) : none ∈ (lead found octet).found := by
  unfold lead
  split
  · exact .tail _ h
  · exact h
  · exact .tail _ h

theorem none_mem_read {s : Scanner} (h : none ∈ s.found) (octet : UInt8) :
    none ∈ (s.read octet).found := by
  unfold read
  split
  · exact none_mem_lead h octet
  · split
    · dsimp only
      split
      · exact .tail _ h
      · exact h
    · exact none_mem_lead (.tail _ h) octet

/-- **Another octet.** -/
theorem Reads.read {s : Scanner} (h : s.Reads octets) (octet : UInt8) :
    (s.read octet).Reads (octets ++ [octet]) := by
  rcases h with hgap | ⟨t, rest, hfound, hoctets, hrest⟩
  · exact .inl (none_mem_read hgap octet)
  unfold Scanner.read
  cases hunfinished : s.unfinished with
  | none =>
    rw [hunfinished] at hrest
    subst hrest hoctets
    dsimp only
    unfold lead
    cases hlead : Lead.of octet with
    | whole c =>
      refine .inr ⟨t ++ [c], [], ?_, ?_, rfl⟩
      · simp [hfound]
      · simp [encode, encodeChar_of_whole hlead]
    | opens u =>
      exact .inr ⟨t, [octet], hfound, by simp, pending_of_opens hlead⟩
    | malformed => exact .inl (.head _)
  | some u =>
    rw [hunfinished] at hrest
    dsimp only
    split
    · rename_i hrange
      split
      · rename_i hlast
        refine .inr ⟨t ++ [.ofNat (u.bits * 64 + (octet.toNat - 0x80))], [], ?_, ?_, rfl⟩
        · rw [List.map_append, List.reverse_append, hfound]
          rfl
        · rw [hoctets, List.append_assoc, ← hrest.complete hlast hrange.1 hrange.2]
          simp [encode]
      · rename_i hmissing
        refine .inr ⟨t, rest ++ [octet], hfound, ?_, hrest.next hmissing hrange.1 hrange.2⟩
        rw [hoctets, List.append_assoc]
    · exact .inl (none_mem_lead (.head _) octet)

theorem Reads.foldl {s : Scanner} (h : s.Reads q) (octets : Bytes) :
    (octets.foldl Scanner.read s).Reads (q ++ octets) := by
  induction octets generalizing s q with
  | nil =>
    rw [List.append_nil]
    exact h
  | cons octet octets ih =>
    rw [List.append_cons]
    exact ih (h.read octet)

end Scanner

/-! ## Texts -/

/-- **What is decoded has these octets.** -/
theorem encode_of_decode? (h : decode? octets = some t) : octets = encode t := by
  unfold decode? at h
  dsimp only at h
  split at h
  · rename_i hall
    have hnone : none ∉ scan octets := fun hmem => by
      simpa using List.all_eq_true.mp hall none hmem
    rw [scan, Scanner.finish] at hnone
    split at hnone
    · rename_i hfinished
      rcases Scanner.reads_start.foldl octets with hgap | ⟨s, rest, hfound, hoctets, hrest⟩
      · exact (hnone (List.mem_reverse.mpr hgap)).elim
      · rw [List.nil_append] at hoctets
        rw [hfinished] at hrest
        subst hrest
        rw [scan, Scanner.finish, hfinished] at h
        dsimp only at h
        rw [hfound, List.reverse_reverse] at h
        obtain rfl : s = t := by simpa using h
        rw [hoctets, List.append_nil]
    · exact (hnone (List.mem_reverse.mpr (.head _))).elim
  · cases h

/-- **Octets are decoded to the one text that has them.** -/
theorem decode?_eq_some_iff : decode? octets = some t ↔ octets = encode t := by
  constructor
  · exact encode_of_decode?
  · rintro rfl
    exact decode?_encode t

/-- These are the octets of a text. -/
def IsText (octets : Bytes) : Prop := ∃ t, octets = encode t

theorem decode?_eq_none_iff : decode? octets = none ↔ ¬ IsText octets := by
  rw [Option.eq_none_iff_forall_ne_some]
  constructor
  · rintro h ⟨t, ht⟩
    exact h t (decode?_eq_some_iff.mpr ht)
  · intro h t ht
    exact h ⟨t, decode?_eq_some_iff.mp ht⟩

instance : DecidablePred IsText := fun octets =>
  decidable_of_iff ((decode? octets).isSome = true) (by
    rw [Option.isSome_iff_exists]
    exact exists_congr fun _ => decode?_eq_some_iff)

theorem length_encodeChar (c : Char) : (encodeChar c).length = c.utf8Size := by
  unfold encodeChar Char.utf8Size
  simp only [UInt32.le_iff_toNat_le]
  change _ = if c.toNat ≤ 0x7F then 1 else if c.toNat ≤ 0x7FF then 2
    else if c.toNat ≤ 0xFFFF then 3 else 4
  split
  · rw [if_pos (by omega)]
    rfl
  split
  · rw [if_neg (by omega), if_pos (by omega)]
    rfl
  split
  · rw [if_neg (by omega), if_neg (by omega), if_pos (by omega)]
    rfl
  · rw [if_neg (by omega), if_neg (by omega), if_neg (by omega)]
    rfl

/-! ## Octets of ASCII -/

/-- An octet below 0x80 is the whole of a character. -/
theorem toNat_of_mem_encodeChar (hmem : octet ∈ encodeChar c) (hoctet : octet.toNat < 0x80) :
    c.toNat = octet.toNat := by
  have hvalid := toNat_cases c
  unfold encodeChar at hmem
  dsimp only at hmem
  split at hmem
  · rename_i hc
    rw [List.mem_singleton.mp hmem, toNat_octet (by omega)]
  have hhigh : ∀ m, 0x80 ≤ m → m < 256 → octet ≠ .ofNat m := by
    rintro m hm hm' rfl
    rw [toNat_octet hm'] at hoctet
    omega
  split at hmem
  · simp only [List.mem_cons, List.not_mem_nil, or_false] at hmem
    rcases hmem with h | h <;> exact (hhigh _ (by omega) (by omega) h).elim
  split at hmem
  · simp only [List.mem_cons, List.not_mem_nil, or_false] at hmem
    rcases hmem with h | h | h <;> exact (hhigh _ (by omega) (by omega) h).elim
  · simp only [List.mem_cons, List.not_mem_nil, or_false] at hmem
    rcases hmem with h | h | h | h <;> exact (hhigh _ (by omega) (by omega) h).elim

/-- A character beyond ASCII begins with an octet beyond ASCII. -/
theorem exists_encodeChar_wide (hc : 0x80 ≤ c.toNat) :
    ∃ octet others, encodeChar c = octet :: others ∧ 0x80 ≤ octet.toNat := by
  obtain ⟨octet, others, hoctets⟩ : ∃ octet others, encodeChar c = octet :: others := by
    refine List.exists_cons_of_length_pos ?_
    rw [length_encodeChar]
    exact c.utf8Size_pos
  refine ⟨octet, others, hoctets, Nat.le_of_not_lt fun hlow => ?_⟩
  have hvalue := toNat_of_mem_encodeChar (hoctets ▸ List.mem_cons_self) hlow
  omega

/-- The next octet of an unfinished character is beyond ASCII. -/
theorem Pending.low_le (h : Pending q u) : 0x80 ≤ u.low := by
  cases h with
  | three | four =>
    dsimp only
    split <;> decide
  | two | threeLast | fourNext | fourLast => exact Nat.le_refl 0x80

namespace Scanner

/-- No octet of ASCII can continue the character under way. -/
def Inner (s : Scanner) : Prop := ∀ u, s.unfinished = some u → 0x80 ≤ u.low

theorem inner_start : start.Inner := by
  intro u hu
  cases hu

theorem inner_lead (found : List (Option Char)) (octet : UInt8) : (lead found octet).Inner := by
  unfold lead
  cases hlead : Lead.of octet with
  | whole | malformed =>
    intro v hv
    cases hv
  | opens u =>
    intro v hv
    obtain rfl := Option.some.inj hv
    exact (pending_of_opens hlead).low_le

theorem inner_read (s : Scanner) (octet : UInt8) : (s.read octet).Inner := by
  unfold read
  cases s.unfinished with
  | none => exact inner_lead s.found octet
  | some u =>
    dsimp only
    split
    · split
      · intro v hv
        cases hv
      · intro v hv
        obtain rfl := Option.some.inj hv
        exact Nat.le_refl 0x80
    · exact inner_lead (none :: s.found) octet

theorem inner_foldl {s : Scanner} (h : s.Inner) (octets : Bytes) :
    (octets.foldl read s).Inner := by
  induction octets generalizing s with
  | nil => exact h
  | cons octet octets ih => exact ih (inner_read s octet)

/-- An octet of ASCII ends the character under way and is one by itself. -/
theorem Inner.read_whole {s : Scanner} (h : s.Inner) (hoctet : octet.toNat < 0x80) :
    s.read octet = ⟨some (Char.ofNat octet.toNat) :: s.finish.reverse, none⟩ := by
  have hlead : Lead.of octet = .whole (Char.ofNat octet.toNat) := by
    rw [Lead.of, if_pos hoctet]
  unfold read finish
  cases hunfinished : s.unfinished with
  | none => simp only [lead, hlead, List.reverse_reverse]
  | some u =>
    have hlow : ¬ (u.low ≤ octet.toNat ∧ octet.toNat ≤ u.high) := by
      have := h u hunfinished
      omega
    simp only [if_neg hlow, lead, hlead, List.reverse_reverse]

end Scanner

/-- **Octets can be cut before one of ASCII.** -/
theorem decodeLossy_append_cons (hoctet : octet.toNat < 0x80) (front back : Bytes) :
    decodeLossy (front ++ octet :: back) =
      decodeLossy front ++ Char.ofNat octet.toNat :: decodeLossy back := by
  have hinner : (front.foldl Scanner.read .start).Inner :=
    Scanner.inner_foldl Scanner.inner_start front
  have hscan : scan (front ++ octet :: back) =
      scan front ++ some (Char.ofNat octet.toNat) :: scan back := by
    rw [scan, List.foldl_append, List.foldl_cons, hinner.read_whole hoctet, Scanner.finish_foldl,
      List.reverse_cons, List.reverse_reverse, List.append_assoc, ← scan]
    rfl
  rw [decodeLossy, hscan, List.map_append, List.map_cons]
  rfl

/-! ## Lines -/

theorem feed_mem_encodeChar (c : Char) : 0x0A ∈ encodeChar c ↔ c = '\n' := by
  constructor
  · intro h
    have hvalue : c.toNat = 0x0A := toNat_of_mem_encodeChar h (by decide)
    rw [← Char.ofNat_toNat c, hvalue]
  · rintro rfl
    decide

theorem feed_mem_encode (t : Text) : 0x0A ∈ encode t ↔ '\n' ∈ t := by
  rw [encode, List.mem_flatMap]
  constructor
  · rintro ⟨c, hc, hmem⟩
    rwa [(feed_mem_encodeChar c).mp hmem] at hc
  · exact fun h => ⟨_, h, (feed_mem_encodeChar _).mpr rfl⟩

/-- **A text and its octets have the same lines.** -/
theorem pieces_encode (t : Text) :
    Text.pieces (· == 0x0A) (encode t) = (Text.pieces (· == '\n') t).map encode := by
  induction t with
  | nil => rfl
  | cons c t ih =>
    rw [encode, List.flatMap_cons, ← encode]
    by_cases hc : c = '\n'
    · subst hc
      rw [Text.pieces_cons_of_pos (by decide), List.map_cons, ← ih]
      exact Text.pieces_cons_of_pos (by decide) _
    · have hcut : (c == '\n') = false := beq_eq_false_iff_ne.mpr hc
      have hoctets : ∀ octet ∈ encodeChar c, (octet == 0x0A) = false := fun octet hmem =>
        beq_eq_false_iff_ne.mpr fun h => hc ((feed_mem_encodeChar c).mp (h ▸ hmem))
      obtain ⟨first, others, ht⟩ := List.exists_cons_of_ne_nil (Text.pieces_ne_nil (· == '\n') t)
      rw [ht, List.map_cons] at ih
      rw [Text.pieces_cons_of_neg (p := (· == '\n')) hcut ht, Text.pieces_append_of_neg hoctets ih]
      rfl

/-- **Octets are a text if each of their lines is.** -/
theorem isText_iff_pieces :
    IsText octets ↔ ∀ line ∈ Text.pieces (· == 0x0A) octets, IsText line := by
  constructor
  · rintro ⟨t, rfl⟩ line hline
    rw [pieces_encode] at hline
    obtain ⟨l, -, rfl⟩ := List.mem_map.mp hline
    exact ⟨l, rfl⟩
  · intro h
    -- On the length: what follows the first line feed is shorter.
    induction hn : octets.length using Nat.strongRecOn generalizing octets with
    | ind n ih =>
      by_cases hfeed : 0x0A ∈ octets
      · obtain ⟨line, rest, rfl, hline⟩ := List.eq_append_cons_of_mem hfeed
        rw [Text.pieces_append_cons (by decide), Text.pieces_of_not_mem hline] at h
        obtain ⟨⟨s, rfl⟩, hrest⟩ := List.forall_mem_cons.mp h
        have hlength : rest.length < n := by
          rw [← hn, List.length_append, List.length_cons]
          omega
        obtain ⟨t, rfl⟩ := ih rest.length hlength hrest rfl
        refine ⟨s ++ '\n' :: t, ?_⟩
        rw [encode_append, encode, encode, encode, List.flatMap_cons]
        rfl
      · rw [Text.pieces_of_not_mem hfeed] at h
        exact h octets (.head _)

end ShareAgent.Utf8
