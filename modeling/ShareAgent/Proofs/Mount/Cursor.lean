import ShareAgent.Proofs.Mount.Escape
import ShareAgent.Proofs.Text.Numeral

/-! # Escaped fields, position by position

A field is read by a loop that holds a position in its octets.  At a backslash with room behind it
the loop looks ahead at three octets, which may cut a character in two, and goes on by four
positions if they are a numeral; everywhere else it copies one octet (`Cursor.step`).  To ask for
an octet that the field does not have is an outcome of its own, `Round.beyond`.

No round has that outcome.  The position never leaves the field, and what is written and what is
still to be read make up the whole (`Cursor.Stands`); each round keeps that and goes on by one
position at least.  So there are at most as many rounds as octets before the one that ends the
loop, with what reading the field by recursion gives (`Cursor.run_cases`).

A numeral has no backslash in it and no octet of a longer character (`ascii_of_octal?`).  So a
backslash always begins something new (`unescapeBytes_append_slash`), and where it is near the end
of the field, or in front of such a character, it stands for itself.
-/
namespace ShareAgent.Mount

variable {field octets rest : Bytes} {octet value : UInt8} {s t : Text} {c : Char}

/-! ## Where a backslash stands for itself -/

/-- A numeral is of ASCII, without a backslash. -/
theorem ascii_of_octal? {x y z : UInt8} (h : octal? x y z = some value) :
    ∀ octet ∈ [x, y, z], octet.toNat < 0x80 ∧ octet ≠ 0x5C := by
  unfold octal? at h
  split at h
  · cases h
  · rename_i digits hdecode
    split at h
    · rename_i n hread
      intro octet hmem
      rw [Utf8.encode_of_decode? hdecode] at hmem
      obtain ⟨c, hc, hoctet⟩ := List.mem_flatMap.mp hmem
      have hrange : 43 ≤ c.toNat ∧ c.toNat ≤ 57 := by
        rcases Numeral.plus_or_isDigit_of_readNat hread c hc with rfl | hdigit
        · decide
        · simp only [Char.isDigit, Bool.and_eq_true, decide_eq_true_eq, ge_iff_le,
            UInt32.le_iff_toNat_le] at hdigit
          obtain ⟨hlow, hhigh⟩ : 48 ≤ c.toNat ∧ c.toNat ≤ 57 := hdigit
          omega
      rw [Utf8.encodeChar, if_pos (by omega), List.mem_singleton] at hoctet
      have hvalue : octet.toNat = c.toNat := by rw [hoctet, Utf8.toNat_octet (by omega)]
      refine ⟨by omega, ?_⟩
      rintro rfl
      have hslash : (0x5C : UInt8).toNat = 92 := rfl
      omega
    · cases h

/-- An octet that no numeral has keeps the backslash in front of it. -/
theorem unescapeBytes_slash_of_mem (hmem : octet ∈ rest.take 3)
    (hoctet : 0x80 ≤ octet.toNat ∨ octet = 0x5C) :
    unescapeBytes (0x5C :: rest) = 0x5C :: unescapeBytes rest := by
  rcases rest with _ | ⟨x, _ | ⟨y, _ | ⟨z, rest⟩⟩⟩
  case cons.cons.cons =>
    refine unescapeBytes_of_octal?_eq_none (Option.eq_none_iff_forall_ne_some.mpr ?_) rest
    intro value hvalue
    obtain ⟨hascii, hslash⟩ := ascii_of_octal? hvalue octet hmem
    rcases hoctet with hhigh | hslash'
    · omega
    · exact hslash hslash'
  all_goals rfl

theorem exists_three (h : 3 ≤ octets.length) :
    ∃ x y z others, octets = x :: y :: z :: others := by
  rcases octets with _ | ⟨x, _ | ⟨y, _ | ⟨z, others⟩⟩⟩
  case cons.cons.cons => exact ⟨x, y, z, others, rfl⟩
  all_goals
    simp only [List.length_cons, List.length_nil] at h
    omega

/-- **A backslash always begins something new**: it is never part of a numeral. -/
theorem unescapeBytes_append_slash (octets rest : Bytes) :
    unescapeBytes (octets ++ 0x5C :: rest) =
      unescapeBytes octets ++ unescapeBytes (0x5C :: rest) := by
  induction octets using unescapeBytes.induct with
  | case1 => rfl
  | case2 octet x y z others value hvalue ih =>
    simp only [List.cons_append, unescapeBytes, hvalue, ih]
  | case3 octet x y z others hnone ih =>
    simp only [List.cons_append] at ih
    simp only [List.cons_append, unescapeBytes, hnone, ih]
  | case4 octet others hfew ih =>
    have hshort : others.length < 3 := by
      refine Nat.lt_of_not_le fun hthree => ?_
      obtain ⟨x, y, z, behind, hothers⟩ := exists_three hthree
      exact hfew x y z behind hothers
    rw [unescapeBytes_short hshort, List.cons_append, List.cons_append, ← ih]
    by_cases hslash : octet = 0x5C
    · -- Only the look-ahead behind a backslash could reach the next one.
      subst hslash
      have hmem : 0x5C ∈ (others ++ 0x5C :: rest).take 3 := by
        obtain ⟨k, hk⟩ : ∃ k, 3 - others.length = k + 1 := ⟨2 - others.length, by omega⟩
        rw [List.take_append, hk, List.take_succ_cons]
        exact List.mem_append_right _ (.head _)
      exact unescapeBytes_slash_of_mem hmem (.inr rfl)
    · exact unescapeBytes_cons hslash _

theorem unescapeBytes_eq_self (h : octets.length < 4) : unescapeBytes octets = octets := by
  induction octets with
  | nil => rfl
  | cons octet others ih =>
    rw [List.length_cons] at h
    rw [unescapeBytes_short (by omega), ih (by omega)]

/-- A text can be read in two parts where a backslash stands for itself. -/
theorem unescape_append_slash
    (h : unescapeBytes (0x5C :: Utf8.encode t) = 0x5C :: unescapeBytes (Utf8.encode t)) (s : Text) :
    unescape (s ++ '\\' :: t) = unescape s ++ '\\' :: unescape t := by
  have hslash : Utf8.encodeChar '\\' = [0x5C] := by decide
  rw [unescape, Utf8.encode_append, Utf8.encode_cons, hslash, List.singleton_append,
    unescapeBytes_append_slash, h, Utf8.decodeLossy_append_cons (by decide)]
  rfl

/-- **Near the end** there is no room for a numeral. -/
theorem unescape_slash_short (h : (Utf8.encode t).length < 3) (s : Text) :
    unescape (s ++ '\\' :: t) = unescape s ++ '\\' :: t := by
  have ht : unescape t = t := by
    rw [unescape, unescapeBytes_eq_self (Nat.lt_succ_of_lt h), Utf8.decodeLossy_encode]
  rw [unescape_append_slash (unescapeBytes_short h), ht]

theorem isEscapedChar_of_wide (hc : 0x80 ≤ c.toNat) : isEscapedChar c = false := by
  refine Bool.eq_false_iff.mpr fun hescaped => ?_
  rcases isEscapedChar_iff.mp hescaped with rfl | rfl | rfl | rfl <;> exact absurd hc (by decide)

/-- **In front of a longer character** there is no numeral, wherever the look-ahead cuts it. -/
theorem unescape_slash_wide (hc : 0x80 ≤ c.toNat) (s t : Text) :
    unescape (s ++ '\\' :: c :: t) = unescape s ++ '\\' :: c :: unescape t := by
  obtain ⟨octet, others, hoctets, hhigh⟩ := Utf8.exists_encodeChar_wide hc
  have hmem : octet ∈ (Utf8.encode (c :: t)).take 3 := by
    rw [Utf8.encode_cons, hoctets, List.cons_append, List.take_succ_cons]
    exact .head _
  rw [unescape_append_slash (unescapeBytes_slash_of_mem hmem (.inl hhigh)),
    unescape_cons (isEscapedChar_of_wide hc)]

/-! ## The loop -/

/-- The octets from one position up to another, if the field has them. -/
def slice? (field : Bytes) (first last : Nat) : Option Bytes :=
  if first ≤ last ∧ last ≤ field.length then some ((field.drop first).take (last - first))
  else none

/-- With room for a numeral, the three octets behind a position can be looked at. -/
theorem exists_slice? {position : Nat} (h : position + 4 ≤ field.length) :
    ∃ x y z, slice? field (position + 1) (position + 4) = some [x, y, z] ∧
      field.drop (position + 1) = x :: y :: z :: field.drop (position + 4) := by
  have hthree : 3 ≤ (field.drop (position + 1)).length := by
    rw [List.length_drop]
    omega
  obtain ⟨x, y, z, others, hothers⟩ := exists_three hthree
  have hbehind : field.drop (position + 4) = others := by
    rw [← List.drop_drop (i := 3) (j := position + 1), hothers]
    rfl
  have hcount : position + 4 - (position + 1) = 3 := by omega
  refine ⟨x, y, z, ?_, by rw [hothers, hbehind]⟩
  rw [slice?, if_pos (by omega), hothers, hcount]
  rfl

example : slice? [0x5C, 0x30, 0x34] 1 4 = none := by decide

/-- The octet that some octets denote in octal.  Octets that are no text are read like an empty
one, which denotes nothing. -/
def octalOf (digits : Bytes) : Option UInt8 :=
  match Numeral.readNat 8 255 ((Utf8.decode? digits).getD []) with
  | .ok value => some (.ofNat value)
  | .error _ => none

theorem octalOf_three (x y z : UInt8) : octalOf [x, y, z] = octal? x y z := by
  unfold octalOf octal?
  cases Utf8.decode? [x, y, z] <;> rfl

/-- Where the loop stands. -/
structure Cursor where
  /-- The position of the next octet. -/
  position : Nat
  /-- What is read so far. -/
  written : Bytes

/-- What a round of the loop comes to. -/
inductive Round
  /-- The field is at its end. -/
  | finished (written : Bytes)
  /-- There is another round. -/
  | goes (next : Cursor)
  /-- An octet was asked for that the field does not have. -/
  | beyond

namespace Cursor

variable {here : Cursor}

/-- Nothing read yet. -/
def start : Cursor := ⟨0, []⟩

/-- Goes on by `count` positions and writes one octet for them. -/
def advance (here : Cursor) (count : Nat) (octet : UInt8) : Cursor :=
  ⟨here.position + count, here.written ++ [octet]⟩

/-- One round. -/
def step (field : Bytes) (here : Cursor) : Round :=
  if here.position < field.length then
    match field[here.position]? with
    | none => .beyond
    | some octet =>
      if octet = 0x5C ∧ here.position + 4 ≤ field.length then
        match slice? field (here.position + 1) (here.position + 4) with
        | none => .beyond
        | some digits =>
          match octalOf digits with
          | some value => .goes (here.advance 4 value)
          | none => .goes (here.advance 1 octet)
      else .goes (here.advance 1 octet)
  else .finished here.written

/-- At most so many rounds. -/
def run (field : Bytes) : Nat → Cursor → Round
  | 0, here => .goes here
  | rounds + 1, here =>
    match step field here with
    | .goes next => run field rounds next
    | .finished written => .finished written
    | .beyond => .beyond

/-- **A round inside the field** writes one octet for one or four of them, which are read as it. -/
theorem step_of_lt (h : here.position < field.length) : ∃ count octet,
    step field here = .goes (here.advance count octet) ∧
      0 < count ∧ here.position + count ≤ field.length ∧
      unescapeBytes (field.drop here.position) =
        octet :: unescapeBytes (field.drop (here.position + count)) := by
  have hfirst : field.drop here.position =
      field[here.position] :: field.drop (here.position + 1) := List.drop_eq_getElem_cons h
  rw [step, if_pos h, List.getElem?_eq_getElem h]
  generalize field[here.position] = octet at hfirst
  dsimp only
  by_cases hroom : octet = 0x5C ∧ here.position + 4 ≤ field.length
  · rw [if_pos hroom]
    obtain ⟨rfl, hroom⟩ := hroom
    obtain ⟨x, y, z, hslice, hthree⟩ := exists_slice? hroom
    simp only [hslice, octalOf_three]
    cases hvalue : octal? x y z with
    | some value =>
      refine ⟨4, value, rfl, by decide, hroom, ?_⟩
      rw [hfirst, hthree, unescapeBytes_octal hvalue]
    | none =>
      refine ⟨1, 0x5C, rfl, by decide, h, ?_⟩
      rw [hfirst, hthree, unescapeBytes_of_octal?_eq_none hvalue]
  · rw [if_neg hroom]
    refine ⟨1, octet, rfl, by decide, h, ?_⟩
    rw [hfirst]
    by_cases hslash : octet = 0x5C
    · refine unescapeBytes_short ?_
      have hend : ¬ here.position + 4 ≤ field.length := fun hle => hroom ⟨hslash, hle⟩
      rw [List.length_drop]
      omega
    · exact unescapeBytes_cons hslash _

/-- What is written, and what is read from the position on, make up what the field is read as. -/
structure Stands (field : Bytes) (here : Cursor) : Prop where
  within : here.position ≤ field.length
  whole : here.written ++ unescapeBytes (field.drop here.position) = unescapeBytes field

theorem stands_start (field : Bytes) : start.Stands field := ⟨Nat.zero_le _, rfl⟩

/-- **A round** ends the loop at the end of the field, and goes on everywhere else. -/
theorem step_cases (h : here.Stands field) :
    step field here = .finished (unescapeBytes field) ∨
      ∃ next, step field here = .goes next ∧ next.Stands field ∧
        here.position < next.position := by
  have hwhole := h.whole
  rcases Nat.lt_or_eq_of_le h.within with hlt | hend
  · obtain ⟨count, octet, hstep, hpos, hwithin, hread⟩ := step_of_lt hlt
    refine .inr ⟨here.advance count octet, hstep, ⟨hwithin, ?_⟩, Nat.lt_add_of_pos_right hpos⟩
    rw [hread] at hwhole
    rw [advance, List.append_assoc, List.singleton_append, hwhole]
  · rw [hend, List.drop_length, unescapeBytes, List.append_nil] at hwhole
    rw [step, hend, if_neg (Nat.lt_irrefl _), hwhole]
    exact .inl rfl

/-- **So many rounds** end the loop, or go on by as many positions at least. -/
theorem run_cases (h : here.Stands field) (rounds : Nat) :
    run field rounds here = .finished (unescapeBytes field) ∨
      ∃ next, run field rounds here = .goes next ∧ next.Stands field ∧
        here.position + rounds ≤ next.position := by
  induction rounds generalizing here with
  | zero => exact .inr ⟨here, rfl, h, Nat.le_refl _⟩
  | succ rounds ih =>
    rw [run]
    rcases step_cases h with hstep | ⟨next, hstep, hnext, hlt⟩
    · rw [hstep]
      exact .inl rfl
    · rw [hstep]
      rcases ih hnext with hrun | ⟨last, hrun, hlast, hle⟩
      · exact .inl hrun
      · exact .inr ⟨last, hrun, hlast, by omega⟩

/-- No octet is asked for that the field does not have. -/
theorem run_ne_beyond (field : Bytes) (rounds : Nat) : run field rounds start ≠ .beyond := by
  rcases run_cases (stands_start field) rounds with hrun | ⟨next, hrun, -⟩
  · rw [hrun]
    exact Round.noConfusion
  · rw [hrun]
    exact Round.noConfusion

/-- One round more than there are octets is enough. -/
theorem run_length (field : Bytes) :
    run field (field.length + 1) start = .finished (unescapeBytes field) := by
  rcases run_cases (stands_start field) (field.length + 1) with hrun | ⟨next, -, hnext, hle⟩
  · exact hrun
  · have hwithin := hnext.within
    omega

end Cursor

/-! ## Reading undoes writing -/

/-- **Reading undoes writing, whatever follows**, and it never leaves the field.  Writing escapes
four octets and keeps all others; what is written for `a` is read as `a`, also where `a` looks
escaped itself, and what follows is read as if it stood alone.  On any octets the loop ends, at the
latest in the round after as many as there are octets, and no round asks for an octet that the
field does not have.  A backslash among the last three octets of a field stands for itself, and so
does one in front of a character of more than one octet, whatever is in front of them. -/
theorem unescape_undoes_escape (a b : Text) (octets : Bytes) :
    Utf8.encode (escape a) = (Utf8.encode a).flatMap escapeOctet ∧
    unescape (escape a ++ b) = a ++ unescape b ∧
    unescape (escape a) = a ∧
    Cursor.run octets (octets.length + 1) .start = .finished (unescapeBytes octets) ∧
    (∀ rounds, Cursor.run octets rounds .start ≠ .beyond) ∧
    ((Utf8.encode b).length < 3 → unescape (a ++ '\\' :: b) = unescape a ++ '\\' :: b) ∧
    (∀ c : Char, 0x80 ≤ c.toNat →
      unescape (a ++ '\\' :: c :: b) = unescape a ++ '\\' :: c :: unescape b) := by
  refine ⟨encode_escape a, unescape_escape_append a b, unescape_escape a, Cursor.run_length octets,
    Cursor.run_ne_beyond octets, ?_, ?_⟩
  · intro hb
    exact unescape_slash_short hb a
  · intro c hc
    exact unescape_slash_wide hc a b

/-- A text that looks escaped, with a backslash near the end behind it, or one in front of a
character of two octets. -/
theorem unescape_undoes_escape_crowded :
    (Utf8.encode "\\1").length < 3 ∧ 0x80 ≤ 'é'.toNat ∧
      unescape (escape "\\040 é" ++ "\\1") = "\\040 é\\1" ∧
      unescape ("\\040 é" ++ '\\' :: "\\1") = "  é\\\\1" ∧
      unescape ("\\040 é" ++ '\\' :: 'é' :: "\\1") = "  é\\é\\1" := by
  have hshort : (Utf8.encode "\\1").length < 3 := by decide
  have hwide : 0x80 ≤ 'é'.toNat := by decide
  obtain ⟨-, happend, -, -, -, hend, hlonger⟩ :=
    unescape_undoes_escape "\\040 é" "\\1" (Utf8.encode "\\1")
  have hfront : unescape "\\040 é" = "  é" := by decide
  have hback : unescape "\\1" = "\\1" := by decide
  refine ⟨hshort, hwide, happend.trans ?_, (hend hshort).trans ?_, (hlonger 'é' hwide).trans ?_⟩
  · rw [hback]
    rfl
  · rw [hfront]
    rfl
  · rw [hfront, hback]
    rfl

end ShareAgent.Mount
