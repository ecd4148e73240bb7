import ShareAgent.Mount.Escape
import ShareAgent.Proofs.Text.Octets
import ShareAgent.Proofs.Text.Pieces

/-! # Escaped fields are read back

Writing a field escapes octet by octet.  The four octets that it escapes are characters of their
own, so it escapes character by character (`escape_eq`), and reading undoes writing, whatever
follows (`unescape_escape_append`).  What is written has none of the blanks that are escaped but
keeps all others: its words are those that the field has between its other blanks
(`words_escape`).
-/
namespace ShareAgent.Mount

/-- The characters that are escaped. -/
def isEscapedChar (c : Char) : Bool := c == ' ' || c == '\t' || c == '\n' || c == '\\'

/-- What is written for a character. -/
def escapeChar (c : Char) : Text :=
  if c = ' ' then "\\040"
  else if c = '\t' then "\\011"
  else if c = '\n' then "\\012"
  else if c = '\\' then "\\134"
  else [c]

/-- A blank that is written as it is. -/
def isStray (c : Char) : Bool := isBlank c && ! isEscapedChar c

variable {c : Char} {t : Text} {octet value : UInt8}

theorem isEscapedChar_iff : isEscapedChar c = true ↔ c = ' ' ∨ c = '\t' ∨ c = '\n' ∨ c = '\\' := by
  simp [isEscapedChar, or_assoc]

theorem escapeChar_of_not_escaped (hc : isEscapedChar c = false) : escapeChar c = [c] := by
  have hne : ¬ (c = ' ' ∨ c = '\t' ∨ c = '\n' ∨ c = '\\') := by
    rw [← isEscapedChar_iff, hc]
    exact Bool.false_ne_true
  simp only [not_or] at hne
  obtain ⟨hspace, htab, hfeed, hslash⟩ := hne
  rw [escapeChar, if_neg hspace, if_neg htab, if_neg hfeed, if_neg hslash]

/-! ## Octets -/

theorem isEscaped_iff : isEscaped octet = true ↔
    octet = 0x20 ∨ octet = 0x09 ∨ octet = 0x0A ∨ octet = 0x5C := by
  simp [isEscaped, or_assoc]

theorem unescapeBytes_octal {a b c : UInt8} (h : octal? a b c = some value) (rest : Bytes) :
    unescapeBytes (0x5C :: a :: b :: c :: rest) = value :: unescapeBytes rest := by
  rw [unescapeBytes, if_pos rfl, h]

theorem unescapeBytes_cons (h : octet ≠ 0x5C) (rest : Bytes) :
    unescapeBytes (octet :: rest) = octet :: unescapeBytes rest := by
  rcases rest with _ | ⟨a, _ | ⟨b, _ | ⟨c, rest⟩⟩⟩
  case cons.cons.cons => rw [unescapeBytes, if_neg h]
  all_goals rfl

/-- A backslash that no numeral follows stands for itself. -/
theorem unescapeBytes_of_octal?_eq_none {a b c : UInt8} (h : octal? a b c = none) (rest : Bytes) :
    unescapeBytes (0x5C :: a :: b :: c :: rest) = 0x5C :: unescapeBytes (a :: b :: c :: rest) := by
  rw [unescapeBytes, if_pos rfl, h]

/-- Before the end of the field there is no room for a numeral. -/
theorem unescapeBytes_short {rest : Bytes} (h : rest.length < 3) :
    unescapeBytes (octet :: rest) = octet :: unescapeBytes rest := by
  rcases rest with _ | ⟨a, _ | ⟨b, _ | ⟨c, rest⟩⟩⟩
  case cons.cons.cons =>
    simp only [List.length_cons] at h
    omega
  all_goals rfl

theorem octal?_of_isEscaped (h : isEscaped octet = true) :
    octal? (0x30 + octet / 64) (0x30 + octet / 8 % 8) (0x30 + octet % 8) = some octet := by
  rcases isEscaped_iff.mp h with rfl | rfl | rfl | rfl <;> decide

/-- Reading undoes writing, octet by octet. -/
theorem unescapeBytes_escapeBytes_append (octets rest : Bytes) :
    unescapeBytes (escapeBytes octets ++ rest) = octets ++ unescapeBytes rest := by
  induction octets with
  | nil => rfl
  | cons octet others ih =>
    rw [escapeBytes, List.flatMap_cons, ← escapeBytes, escapeOctet]
    cases h : isEscaped octet with
    | true =>
      rw [if_pos rfl]
      exact (unescapeBytes_octal (octal?_of_isEscaped h) _).trans (congrArg _ ih)
    | false =>
      have hslash : octet ≠ 0x5C := by
        rintro rfl
        exact absurd h (by decide)
      rw [if_neg Bool.false_ne_true, List.singleton_append, List.cons_append,
        unescapeBytes_cons hslash, ih, List.cons_append]

/-! ## Characters -/

/-- The octets of a character that is not escaped are not either. -/
theorem isEscaped_of_mem_encodeChar (hc : isEscapedChar c = false)
    (h : octet ∈ Utf8.encodeChar c) : isEscaped octet = false := by
  refine Bool.eq_false_iff.mpr fun hescaped => ?_
  -- The octets that are escaped are of ASCII, so this one is all of the character.
  have hascii : octet.toNat < 0x80 := by
    rcases isEscaped_iff.mp hescaped with rfl | rfl | rfl | rfl <;> decide
  rw [← Char.ofNat_toNat c, Utf8.toNat_of_mem_encodeChar h hascii] at hc
  rcases isEscaped_iff.mp hescaped with rfl | rfl | rfl | rfl <;> exact absurd hc (by decide)

theorem escapeBytes_of_not_escaped {octets : Bytes}
    (h : ∀ octet ∈ octets, isEscaped octet = false) : escapeBytes octets = octets := by
  induction octets with
  | nil => rfl
  | cons octet rest ih =>
    obtain ⟨hfirst, hrest⟩ := List.forall_mem_cons.mp h
    rw [escapeBytes, List.flatMap_cons, ← escapeBytes, ih hrest, escapeOctet, hfirst]
    rfl

theorem escapeBytes_encodeChar (c : Char) :
    escapeBytes (Utf8.encodeChar c) = Utf8.encode (escapeChar c) := by
  cases hc : isEscapedChar c with
  | true =>
    rcases isEscapedChar_iff.mp hc with rfl | rfl | rfl | rfl <;> decide
  | false =>
    rw [escapeBytes_of_not_escaped fun _ => isEscaped_of_mem_encodeChar hc,
      escapeChar_of_not_escaped hc]
    exact (List.append_nil _).symm

theorem escapeBytes_encode (t : Text) :
    escapeBytes (Utf8.encode t) = Utf8.encode (t.flatMap escapeChar) := by
  induction t with
  | nil => rfl
  | cons c t ih =>
    rw [Utf8.encode_cons, escapeBytes, List.flatMap_append, ← escapeBytes, ← escapeBytes, ih,
      escapeBytes_encodeChar, List.flatMap_cons, Utf8.encode_append]

/-- **A field is written character by character.** -/
theorem escape_eq (t : Text) : escape t = t.flatMap escapeChar := by
  rw [escape, escapeBytes_encode, Utf8.decodeLossy_encode]

theorem escape_cons (c : Char) (t : Text) : escape (c :: t) = escapeChar c ++ escape t := by
  rw [escape_eq, escape_eq, List.flatMap_cons]

theorem encode_escape (t : Text) : Utf8.encode (escape t) = escapeBytes (Utf8.encode t) := by
  rw [escape_eq, escapeBytes_encode]

/-- **Reading undoes writing**, whatever follows. -/
theorem unescape_escape_append (s t : Text) : unescape (escape s ++ t) = s ++ unescape t := by
  rw [unescape, Utf8.encode_append, encode_escape, unescapeBytes_escapeBytes_append,
    Utf8.decodeLossy_encode_append, ← unescape]

theorem unescape_escape (t : Text) : unescape (escape t) = t := by
  rw [← List.append_nil (escape t), unescape_escape_append]
  exact List.append_nil t

/-- A character that is not escaped is read as it is. -/
theorem unescape_cons (hc : isEscapedChar c = false) (t : Text) :
    unescape (c :: t) = c :: unescape t := by
  have hwritten : escape [c] = [c] := by
    rw [escape_eq, List.flatMap_singleton, escapeChar_of_not_escaped hc]
  have hread := unescape_escape_append [c] t
  rwa [hwritten] at hread

/-! ## Words -/

theorem escapeChar_ne_nil (c : Char) : escapeChar c ≠ [] := by
  cases hc : isEscapedChar c with
  | true => rcases isEscapedChar_iff.mp hc with rfl | rfl | rfl | rfl <;> decide
  | false =>
    rw [escapeChar_of_not_escaped hc]
    exact List.cons_ne_nil _ _

theorem escape_eq_nil : escape t = [] ↔ t = [] := by
  rw [escape_eq, List.flatMap_eq_nil_iff]
  constructor
  · intro h
    cases t with
    | nil => rfl
    | cons c t => exact (escapeChar_ne_nil c (h c (.head _))).elim
  · rintro rfl
    exact nofun

/-- Only a stray blank leaves a blank in what is written. -/
theorem isBlank_of_mem_escapeChar (hc : isStray c = false) {d : Char} (hd : d ∈ escapeChar c) :
    isBlank d = false := by
  cases h : isEscapedChar c with
  | true =>
    have hall : (escapeChar c).all (! isBlank ·) := by
      rcases isEscapedChar_iff.mp h with rfl | rfl | rfl | rfl <;> decide
    simpa using List.all_eq_true.mp hall d hd
  | false =>
    rw [escapeChar_of_not_escaped h, List.mem_singleton] at hd
    rw [hd]
    simpa [isStray, h] using hc

theorem escapeChar_of_stray (hc : isStray c = true) : escapeChar c = [c] ∧ isBlank c = true := by
  simp only [isStray, Bool.and_eq_true, Bool.not_eq_true'] at hc
  exact ⟨escapeChar_of_not_escaped hc.2, hc.1⟩

/-- An escaped blank is not written. -/
theorem not_mem_escape (hblank : isBlank c = true) (hc : isEscapedChar c = true) (t : Text) :
    c ∉ escape t := by
  intro hmem
  rw [escape_eq] at hmem
  obtain ⟨d, -, hd⟩ := List.mem_flatMap.mp hmem
  cases hstray : isStray d with
  | true =>
    rw [(escapeChar_of_stray hstray).1, List.mem_singleton] at hd
    subst hd
    simp [isStray, hc] at hstray
  | false => simp [isBlank_of_mem_escapeChar hstray hd] at hblank

theorem pieces_escape (t : Text) :
    Text.pieces isBlank (escape t) = (Text.pieces isStray t).map escape := by
  induction t with
  | nil => rfl
  | cons c t ih =>
    rw [escape_cons]
    cases hc : isStray c with
    | true =>
      obtain ⟨hself, hblank⟩ := escapeChar_of_stray hc
      rw [hself, List.singleton_append, Text.pieces_cons_of_pos hblank, Text.pieces_cons_of_pos hc,
        ih]
      rfl
    | false =>
      obtain ⟨first, others, ht⟩ := List.exists_cons_of_ne_nil (Text.pieces_ne_nil isStray t)
      rw [ht, List.map_cons] at ih
      rw [Text.pieces_cons_of_neg hc ht, List.map_cons, escape_cons,
        Text.pieces_append_of_neg (fun _ => isBlank_of_mem_escapeChar hc) ih]

/-- The runs of a field between its stray blanks. -/
def runs (t : Text) : List Text := (Text.pieces isStray t).filter (! ·.isEmpty)

/-- **The words of what is written** are the runs of the field. -/
theorem words_escape (t : Text) : Text.words (escape t) = (runs t).map escape := by
  rw [Text.words, pieces_escape, List.filter_map, runs]
  refine congrArg (List.map escape) (List.filter_congr fun run _ => ?_)
  have hempty : (escape run).isEmpty = run.isEmpty :=
    Bool.eq_iff_iff.mpr (by rw [List.isEmpty_iff, List.isEmpty_iff, escape_eq_nil])
  rw [Function.comp, hempty]

/-- A field without stray blanks is one run. -/
theorem runs_eq_singleton (ht : ∀ c ∈ t, isStray c = false) (hne : t ≠ []) : runs t = [t] := by
  rw [runs, Text.pieces_eq_singleton ht]
  simp [hne]

theorem runs_ne_nil (hc : c ∈ t) (hstray : isStray c = false) : runs t ≠ [] :=
  Text.filter_pieces_ne_nil hc hstray

/-- No run has a stray blank. -/
theorem isStray_of_mem_runs {run : Text} (hrun : run ∈ runs t) (hc : c ∈ run) :
    isStray c = false :=
  (Text.mem_of_mem_pieces (List.mem_filter.mp hrun).1 hc).2

end ShareAgent.Mount
