import ShareAgent.Mount.Mounter
import ShareAgent.Proofs.Mount.Table
import ShareAgent.Proofs.Text.Octets

/-! # The octets of the mount table, line by line

The table is read as one text, and then each line by itself.  Its octets can be cut into lines as
well, and each line that is a text gives the same record by itself (`readTable_octets`).  But the
table is read only if all of its lines are texts (`asText_eq_error_iff`).
-/
namespace ShareAgent.Mount

variable {octets : Bytes}

/-- The lines of a table, as octets. -/
def lines (octets : Bytes) : List Bytes := Text.pieces (· == 0x0A) octets

/-- The record of a line that is a text. -/
def readOctets (line : Bytes) : Option MountRecord := (Utf8.decode? line).bind readLine

theorem readOctets_encode (t : Text) : readOctets (Utf8.encode t) = readLine t := by
  rw [readOctets, Utf8.decode?_encode]
  rfl

/-- A carriage return at the end of a line is not seen. -/
theorem readLine_return (t : Text) : readLine (t ++ ['\r']) = readLine t := by
  have hcut : Text.cutAt " - " (t ++ ['\r']) =
      (Text.cutAt " - " t).map fun cut => (cut.1, cut.2 ++ ['\r']) :=
    Text.cutAt_concat (by decide) (by decide) t
  have hblank : isBlank '\r' = true := by decide
  rw [readLine, readLine, hcut]
  cases Text.cutAt " - " t with
  | none => rfl
  | some cut =>
    dsimp only [Option.map_some]
    rw [Text.words_concat hblank]

/-- The line break makes no difference. -/
theorem readLine_dropBreak {l body : Text} (hbody : '\n' ∉ body) (hl : l = body ++ ['\n']) :
    readLine (Text.dropBreak l) = readLine body := by
  by_cases hreturn : body.getLast? = some '\r'
  · obtain ⟨front, rfl⟩ := List.getLast?_eq_some_iff.mp hreturn
    rw [hl, List.append_assoc, List.singleton_append, Text.dropBreak_return, readLine_return]
  · rw [hl, Text.dropBreak_feed hreturn]

/-- **A text is read line by line.** -/
theorem readTable_pieces (t : Text) :
    readTable t = (Text.pieces (· == '\n') t).filterMap readLine := by
  rw [readTable, Text.lines]
  induction t using Text.induction_lines with
  | nil => rfl
  | rest t ht =>
    rw [Text.wholeLines_last ht, Text.pieces_of_not_mem ht.2, List.map_singleton,
      Text.dropBreak_rest ht.2]
  | line l t hl ih =>
    obtain ⟨body, hbody, hend⟩ := id hl
    have hpieces : Text.pieces (· == '\n') (l ++ t) = body :: Text.pieces (· == '\n') t := by
      rw [hend, List.append_assoc, List.singleton_append, Text.pieces_append_cons (by decide),
        Text.pieces_of_not_mem hbody]
      rfl
    rw [Text.wholeLines_line hl, List.map_cons, List.filterMap_cons, ih, hpieces,
      List.filterMap_cons, readLine_dropBreak hbody hend]

/-- **The octets of a text are read line by line.** -/
theorem readTable_octets {table : Text} (h : asText octets = .ok table) :
    readTable table = (lines octets).filterMap readOctets := by
  unfold asText at h
  split at h
  · rename_i t ht
    obtain rfl := Except.ok.inj h
    rw [Utf8.decode?_eq_some_iff] at ht
    subst ht
    have hline : readOctets ∘ Utf8.encode = readLine := funext readOctets_encode
    rw [readTable_pieces, lines, Utf8.pieces_encode, List.filterMap_map, hline]
  · cases h

theorem exists_asText (h : ∀ line ∈ lines octets, Utf8.IsText line) :
    ∃ table, asText octets = .ok table := by
  obtain ⟨table, rfl⟩ := Utf8.isText_iff_pieces.mpr h
  exact ⟨table, by rw [asText, Utf8.decode?_encode]⟩

/-- **One line that is no text is enough** for the table not to be read. -/
theorem asText_eq_error_iff :
    asText octets = .error .notText ↔ ∃ line ∈ lines octets, ¬ Utf8.IsText line := by
  have hall : ¬ Utf8.IsText octets ↔ ∃ line ∈ lines octets, ¬ Utf8.IsText line := by
    rw [Utf8.isText_iff_pieces]
    simp only [lines, Classical.not_forall, exists_prop]
  rw [← hall, ← Utf8.decode?_eq_none_iff, asText]
  cases Utf8.decode? octets <;> simp

namespace KernelRecord

variable (r : KernelRecord)

/-- The line that the kernel prints, without its line feed. -/
def body : Text := r.front ++ r.middle ++ " - " ++ r.back

theorem readOctets_body : readOctets (Utf8.encode r.body) = some r.asRead := by
  rw [readOctets_encode]
  exact readLine_line

end KernelRecord
end ShareAgent.Mount
