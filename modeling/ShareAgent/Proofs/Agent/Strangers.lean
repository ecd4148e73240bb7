import ShareAgent.Proofs.Agent.Queries
import ShareAgent.Proofs.Mount.Lines

/-! # One filesystem among those of others

Other users of a host can mount under names of their choice, so most lines of the mount table are
not in the agent's hands.  A line that is no record is skipped, and so is a record of another place;
but the table is read as one text, so a single name that is not UTF-8 hides every filesystem on the
host from both queries.  Where all lines are texts, a clear record is found on its mount point, and it is
told apart from what comes later exactly if no later line is read as a filesystem there
(`found_among_strangers`).
-/
namespace ShareAgent
open Dialogue Mount

namespace Still

variable {k : Still} {path place : Path} {octets : Bytes} {lines before after : List Bytes}
  {r : KernelRecord}

/-- The last filesystem on a place in these lines. -/
def lastIn (place : Path) (lines : List Bytes) : Option MountRecord :=
  lastOf place (lines.filterMap readOctets)

theorem lastIn_append : lastIn place (before ++ after) =
    (lastIn place after).or (lastIn place before) := by
  simp only [lastIn, lastOf, List.filterMap_append, List.filter_append, List.getLast?_append]

theorem lastIn_body (hpoint : r.record.mountPoint.same place) (hclear : r.Clear) :
    lastIn place [Utf8.encode r.body] = some r.record := by
  rw [lastIn, List.filterMap_cons, KernelRecord.readOctets_body,
    KernelRecord.asRead_eq_iff.mpr hclear]
  rw [lastOf, List.filterMap_nil, List.filter_cons_of_pos (by exact hpoint)]
  rfl

/-- **What is found** if all lines are texts. -/
theorem found_of_texts (hplace : k.place path = .ok place) (htable : k.table = .ok octets)
    (htext : ∀ line ∈ Mount.lines octets, Utf8.IsText line) :
    k.found path = .ok (lastIn place (Mount.lines octets)) := by
  obtain ⟨table, hdecode⟩ := exists_asText htext
  have hreads : k.Reads ((Mount.lines octets).filterMap readOctets) :=
    ⟨octets, table, htable, hdecode, readTable_octets hdecode⟩
  unfold found
  rw [hplace, recordsOf_of_reads hreads]
  rfl

/-- **Nothing is found** if one line is no text. -/
theorem found_of_not_text (hplace : k.place path = .ok place) (htable : k.table = .ok octets)
    (hline : ∃ line ∈ Mount.lines octets, ¬ Utf8.IsText line) :
    k.found path = .error (.system .notText) := by
  unfold found
  rw [hplace, htable]
  simp only [placeOf, System.recordsOf, asText_eq_error_iff.mpr hline]
  rfl

end Still

/-- **What strangers can do.**  On a host that stands still a line of the mount table is a clear
record for the place that the path leads to.  Then the path is found to be a mount point exactly if
every other line is a text, and otherwise both queries fail with the same error.  The filesystem
that is found has the device number of this record exactly if every other line is a text and, of the
lines after it that are read as a filesystem on the place, the last one has that number as well. -/
theorem found_among_strangers (k : Still) {path place : Path} {octets : Bytes} {r : KernelRecord}
    {before after : List Bytes} (hplace : k.place path = .ok place) (htable : k.table = .ok octets)
    (hlines : Mount.lines octets = before ++ Utf8.encode r.body :: after)
    (hpoint : r.record.mountPoint.same place) (hclear : r.Clear) (ran : List Command) :
    ∃ isMountPoint info,
      (Mount.isMountPoint path).run.SurelyEnds k.Answers ran isMountPoint ran ∧
      (Mount.info path).run.SurelyEnds k.Answers ran info ran ∧
      (isMountPoint = .ok true ↔ ∀ line ∈ before ++ after, Utf8.IsText line) ∧
      ((∃ line ∈ before ++ after, ¬ Utf8.IsText line) →
        isMountPoint = .error (.system .notText) ∧ info = .error (.system .notText)) ∧
      (info.map (·.deviceNumber) = .ok r.record.deviceNumber ↔
        (∀ line ∈ before ++ after, Utf8.IsText line) ∧
          ∀ record, Still.lastIn place after = some record →
            record.deviceNumber = r.record.deviceNumber) := by
  have hothers : (∀ line ∈ Mount.lines octets, Utf8.IsText line) ↔
      ∀ line ∈ before ++ after, Utf8.IsText line := by
    rw [hlines]
    simp only [List.forall_mem_append, List.forall_mem_cons]
    exact and_congr_right fun _ => and_iff_right ⟨r.body, rfl⟩
  refine ⟨_, _, k.isMountPoint_found path ran, k.info_found path ran, ?_⟩
  by_cases htext : ∀ line ∈ before ++ after, Utf8.IsText line
  · have hlast : Still.lastIn place (Mount.lines octets) =
        some ((Still.lastIn place after).getD r.record) := by
      rw [hlines, List.append_cons, Still.lastIn_append, Still.lastIn_append,
        Still.lastIn_body hpoint hclear]
      cases Still.lastIn place after <;> rfl
    rw [Still.found_of_texts hplace htable (hothers.mpr htext), hlast]
    refine ⟨iff_of_true rfl htext, ?_, ?_⟩
    · rintro ⟨line, hline, hnot⟩
      exact (hnot (htext line hline)).elim
    · rw [and_iff_right htext]
      show (Except.ok _ : Except HostError Nat) = _ ↔ _
      cases Still.lastIn place after <;> simp
  · have hline : ∃ line ∈ Mount.lines octets, ¬ Utf8.IsText line := by
      have hnot := mt hothers.mp htext
      simpa only [Classical.not_forall, exists_prop] using hnot
    rw [Still.found_of_not_text hplace htable hline]
    refine ⟨iff_of_false ?_ htext, fun _ => ⟨rfl, rfl⟩, iff_of_false ?_ fun h => htext h.1⟩
    · intro h
      cases h
    · intro h
      cases h

theorem slash_absolute : ("/" : Text).head? = some '/' := rfl

/-- The filesystem at the root of the tree. -/
def rootFilesystem : KernelRecord where
  id := 22
  parent := 1
  major := 259
  minor := 2
  root := "/"
  mountPoint := "/"
  options := "rw"
  optional := []
  format := "xfs"
  source := "/dev/sda"
  superOptions := "rw"
  root_absolute := slash_absolute
  mountPoint_absolute := slash_absolute
  format_ne_nil := by decide
  solid := by
    have hall : (["rw", "xfs", "/dev/sda", "rw"] : List Text).all (·.all (! isBlank ·)) := by
      decide
    simpa only [List.all_eq_true, Bool.not_eq_true'] using hall

/-- The line of a stranger's filesystem, from the octets of its name. -/
def strangerLine (name : Bytes) : Bytes :=
  Utf8.encode "36 22 8:16 / /export/" ++ name ++ Utf8.encode " rw - ext4 /dev/sdb rw"

/-- A host with both of them in its mount table and no other files. -/
def besideStranger (name : Bytes) : Still where
  status _ := .error .notFound
  place := .ok
  table := .ok (Utf8.encode rootFilesystem.body ++ 0x0A :: strangerLine name)
  listing _ := .error .notFound
  word := nofun

theorem lines_besideStranger {name : Bytes} (hname : 0x0A ∉ strangerLine name) :
    Mount.lines (Utf8.encode rootFilesystem.body ++ 0x0A :: strangerLine name) =
      [] ++ Utf8.encode rootFilesystem.body :: [strangerLine name] := by
  rw [Mount.lines, Text.pieces_append_cons (by decide), Text.pieces_of_not_mem hname,
    Text.pieces_of_not_mem (by decide)]
  rfl

theorem rootFilesystem_clear : rootFilesystem.Clear := by
  have hall : (rootFilesystem.root ++ rootFilesystem.mountPoint).all (! isStray ·) := by decide
  apply KernelRecord.clear_of_not_stray
  simpa only [List.all_eq_true, Bool.not_eq_true'] using hall

theorem rootFilesystem_ascii : ∀ c ∈ rootFilesystem.body, c.toNat < 0x80 := by
  have hall : rootFilesystem.body.all (·.toNat < 0x80) := by decide
  simpa only [List.all_eq_true, decide_eq_true_eq] using hall

/-- A stranger's filesystem with a name in ASCII hides nothing. -/
theorem found_beside_ascii : ∃ info,
    (Mount.isMountPoint "/").run.SurelyEnds (besideStranger [0x61]).Answers [] (.ok true) [] ∧
    (Mount.info "/").run.SurelyEnds (besideStranger [0x61]).Answers [] info [] ∧
    info.map (·.deviceNumber) = .ok (DeviceNumber.make 259 2) := by
  have hplace : (besideStranger [0x61]).place "/" = .ok "/" := rfl
  have hlines := lines_besideStranger (show 0x0A ∉ strangerLine [0x61] by decide)
  have htext : Utf8.IsText (strangerLine [0x61]) :=
    ⟨"36 22 8:16 / /export/a rw - ext4 /dev/sdb rw", by decide⟩
  have hothers : ∀ line ∈ [] ++ [strangerLine [0x61]], Utf8.IsText line :=
    List.forall_mem_singleton.mpr htext
  obtain ⟨isMountPoint, info, hpoint, hinfo, htrue, -, hnumber⟩ :=
    found_among_strangers (besideStranger [0x61]) hplace rfl hlines (by decide)
      rootFilesystem_clear []
  rw [htrue.mpr hothers] at hpoint
  exact ⟨info, hpoint, hinfo, hnumber.mpr ⟨hothers, by decide⟩⟩

/-- **One name in Latin-1 hides the root filesystem** from both queries. -/
theorem hidden_by_stranger : ∃ octets, (besideStranger [0xE9]).table = .ok octets ∧
    Mount.lines octets = [Utf8.encode rootFilesystem.body, strangerLine [0xE9]] ∧
    (∀ c ∈ rootFilesystem.body, c.toNat < 0x80) ∧
    rootFilesystem.record.mountPoint.same "/" ∧ rootFilesystem.Clear ∧
    (Mount.isMountPoint "/").run.SurelyEnds (besideStranger [0xE9]).Answers []
      (.error (.system .notText)) [] ∧
    (Mount.info "/").run.SurelyEnds (besideStranger [0xE9]).Answers []
      (.error (.system .notText)) [] := by
  have hlines := lines_besideStranger (show 0x0A ∉ strangerLine [0xE9] by decide)
  have hfound : (besideStranger [0xE9]).found "/" = .error (.system .notText) := by
    refine Still.found_of_not_text rfl rfl ⟨strangerLine [0xE9], ?_, by decide⟩
    rw [hlines]
    exact .tail _ (.head _)
  have hpoint := (besideStranger [0xE9]).isMountPoint_found "/" []
  have hinfo := (besideStranger [0xE9]).info_found "/" []
  rw [hfound] at hpoint hinfo
  exact ⟨_, rfl, hlines, rootFilesystem_ascii, by decide, rootFilesystem_clear, hpoint, hinfo⟩

end ShareAgent
