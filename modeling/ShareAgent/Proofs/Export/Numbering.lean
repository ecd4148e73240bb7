import ShareAgent.Proofs.Export.Table

/-! # Export numbers are fresh

A new export gets the number after the largest one in use.  Numbers are words of 16 bits, and the
last of them has no successor: the search for the next number stays there (`toNat_nextId`).  It is
reached exactly if one of the last two numbers is in use (`nextId_eq_last_iff`), and then no export
is added.  So every number that is given is larger than all others, and it is never the last one
(`numbers_fresh`).

Nothing is assumed of the numbers in the file.  They may be zero, they may be there twice, and they
need not be in order.
-/
namespace ShareAgent.Export
open Text Dialogue Files

/-! ## The next number -/

theorem Table.lt_next_iff {table : Table} {n : Nat} :
    n < table.next ↔ n = 0 ∨ ∃ e ∈ table, n ≤ e.id.toNat := by
  constructor
  · intro hn
    cases hmax : (table.map (·.id.toNat)).max? with
    | none =>
      rw [next, hmax, Option.elim_none] at hn
      exact .inl (by omega)
    | some largest =>
      obtain ⟨e, he, rfl⟩ := List.mem_map.mp (List.max?_eq_some_iff.mp hmax).1
      rw [next, hmax, Option.elim_some] at hn
      exact .inr ⟨e, he, by omega⟩
  · rintro (rfl | ⟨e, he, hle⟩)
    · cases hmax : (table.map (·.id.toNat)).max? with
      | none =>
        rw [next, hmax, Option.elim_none]
        exact Nat.one_pos
      | some largest =>
        rw [next, hmax, Option.elim_some]
        omega
    · exact Nat.lt_of_le_of_lt hle (lt_next he)

variable {ss : List Section} {e : Entry}

/-- **The numbers run out exactly if one of the last two is in use.** -/
theorem nextId_eq_last_iff : nextId ss = 65535 ↔
    ∃ e ∈ ss.filterMap Section.exported?, e.id = 65534 ∨ e.id = 65535 := by
  have hlast : nextId ss = 65535 ↔ 65534 < Table.next (ss.filterMap Section.exported?) := by
    rw [← UInt16.toNat_inj, toNat_nextId]
    change min 65535 _ = 65535 ↔ _
    omega
  -- A number has 16 bits, so only two are as large.
  have hword : ∀ id : UInt16, 65534 ≤ id.toNat ↔ id = 65534 ∨ id = 65535 := by
    intro id
    have hbound : id.toNat < 65536 := id.toNat_lt
    rw [← UInt16.toNat_inj, ← UInt16.toNat_inj]
    change _ ↔ id.toNat = 65534 ∨ id.toNat = 65535
    omega
  rw [hlast, Table.lt_next_iff]
  simp [hword]

/-- A new number is never zero, also if there are no others. -/
theorem one_le_nextId (ss : List Section) : 1 ≤ nextId ss := by
  have hpos : 0 < Table.next (ss.filterMap Section.exported?) := Table.lt_next_iff.mpr (.inl rfl)
  rw [UInt16.le_iff_toNat_le, toNat_nextId]
  change 1 ≤ _
  omega

theorem toNat_nextId_lt (hlast : nextId ss ≠ 65535) : (nextId ss).toNat < 65535 := by
  have hbound : (nextId ss).toNat < 65536 := (nextId ss).toNat_lt
  have hne : (nextId ss).toNat ≠ 65535 := fun h => hlast (UInt16.toNat_inj.mp h)
  omega

theorem nextId_le (hlast : nextId ss ≠ 65535) : nextId ss ≤ 65534 := by
  have hlt := toNat_nextId_lt hlast
  rw [UInt16.le_iff_toNat_le]
  change _ ≤ 65534
  omega

/-- The next number is larger than all others, if it is not the last one. -/
theorem lt_nextId (hlast : nextId ss ≠ 65535) (he : e ∈ ss.filterMap Section.exported?) :
    e.id < nextId ss := by
  have hnext := Table.lt_next he
  have hlt := toNat_nextId_lt hlast
  rw [UInt16.lt_iff_toNat_lt]
  rw [toNat_nextId] at hlt ⊢
  omega

/-! ## The number of an export -/

namespace Server
variable {server : Server} {fs : Files} {config : Text}

/-- A task that does nothing but read the configuration. -/
def OnlyReads {α : Type} (server : Server) (fs : Files) (task : HostTask α) : Prop :=
  ∀ exchanges r fs', task.run.Leads exchanges (.done r) →
    Surroundings.Follows Truthful fs exchanges fs' →
      fs' = fs ∧ exchanges.map Exchange.question = [.readFile server.config]

theorem create_onlyReads {volume : Text} (hfile : fs.Holds server.config config)
    (hadd : ∀ id ss, add server.exportRoot volume (readSections config) ≠ .added id ss) :
    OnlyReads server fs (server.create volume) :=
  fun _ _ _ hlead hfollows => create_reads hfile hadd hlead hfollows

/-- The first entry of the volume's path has the number. -/
theorem create_found (volume : Text) {e : Entry} (hfile : fs.Holds server.config config)
    (hfind : (readEntries config).find? (·.path.same (server.exportRoot.join volume)) = some e) :
    (server.create volume).run.SurelyEnds Working fs (.ok e.id) fs ∧
      OnlyReads server fs (server.create volume) := by
  have hadd := add_of_find? hfind
  exact ⟨create_present hfile hadd, create_onlyReads hfile (by simp [hadd])⟩

/-- A new export gets the next number, if there is one. -/
theorem create_numbered {volume : Text} (hfile : fs.Holds server.config config)
    (hnew : ∀ e ∈ readEntries config, ¬ e.path.same (server.exportRoot.join volume))
    (hlast : nextId (readSections config) ≠ 65535) :
    ∃ fs', (server.create volume).run.SurelyEnds Working fs
      (.ok (nextId (readSections config))) fs' := by
  have hadd := add_of_new_eq hnew
  rw [if_neg hlast] at hadd
  exact ⟨_, create_added hfile hadd⟩

/-- There is no new export without a number. -/
theorem create_unnumbered {volume : Text} (hfile : fs.Holds server.config config)
    (hnew : ∀ e ∈ readEntries config, ¬ e.path.same (server.exportRoot.join volume))
    (hlast : nextId (readSections config) = 65535) :
    (server.create volume).run.SurelyEnds Working fs
        (.error (.exportFailed ("no export id left in " ++ server.config.text))) fs ∧
      OnlyReads server fs (server.create volume) := by
  have hadd := add_of_new_eq hnew
  rw [if_pos hlast] at hadd
  exact ⟨create_exhausted hfile hadd, create_onlyReads hfile (by simp [hadd])⟩

/-- An export is refused exactly if one of the last two numbers is in use. -/
theorem create_refused_iff {volume : Text} (hfile : fs.Holds server.config config)
    (hnew : ∀ e ∈ readEntries config, ¬ e.path.same (server.exportRoot.join volume)) :
    (∃ message, (server.create volume).run.SurelyEnds Working fs
      (.error (.exportFailed message)) fs) ↔
    ∃ e ∈ readEntries config, e.id = 65534 ∨ e.id = 65535 := by
  refine Iff.trans ?_ nextId_eq_last_iff
  constructor
  · rintro ⟨message, hrefused⟩
    -- With a number the task surely ends in another way.
    by_contra hlast
    obtain ⟨fs', hnumbered⟩ := create_numbered hfile hnew hlast
    cases (hrefused.2 _ _ hnumbered.1).1
  · exact fun hlast => ⟨_, (create_unnumbered hfile hnew hlast).1⟩

/-- **Export numbers are fresh, and they run out cleanly.**  An export that is there already keeps
the number of its first entry, and the configuration is only read.  Any other gets a number from 1
to 65534 that is larger than all others, if none of them is above 65533; and it is refused exactly
if one is, and then again the configuration is only read.  The search for the number is exact below
the last one, and stays there, whatever numbers the configuration has. -/
theorem numbers_fresh (volume : Text) (hfile : fs.Holds server.config config) :
    (∀ e, (readEntries config).find? (·.path.same (server.exportRoot.join volume)) = some e →
      (server.create volume).run.SurelyEnds Working fs (.ok e.id) fs ∧
        OnlyReads server fs (server.create volume)) ∧
    ((∀ e ∈ readEntries config, ¬ e.path.same (server.exportRoot.join volume)) →
      ((∀ e ∈ readEntries config, e.id ≤ 65533) →
        ∃ id fs', (server.create volume).run.SurelyEnds Working fs (.ok id) fs' ∧
          1 ≤ id ∧ id ≤ 65534 ∧ ∀ e ∈ readEntries config, e.id < id) ∧
      ((∃ message, (server.create volume).run.SurelyEnds Working fs
          (.error (.exportFailed message)) fs) ↔
        ∃ e ∈ readEntries config, e.id = 65534 ∨ e.id = 65535) ∧
      ((∃ e ∈ readEntries config, e.id = 65534 ∨ e.id = 65535) →
        OnlyReads server fs (server.create volume))) ∧
    ∀ ss, (nextId ss).toNat = min 65535 (Table.next (ss.filterMap Section.exported?)) := by
  refine ⟨fun e => create_found volume hfile, fun hnew => ⟨fun hlow => ?_,
    create_refused_iff hfile hnew, fun hused => ?_⟩, toNat_nextId⟩
  · have hlast : nextId (readSections config) ≠ 65535 := by
      intro hlast
      obtain ⟨e, he, hid⟩ := nextId_eq_last_iff.mp hlast
      have hle := hlow e he
      rcases hid with hid | hid <;> rw [hid] at hle <;> exact absurd hle (by decide)
    obtain ⟨fs', hends⟩ := create_numbered hfile hnew hlast
    exact ⟨_, fs', hends, one_le_nextId _, nextId_le hlast, fun e he => lt_nextId hlast he⟩
  · exact (create_unnumbered hfile hnew (nextId_eq_last_iff.mpr hused)).2

/-- Two exports, with these numbers. -/
def twoExports (a b : Text) : Text :=
  "EXPORT \x7b Export_Id = " ++ a ++ "; Path = /a; \x7d\n" ++
    "EXPORT \x7b Export_Id = " ++ b ++ "; Path = /b; \x7d\n"

/-- After 65533, which need not be the last entry, comes 65534, and after 65534 comes nothing; but
the export of a path that is there keeps its number. -/
theorem numbers_fresh_at_end :
    (∃ fs', (sample.create "pvc-1").run.SurelyEnds Working
      (holding (twoExports "65533" "0")) (.ok 65534) fs') ∧
    (∃ message, (sample.create "pvc-1").run.SurelyEnds Working
      (holding (twoExports "65534" "7")) (.error (.exportFailed message))
      (holding (twoExports "65534" "7"))) ∧
    (sample.create "/b").run.SurelyEnds Working
      (holding (twoExports "65534" "7")) (.ok 7) (holding (twoExports "65534" "7")) := by
  have hgiven := (numbers_fresh "pvc-1" (holds_holding (twoExports "65533" "0"))).2.1 (by decide)
  have hrefused := (numbers_fresh "pvc-1" (holds_holding (twoExports "65534" "7"))).2.1 (by decide)
  have hfound := (numbers_fresh "/b" (holds_holding (twoExports "65534" "7"))).1 ⟨7, "/b", []⟩
    (by decide)
  obtain ⟨id, fs', hends, -, hle, hfresh⟩ := hgiven.1 (by decide)
  have hlt : 65533 < id := hfresh ⟨65533, "/a", []⟩ (by decide)
  refine ⟨⟨fs', ?_⟩, hrefused.2.1.mpr (by decide), hfound.1⟩
  obtain rfl : id = 65534 := by
    rw [UInt16.lt_iff_toNat_lt] at hlt
    rw [UInt16.le_iff_toNat_le] at hle
    refine UInt16.toNat_inj.mp ?_
    change 65533 < _ at hlt
    change _ ≤ 65534 at hle
    change _ = 65534
    omega
  exact hends

end Server
end ShareAgent.Export
