import ShareAgent.Proofs.Export.Addition
import ShareAgent.Proofs.Export.Files
import ShareAgent.Proofs.Path.Components

/-! # Adding an export to any configuration

A configuration file may hold whatever somebody wrote into it.  When the export of a volume was
added to it without an error, the file has the old entries and then the new one, exactly if the end
of the old configuration does not hide what is written behind it.  Then adding the export again
finds it, and removing it gives the old entries back.
-/
namespace ShareAgent.Export
open Text Dialogue Files
open ShareAgent.Path (same_self)

variable {root path : Path} {volume config : Text} {ss : List Section} {e : Entry} {id : UInt16}

/-! ## Finding and removing -/

/-- The entries of a configuration without the exports of a path. -/
theorem filterMap_filter_exports (path : Path) (ss : List Section) :
    (ss.filter (! exports path ·)).filterMap Section.exported? =
      (ss.filterMap Section.exported?).filter (! ·.path.same path) := by
  rw [List.filterMap_filter, List.filter_filterMap]
  refine List.filterMap_congr fun s _ => ?_
  cases s with
  | text => rfl
  | block entry t =>
    cases hsame : entry.path.same path <;> simp [exports, Section.exported?, Option.filter, hsame]

/-- What is left after a removal is read as it was. -/
theorem readEntries_removed (path : Path) (config : Text) :
    readEntries (writeSections ((readSections config).filter (! exports path ·))) =
      (readEntries config).filter (! ·.path.same path) := by
  rw [readEntries_writeSections ((wellCut_readSections config).sublist List.filter_sublist),
    filterMap_filter_exports]
  rfl

theorem remove?_of_mem (he : e ∈ readEntries config) (hpath : e.path.same path) :
    remove? path (readSections config) =
      some ((readSections config).filter (! exports path ·)) := by
  obtain ⟨s, hs, hexported⟩ := List.mem_filterMap.mp he
  have hany : (readSections config).any (exports path) := by
    rw [List.any_eq_true]
    refine ⟨s, hs, ?_⟩
    rw [exports, hexported]
    exact hpath
  rw [remove?, if_pos hany]

/-- A path that no entry has gets a new one, with the next number, if there is a next one. -/
theorem add_of_new_eq (hnew : ∀ e ∈ readEntries config, ¬ e.path.same (root.join volume)) :
    add root volume (readSections config) =
      if nextId (readSections config) = 65535 then .exhausted
      else .added (nextId (readSections config)) (endLine (readSections config) ++
        [.block (.ofVolume (nextId (readSections config)) root volume)
          (Entry.ofVolume (nextId (readSections config)) root volume).render]) := by
  have hnone : find? (root.join volume) (readSections config) = none :=
    List.find?_eq_none.mpr hnew
  rw [add, hnone]

theorem add_of_new (hnew : ∀ e ∈ readEntries config, ¬ e.path.same (root.join volume)) :
    add root volume (readSections config) = .exhausted ∨
      ∃ id, add root volume (readSections config) = .added id
        (endLine (readSections config) ++
          [.block (.ofVolume id root volume) (Entry.ofVolume id root volume).render]) := by
  rw [add_of_new_eq hnew]
  by_cases hlast : nextId (readSections config) = 65535
  · exact .inl (if_pos hlast)
  · exact .inr ⟨_, if_neg hlast⟩

/-- The first entry of a path is found. -/
theorem add_of_find?
    (hfind : (readEntries config).find? (·.path.same (root.join volume)) = some e) :
    add root volume (readSections config) = .present e.id := by
  rw [add, find?, ← readEntries, hfind]

theorem add_of_present {before after : List Entry}
    (hentries : readEntries config = before ++ e :: after)
    (hbefore : ∀ e ∈ before, ¬ e.path.same (root.join volume))
    (he : e.path.same (root.join volume)) :
    add root volume (readSections config) = .present e.id := by
  refine add_of_find? ?_
  have hnone : before.find? (fun entry => entry.path.same (root.join volume)) = none :=
    List.find?_eq_none.mpr hbefore
  rw [hentries, List.find?_append, hnone, Option.none_or]
  exact List.find?_cons_of_pos he

/-! ## Adding, adding again and removing -/

/-- The configuration with a new block at its end. -/
def withBlock (config : Text) (e : Entry) : Text :=
  writeSections (endLine (readSections config) ++ [.block e e.render])

/-- Removing the new entry leaves the old ones. -/
theorem readEntries_removed_new (hnew : ∀ e ∈ readEntries config, ¬ e.path.same path)
    (he : e.path.same path) {config' : Text}
    (hentries : readEntries config' = readEntries config ++ [e]) :
    readEntries (writeSections ((readSections config').filter (! exports path ·))) =
      readEntries config := by
  have hold : (readEntries config).filter (! ·.path.same path) = readEntries config := by
    rw [List.filter_eq_self]
    intro entry hentry
    simpa using hnew entry hentry
  rw [readEntries_removed, hentries, List.filter_append, hold]
  simp [he]

namespace Server
variable {server : Server} {fs fs' : Files}

/-- The files after the export of a new path was added. -/
theorem files_of_create (hfile : fs.Holds server.config config)
    (hnew : ∀ e ∈ readEntries config, ¬ e.path.same (server.exportRoot.join volume))
    (hcreate : (server.create volume).run.Ends Truthful fs (.ok id) fs') :
    fs' = server.swapped fs
      (Utf8.encode (withBlock config (.ofVolume id server.exportRoot volume))) := by
  obtain ⟨exchanges, hlead, hfollows⟩ := hcreate
  have hend := (create_always volume hfile).ends hlead hfollows id rfl
  rcases add_of_new hnew with hadd | ⟨id', hadd⟩
  · rw [hadd] at hend
    rcases hend with ⟨hpresent, -⟩ | ⟨ss, hadded, -⟩
    · cases hpresent
    · cases hadded
  · rw [hadd] at hend
    rcases hend with ⟨hpresent, -⟩ | ⟨ss, hadded, hfiles⟩
    · cases hpresent
    · obtain ⟨rfl, rfl⟩ := Addition.added.inj hadded
      exact hfiles

/-- **Adding an export to any configuration.**  If it ends without an error, the file has the old
entries and the new one, exactly if the end of the old configuration does not hide what is behind
it.  In that case the export is found when it is added again, and nothing is written then, and
removing it leaves the old entries. -/
theorem create_then_read (hfile : fs.Holds server.config config)
    (hpath : Clean (server.exportRoot.join volume).text) (hpseudo : Clean ('/' :: volume))
    (hnew : ∀ e ∈ readEntries config, ¬ e.path.same (server.exportRoot.join volume))
    (hcreate : (server.create volume).run.Ends Truthful fs (.ok id) fs') :
    ∃ config', fs' server.config = some (Utf8.encode config') ∧
      (readEntries config' = readEntries config ++ [.ofVolume id server.exportRoot volume] ↔
        ¬ Hides config) ∧
      (¬ Hides config →
        (server.create volume).run.SurelyEnds Working fs' (.ok id) fs' ∧
        ∃ fs'' config'', (server.delete volume).run.SurelyEnds Working fs' (.ok ()) fs'' ∧
          fs'' server.config = some (Utf8.encode config'') ∧
          readEntries config'' = readEntries config) := by
  have hconfig' : fs' server.config = some (Utf8.encode
      (withBlock config (.ofVolume id server.exportRoot volume))) :=
    files_of_create hfile hnew hcreate ▸ swapped_config _ _
  have hadded := readEntries_added (e := .ofVolume id server.exportRoot volume) hpath hpseudo config
  refine ⟨_, hconfig', hadded, fun hshown => ?_⟩
  have hentries : readEntries (withBlock config (.ofVolume id server.exportRoot volume)) =
      readEntries config ++ [.ofVolume id server.exportRoot volume] := hadded.mpr hshown
  have hfile' : fs'.Holds server.config _ := .inl hconfig'
  have hsame := same_self (server.exportRoot.join volume)
  have hmem : Entry.ofVolume id server.exportRoot volume ∈
      readEntries (withBlock config (.ofVolume id server.exportRoot volume)) := by
    rw [hentries]
    simp
  exact ⟨create_present hfile' (add_of_present hentries hnew hsame),
    _, _, delete_removes hfile' (remove?_of_mem hmem hsame), swapped_config _ _,
    readEntries_removed_new hnew hsame hentries⟩

/-! ## A block on one line -/

/-- A server. -/
def sample : Server := ⟨"/etc/vfs.conf", "/export", "/proc", "ganesha.nfsd"⟩

/-- A block on one line, with what follows it. -/
def oneLine (ending : Text) : Text :=
  "EXPORT \x7b Export_Id = 1; Path = /a; \x7d" ++ ending

/-- The server's files when its configuration holds a text. -/
def holding (t : Text) : Files :=
  fun path => if path = sample.config then some (Utf8.encode t) else none

theorem holds_holding (t : Text) : (holding t).Holds sample.config t := .inl (if_pos rfl)

theorem clean_sample : Clean (sample.exportRoot.join "pvc-1").text ∧ Clean ('/' :: "pvc-1") :=
  ⟨⟨by decide, by decide⟩, ⟨by decide, by decide⟩⟩

/-- With its line feed the block does not hide the new one. -/
theorem create_then_read_fed : ¬ Hides (oneLine ['\n']) ∧
    ∃ fs' config',
      (sample.create "pvc-1").run.Ends Truthful (holding (oneLine ['\n'])) (.ok 2) fs' ∧
      fs' sample.config = some (Utf8.encode config') ∧
      readEntries config' = [⟨1, "/a", []⟩, ⟨2, "/export/pvc-1", "/pvc-1"⟩] := by
  have hshown : ¬ Hides (oneLine ['\n']) :=
    (readEntries_added (e := .ofVolume 2 sample.exportRoot "pvc-1") clean_sample.1 clean_sample.2
      (oneLine ['\n'])).mp (by decide +kernel)
  have hadd : add sample.exportRoot "pvc-1" (readSections (oneLine ['\n'])) = .added 2 _ := rfl
  have hcreate : (sample.create "pvc-1").run.Ends Truthful (holding (oneLine ['\n'])) (.ok 2) _ :=
    (create_added (holds_holding _) hadd).1.mono Working.truthful
  obtain ⟨config', hconfig', hadded, -⟩ := create_then_read (holds_holding _) clean_sample.1
    clean_sample.2 (by decide) hcreate
  refine ⟨hshown, _, config', hcreate, hconfig', ?_⟩
  rw [hadded.mpr hshown]
  decide

/-- **Without its line feed it does.**  The export is added with number 2, and the configuration has
the old entry only; so the export is added once more when it is asked for again. -/
theorem create_hidden_in_line :
    (holding (oneLine [])).Holds sample.config (oneLine []) ∧
    Clean (sample.exportRoot.join "pvc-1").text ∧ Clean ('/' :: "pvc-1") ∧
    (∀ e ∈ readEntries (oneLine []), ¬ e.path.same (sample.exportRoot.join "pvc-1")) ∧
    ∃ fs' config',
      (sample.create "pvc-1").run.Ends Truthful (holding (oneLine [])) (.ok 2) fs' ∧
      fs' sample.config = some (Utf8.encode config') ∧
      readEntries config' = [⟨1, "/a", []⟩] ∧ readEntries (oneLine []) = [⟨1, "/a", []⟩] ∧
      ∃ fs'' config'', (sample.create "pvc-1").run.SurelyEnds Working fs' (.ok 2) fs'' ∧
        fs'' sample.config = some (Utf8.encode config'') ∧ config'' ≠ config' := by
  have hadd : add sample.exportRoot "pvc-1" (readSections (oneLine [])) = .added 2 _ := rfl
  have hagain : add sample.exportRoot "pvc-1" (readSections (withBlock (oneLine [])
      (.ofVolume 2 sample.exportRoot "pvc-1"))) = .added 2 _ := rfl
  have hfile : sample.swapped (holding (oneLine [])) _ sample.config = some (Utf8.encode
      (withBlock (oneLine []) (.ofVolume 2 sample.exportRoot "pvc-1"))) := swapped_config _ _
  exact ⟨holds_holding _, clean_sample.1, clean_sample.2, by decide, _, _,
    (create_added (holds_holding _) hadd).1.mono Working.truthful, hfile, by decide +kernel,
    by decide, _, _, create_added (.inl hfile) hagain, swapped_config _ _, by decide +kernel⟩

end Server
end ShareAgent.Export
