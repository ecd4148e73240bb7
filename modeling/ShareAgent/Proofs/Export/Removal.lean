import ShareAgent.Proofs.Export.Creation

/-! # Removing an export from any configuration

A configuration file may hold whatever somebody wrote into it, malformed and unfinished blocks
included.  Removing the exports of a path cuts their blocks out of the text (`without`) and leaves
all other sections as they are.  What stood before and behind a block was read apart from it and is
read together afterwards; still no other entry changes (`readEntries_removed`), since sections are
whole lines up to the last.  If no entry has the path, the file is looked at and nothing is written,
so a second removal never changes anything.
-/
namespace ShareAgent.Export
open Text Dialogue Files

variable {path : Path} {volume config : Text} {e : Entry}

/-- The configuration without the blocks of a path. -/
def without (path : Path) (config : Text) : Text :=
  writeSections ((readSections config).filter (! exports path ·))

theorem exports_iff {s : Section} :
    exports path s ↔ ∃ e, s.exported? = some e ∧ e.path.same path := by
  rw [exports]
  cases s.exported? <;> simp

theorem remove?_eq_none_iff :
    remove? path (readSections config) = none ↔ ∀ e ∈ readEntries config, ¬ e.path.same path := by
  constructor
  · intro hnone e he hpath
    rw [remove?_of_mem he hpath] at hnone
    cases hnone
  · intro hnew
    rw [remove?, if_neg]
    rw [List.any_eq_true]
    rintro ⟨s, hs, hexports⟩
    obtain ⟨e, he, hpath⟩ := exports_iff.mp hexports
    exact hnew e (List.mem_filterMap.mpr ⟨s, hs, he⟩) hpath

/-- A configuration that does not export the path stays as it is. -/
theorem without_of_new (hnew : ∀ e ∈ readEntries config, ¬ e.path.same path) :
    without path config = config := by
  have hall : (readSections config).filter (! exports path ·) = readSections config := by
    rw [List.filter_eq_self]
    intro s hs
    rw [Bool.not_eq_true', Bool.eq_false_iff]
    intro hexports
    obtain ⟨e, he, hpath⟩ := exports_iff.mp hexports
    exact hnew e (List.mem_filterMap.mpr ⟨s, hs, he⟩) hpath
  rw [without, hall, writeSections_readSections]

/-- No entry of the path is left. -/
theorem new_without (path : Path) (config : Text) :
    ∀ e ∈ readEntries (without path config), ¬ e.path.same path := by
  intro e he
  rw [without, readEntries_removed] at he
  simpa using (List.mem_filter.mp he).2

namespace Server
variable {server : Server} {fs fs' : Files} {exchanges : List (Exchange KernelCall.Answer)}

/-- Nothing but the configuration file was asked for, and it was only read. -/
def OnlyRead (server : Server) (exchanges : List (Exchange KernelCall.Answer)) : Prop :=
  exchanges.map Exchange.question = [.readFile server.config]

/-- The other files are left alone. -/
theorem swapped_other {p : Path} (hconfig : p ≠ server.config) (hdraft : p ≠ server.draft)
    (content : Bytes) : server.swapped fs content p = fs p := by
  simp only [swapped, Files.put, if_neg hconfig, if_neg hdraft]

/-- A removal either finds exports of the path and replaces the configuration, or it finds none and
only reads. -/
theorem delete_cases (hfile : fs.Holds server.config config)
    (hlead : (server.delete volume).run.Leads exchanges (.done (.ok ())))
    (hfollows : Surroundings.Follows Truthful fs exchanges fs') :
    (∃ e ∈ readEntries config, e.path.same (server.exportRoot.join volume)) ∧
        fs' = server.swapped fs
          (Utf8.encode (without (server.exportRoot.join volume) config)) ∨
      (∀ e ∈ readEntries config, ¬ e.path.same (server.exportRoot.join volume)) ∧
        fs' = fs ∧ server.OnlyRead exchanges := by
  by_cases hany : ∃ e ∈ readEntries config, e.path.same (server.exportRoot.join volume)
  · refine .inl ⟨hany, ?_⟩
    obtain ⟨e, he, hpath⟩ := hany
    have hend := (delete_always volume hfile).ends hlead hfollows rfl
    rw [remove?_of_mem he hpath] at hend
    rcases hend with ⟨hnone, -⟩ | ⟨ss, hsome, hfiles⟩
    · cases hnone
    · obtain rfl := Option.some.inj hsome
      exact hfiles
  · have hnew : ∀ e ∈ readEntries config, ¬ e.path.same (server.exportRoot.join volume) :=
      fun e he hpath => hany ⟨e, he, hpath⟩
    exact .inr ⟨hnew, delete_reads hfile (remove?_eq_none_iff.mpr hnew) hlead hfollows⟩

theorem holds_without (hfile : fs.Holds server.config config)
    (hlead : (server.delete volume).run.Leads exchanges (.done (.ok ())))
    (hfollows : Surroundings.Follows Truthful fs exchanges fs') :
    fs'.Holds server.config (without (server.exportRoot.join volume) config) := by
  rcases delete_cases hfile hlead hfollows with ⟨-, rfl⟩ | ⟨hnew, rfl, -⟩
  · exact .inl (swapped_config _ _)
  · rw [without_of_new hnew]
    exact hfile

/-- The exports that the configuration file shows; none if it cannot be read. -/
def exported (server : Server) (fs : Files) : List Entry :=
  match server.shown fs with
  | .ok ss => ss.filterMap Section.exported?
  | .error _ => []

theorem exported_of_shown {ss : List Section} (h : server.shown fs = .ok ss) :
    server.exported fs = ss.filterMap Section.exported? := by
  rw [exported, h]

theorem exported_of_holds (h : fs.Holds server.config config) :
    server.exported fs = readEntries config :=
  exported_of_shown (shown_of_holds h)

/-- What a file shows is what some configuration is cut into. -/
theorem exists_config_of_shown {ss : List Section} (h : server.shown fs = .ok ss) :
    ∃ config, ss = readSections config := by
  rw [shown] at h
  cases hfile : fs server.config with
  | none =>
    rw [hfile] at h
    exact ⟨[], (Except.ok.inj h).symm⟩
  | some octets =>
    rw [hfile] at h
    cases hdecode : Utf8.decode? octets with
    | none => simp [sectionsOf, Mount.asText, hdecode] at h
    | some text =>
      simp only [Option.elim, sectionsOf, Mount.asText, hdecode, Except.ok.injEq] at h
      exact ⟨text, h.symm⟩

/-- After a removal without an error the file shows the other exports. -/
theorem delete_exported (volume : Text) (fs : Files) :
    (server.delete volume).run.Always Truthful (fun _ => True)
      (fun r fs' => r = .ok () → server.exported fs' =
        (server.exported fs).filter (! ·.path.same (server.exportRoot.join volume))) fs := by
  refine (delete_shown volume fs).imp fun r fs' hdone hr => ?_
  obtain ⟨ss, hshown, hcases⟩ := hdone hr
  obtain ⟨config, rfl⟩ := exists_config_of_shown hshown
  rw [exported_of_shown hshown]
  rcases hcases with ⟨hnone, rfl⟩ | ⟨kept, hkept, rfl⟩
  · rw [exported_of_shown hshown, eq_comm, List.filter_eq_self]
    intro e he
    simpa using remove?_eq_none_iff.mp hnone e he
  · have hfilter : kept = (readSections config).filter
        (! exports (server.exportRoot.join volume) ·) := by
      rw [remove?] at hkept
      split at hkept
      · exact (Option.some.inj hkept).symm
      · cases hkept
    rw [exported_of_holds (.inl (swapped_config _ _)), hfilter, readEntries_removed]
    rfl

/-- **Removing an export cuts its blocks out of the configuration and does nothing else**, whatever
the configuration holds.  All its sections make it up before, and those of other paths make it up
afterwards; the entries of other paths are the same, in the same order.  Files other than the
configuration and its draft are left alone, and if no entry has the path nothing is written.  A
second removal, however it ends, writes nothing. -/
theorem delete_exactly (hfile : fs.Holds server.config config)
    (hlead : (server.delete volume).run.Leads exchanges (.done (.ok ())))
    (hfollows : Surroundings.Follows Truthful fs exchanges fs') :
    writeSections (readSections config) = config ∧
    readEntries (without (server.exportRoot.join volume) config) =
      (readEntries config).filter (! ·.path.same (server.exportRoot.join volume)) ∧
    ((∃ e ∈ readEntries config, e.path.same (server.exportRoot.join volume)) →
      fs' server.config = some (Utf8.encode (without (server.exportRoot.join volume) config)) ∧
      ∀ p, p ≠ server.config → p ≠ server.draft → fs' p = fs p) ∧
    ((∀ e ∈ readEntries config, ¬ e.path.same (server.exportRoot.join volume)) →
      without (server.exportRoot.join volume) config = config ∧
      fs' = fs ∧ server.OnlyRead exchanges) ∧
    ∀ again r fs'', (server.delete volume).run.Leads again (.done r) →
      Surroundings.Follows Truthful fs' again fs'' → fs'' = fs' ∧ server.OnlyRead again := by
  refine ⟨writeSections_readSections config, readEntries_removed _ config, ?_, ?_, ?_⟩
  · rintro ⟨e, he, hpath⟩
    rcases delete_cases hfile hlead hfollows with ⟨-, rfl⟩ | ⟨hnew, -⟩
    · exact ⟨swapped_config _ _, fun p hconfig hdraft => swapped_other hconfig hdraft _⟩
    · exact (hnew e he hpath).elim
  · intro hnew
    rcases delete_cases hfile hlead hfollows with ⟨⟨e, he, hpath⟩, -⟩ | ⟨-, hreads⟩
    · exact (hnew e he hpath).elim
    · exact ⟨without_of_new hnew, hreads⟩
  · intro again r fs'' hagain hfollows'
    have hnone := remove?_eq_none_iff.mpr (new_without (server.exportRoot.join volume) config)
    exact delete_reads (holds_without hfile hlead hfollows) hnone hagain hfollows'

/-- A block between text and an unfinished block. -/
def crowded : Text :=
  "# old\nEXPORT \x7b Export_Id = 1; Path = /export//pvc-1/; \x7d\nNFSv4 \x7b \x7d\nEXPORT \x7b Path = /b;\n"

/-- The block is cut out, and the text around it stays. -/
theorem delete_exactly_crowded : ∃ exchanges fs',
    (sample.delete "pvc-1").run.Leads exchanges (.done (.ok ())) ∧
    Surroundings.Follows Truthful (holding crowded) exchanges fs' ∧
    fs' sample.config = some (Utf8.encode "# old\nNFSv4 \x7b \x7d\nEXPORT \x7b Path = /b;\n") := by
  have hmem : Entry.mk 1 "/export//pvc-1/" [] ∈ readEntries crowded := by decide
  have hsame : Path.same "/export//pvc-1/" (sample.exportRoot.join "pvc-1") := by decide
  obtain ⟨exchanges, hlead, hfollows⟩ :=
    (delete_removes (holds_holding crowded) (remove?_of_mem hmem hsame)).1.mono Working.truthful
  obtain ⟨-, -, hremoved, -⟩ := delete_exactly (holds_holding crowded) hlead hfollows
  refine ⟨exchanges, _, hlead, hfollows, ?_⟩
  rw [(hremoved ⟨_, hmem, hsame⟩).1]
  decide +kernel

end Server
end ShareAgent.Export
