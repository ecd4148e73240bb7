import ShareAgent.Proofs.Export.Removal

/-! # The configuration file is an export table

If nobody else writes to it, the configuration file implements a table of exports.  The table is
abstract: it has no text and no blocks, only entries in the order in which they were added.  Both
answer requests; the file is read and replaced as a whole for each of them, and still its entries are
those of the table after every request, and the answers are the same
(`implements_of_follows`).

The file of a table is the text of its rendered entries and nothing else (`Implements`).  One lemma
for each request says what becomes of such a file (`perform_surelyEnds`), and a course of requests is
an induction over them.
-/
namespace ShareAgent.Export
open Text Dialogue Files

/-! ## Requests and the table -/

/-- What a client asks of the export configuration. -/
inductive Request
  | create (volume : Text)
  | delete (volume : Text)
  deriving DecidableEq, Repr

namespace Request

/-- What is answered if nothing fails: the number of a created export. -/
abbrev Result : Request → Type
  | create _ => UInt16
  | delete _ => Unit

/-- The volume that is meant. -/
def volume : Request → Text
  | create volume => volume
  | delete volume => volume

/-- What the server does. -/
def perform (server : Server) : (r : Request) → HostTask r.Result
  | create volume => server.create volume
  | delete volume => server.delete volume

/-- The export of the volume can be written. -/
def IsClean (root : Path) (r : Request) : Prop :=
  Clean (root.join r.volume).text ∧ Clean ('/' :: r.volume)

instance (root : Path) : DecidablePred (IsClean root) := fun r =>
  inferInstanceAs (Decidable (Clean (root.join r.volume).text ∧ Clean ('/' :: r.volume)))

end Request

/-- The exports in the order in which they were added. -/
abbrev Table := List Entry

namespace Table

/-- The number of the next export: 1, or the one after the largest in use. -/
def next (table : Table) : Nat := (table.map (·.id.toNat)).max?.elim 1 (1 + ·)

/-- The answer of a table to a request, and the table after it. -/
def serve (server : Server) (table : Table) :
    (r : Request) → Except HostError r.Result × Table
  | .create volume =>
    match table.find? (·.path.same (server.exportRoot.join volume)) with
    | some entry => (.ok entry.id, table)
    | none =>
      if table.next = 65535 then
        (.error (.exportFailed ("no export id left in " ++ server.config.text)), table)
      else
        (.ok (.ofNat table.next),
          table ++ [.ofVolume (.ofNat table.next) server.exportRoot volume])
  | .delete volume => (.ok (), table.eraseP (·.path.same (server.exportRoot.join volume)))

/-- The answers to requests, one after the other. -/
def exchanges (server : Server) :
    Table → List Request → List (Exchange fun r : Request => Except HostError r.Result)
  | _, [] => []
  | table, r :: rest =>
    ⟨r, (table.serve server r).1⟩ :: exchanges server (table.serve server r).2 rest

/-- The table after requests. -/
def after (server : Server) (table : Table) (requests : List Request) : Table :=
  requests.foldl (fun table r => (table.serve server r).2) table

/-- **No two exports have the same number or the same path**, and the last number is never given. -/
structure Distinct (table : Table) : Prop where
  ids : table.Pairwise fun a b => a.id ≠ b.id
  paths : table.Pairwise fun a b => ¬ a.path.same b.path
  bounded : ∀ e ∈ table, e.id.toNat < 65535

variable {server : Server} {table : Table} {volume : Text}

theorem lt_next {e : Entry} (he : e ∈ table) : e.id.toNat < table.next := by
  have hmem : e.id.toNat ∈ table.map (·.id.toNat) := List.mem_map_of_mem he
  cases hmax : (table.map (·.id.toNat)).max? with
  | none =>
    rw [List.max?_eq_none_iff] at hmax
    rw [hmax] at hmem
    cases hmem
  | some largest =>
    have hle : e.id.toNat ≤ largest := (List.max?_eq_some_iff.mp hmax).2 _ hmem
    rw [next, hmax, Option.elim_some]
    omega

theorem next_le (hbounded : ∀ e ∈ table, e.id.toNat < 65535) : table.next ≤ 65535 := by
  cases hmax : (table.map (·.id.toNat)).max? with
  | none =>
    rw [next, hmax, Option.elim_none]
    omega
  | some largest =>
    obtain ⟨e, he, rfl⟩ := List.mem_map.mp (List.max?_eq_some_iff.mp hmax).1
    have := hbounded e he
    rw [next, hmax, Option.elim_some]
    omega

theorem Distinct.sublist {kept : Table} (h : table.Distinct) (hsub : kept.Sublist table) :
    kept.Distinct :=
  ⟨h.ids.sublist hsub, h.paths.sublist hsub, fun e he => h.bounded e (hsub.subset he)⟩

/-- A larger number and a path that is not there may be added. -/
theorem Distinct.concat {new : Entry} (h : table.Distinct)
    (hid : ∀ e ∈ table, e.id.toNat < new.id.toNat)
    (hpath : ∀ e ∈ table, ¬ e.path.same new.path) (hbounded : new.id.toNat < 65535) :
    (table ++ [new]).Distinct := by
  constructor
  · refine List.pairwise_append.mpr ⟨h.ids, List.pairwise_singleton _ _, fun e he e' he' => ?_⟩
    obtain rfl := List.mem_singleton.mp he'
    intro heq
    exact (Nat.ne_of_lt (hid e he)) (congrArg UInt16.toNat heq)
  · refine List.pairwise_append.mpr ⟨h.paths, List.pairwise_singleton _ _, fun e he e' he' => ?_⟩
    obtain rfl := List.mem_singleton.mp he'
    exact hpath e he
  · refine List.forall_mem_append.mpr ⟨h.bounded, ?_⟩
    exact List.forall_mem_singleton.mpr hbounded

theorem toNat_next (h : table.next < 65535) : (UInt16.ofNat table.next).toNat = table.next :=
  UInt16.toNat_ofNat_of_lt' (by change table.next < 65536; omega)

/-- **The table keeps numbers and paths apart.** -/
theorem Distinct.serve (h : table.Distinct) (r : Request) :
    (table.serve server r).2.Distinct := by
  cases r with
  | delete volume => exact h.sublist List.eraseP_sublist
  | create volume =>
    rw [Table.serve]
    cases hfind : table.find? (·.path.same (server.exportRoot.join volume)) with
    | some e => exact h
    | none =>
      by_cases hlast : table.next = 65535
      · simp only [if_pos hlast]
        exact h
      · simp only [if_neg hlast]
        have hle := next_le h.bounded
        have hnext : (UInt16.ofNat table.next).toNat = table.next := toNat_next (by omega)
        refine h.concat (fun e he => ?_) (List.find?_eq_none.mp hfind) ?_
        · rw [Entry.ofVolume, hnext]
          exact lt_next he
        · rw [Entry.ofVolume, hnext]
          omega

end Table

/-! ## The file of a table -/

variable {server : Server} {fs fs' : Files} {table : Table} {root path : Path} {volume : Text}

/-- The sections of the file of a table. -/
def Table.blocks (table : Table) : List Section := table.map fun e => .block e e.render

theorem filterMap_blocks (table : Table) : table.blocks.filterMap Section.exported? = table := by
  rw [Table.blocks, List.filterMap_map]
  exact List.filterMap_some

theorem writeSections_blocks (table : Table) :
    writeSections table.blocks = table.flatMap Entry.render := by
  rw [writeSections, Table.blocks, List.flatMap_map]
  rfl

theorem endLine_blocks (table : Table) : endLine table.blocks = table.blocks := by
  induction table with
  | nil => rfl
  | cons e rest ih =>
    cases rest with
    | nil => rfl
    | cons e' rest => exact (endLine_cons (List.cons_ne_nil _ _) _).trans (congrArg _ ih)

theorem readSections_blocks (hclean : ∀ e ∈ table, Clean e.path.text ∧ Clean e.pseudo) :
    readSections (table.flatMap Entry.render) = table.blocks := by
  induction table with
  | nil => rfl
  | cons e rest ih =>
    obtain ⟨⟨hpath, hpseudo⟩, hrest⟩ := List.forall_mem_cons.mp hclean
    rw [List.flatMap_cons, readSections_render_append hpath.free hpseudo.free, ih hrest,
      asRead_eq_self hpath hpseudo]
    rfl

/-! ### Numbers -/

/-- The number after a number, as far as there is one. -/
theorem toNat_successor (id : UInt16) : (successor id).toNat = min 65535 (1 + id.toNat) := by
  have hword : id.toNat < 65536 := id.toNat_lt
  by_cases hlast : id = 65535
  · subst hlast
    rfl
  · have hne : id.toNat ≠ 65535 := fun h => hlast (UInt16.toNat_inj.mp h)
    rw [successor, if_neg hlast, UInt16.toNat_add]
    change (id.toNat + 1) % 65536 = min 65535 (1 + id.toNat)
    omega

theorem toNat_max_number (a b : UInt16) : (max a b).toNat = max a.toNat b.toNat := by
  change (if a ≤ b then b else a).toNat = max a.toNat b.toNat
  by_cases h : a ≤ b
  · rw [if_pos h]
    exact (Nat.max_eq_right (UInt16.le_iff_toNat_le.mp h)).symm
  · rw [if_neg h]
    rw [UInt16.le_iff_toNat_le] at h
    omega

/-- The number after the largest of some numbers is that after the largest of both. -/
theorem toNat_foldl_successor {entries : List Entry} {start : UInt16} {largest : Nat}
    (hstart : start.toNat = min 65535 (1 + largest)) :
    (entries.foldl (fun number e => max number (successor e.id)) start).toNat =
      min 65535 (1 + (entries.map (·.id.toNat)).foldl max largest) := by
  induction entries generalizing start largest with
  | nil => exact hstart
  | cons e rest ih =>
    refine ih ?_
    rw [toNat_max_number, hstart, toNat_successor]
    show _ = min 65535 (1 + max largest e.id.toNat)
    omega

/-- **The next number is the one after the largest, and the last one if there is none.** -/
theorem toNat_nextId (ss : List Section) :
    (nextId ss).toNat = min 65535 (Table.next (ss.filterMap Section.exported?)) := by
  rw [nextId]
  cases ss.filterMap Section.exported? with
  | nil => rfl
  | cons e rest =>
    have hfirst : (max 1 (successor e.id)).toNat = min 65535 (1 + e.id.toNat) := by
      rw [toNat_max_number, toNat_successor]
      change max 1 _ = _
      omega
    rw [List.foldl_cons, toNat_foldl_successor hfirst, Table.next, List.map_cons,
      List.max?_cons', Option.elim_some]

/-! ### Requests -/

/-- Adding to the sections of a table is adding to the table. -/
theorem add_blocks (hbounded : ∀ e ∈ table, e.id.toNat < 65535) :
    add root volume table.blocks =
      match table.find? (·.path.same (root.join volume)) with
      | some e => .present e.id
      | none =>
        if table.next = 65535 then .exhausted
        else .added (.ofNat table.next)
          (Table.blocks (table ++ [.ofVolume (.ofNat table.next) root volume])) := by
  have hnext : (nextId table.blocks).toNat = table.next := by
    rw [toNat_nextId, filterMap_blocks]
    exact Nat.min_eq_right (Table.next_le hbounded)
  have hid : nextId table.blocks = .ofNat table.next := by
    rw [← hnext, UInt16.ofNat_toNat]
  have hlast : nextId table.blocks = 65535 ↔ table.next = 65535 := by
    rw [← hnext]
    exact UInt16.toNat_inj.symm
  rw [add, find?, filterMap_blocks]
  cases table.find? (·.path.same (root.join volume)) with
  | some e => rfl
  | none =>
    simp only [hlast]
    by_cases h : table.next = 65535
    · rw [if_pos h, if_pos h]
    · rw [if_neg h, if_neg h, hid, endLine_blocks, Table.blocks, Table.blocks, List.map_append]
      rfl

/-- If at most one export has the path, removing all of them removes the first. -/
theorem filter_eq_eraseP (h : table.Pairwise fun a b => ¬ a.path.same b.path) :
    table.filter (! ·.path.same path) = table.eraseP (·.path.same path) := by
  induction table with
  | nil => rfl
  | cons e rest ih =>
    obtain ⟨he, hrest⟩ := List.pairwise_cons.mp h
    by_cases hpath : e.path.same path
    · have hother : ∀ e' ∈ rest, (! e'.path.same path) = true := by
        intro e' he'
        rw [Bool.not_eq_true', Bool.eq_false_iff]
        exact fun hpath' => he e' he' (Path.same_trans hpath (Path.same_symm hpath'))
      rw [List.filter_cons_of_neg (by simp [hpath]), List.filter_eq_self.mpr hother,
        List.eraseP_cons_of_pos (p := fun e : Entry => e.path.same path) hpath]
    · rw [List.filter_cons_of_pos (by simp [hpath]), ih hrest,
        List.eraseP_cons_of_neg (p := fun e : Entry => e.path.same path) hpath]

/-- Removing from the sections of a table is removing from the table. -/
theorem remove?_blocks (h : table.Pairwise fun a b => ¬ a.path.same b.path) :
    remove? path table.blocks =
      if table.any (·.path.same path) then
        some (Table.blocks (table.eraseP (·.path.same path)))
      else none := by
  have hany : table.blocks.any (exports path) = table.any (·.path.same path) := by
    rw [Table.blocks, List.any_map]
    rfl
  have hfilter : table.blocks.filter (! exports path ·) =
      Table.blocks (table.filter (! ·.path.same path)) := by
    rw [Table.blocks, List.filter_map]
    rfl
  rw [remove?, hany, hfilter, filter_eq_eraseP h]

/-! ## The server and the table -/

/-- **The file holds the rendered entries of the table, in order, and nothing else.** -/
structure Server.Implements (server : Server) (fs : Files) (table : Table) : Prop where
  file : fs.Holds server.config (table.flatMap Entry.render)
  clean : ∀ e ∈ table, Clean e.path.text ∧ Clean e.pseudo

theorem Server.Implements.readEntries (h : server.Implements fs table) :
    Export.readEntries (table.flatMap Entry.render) = table := by
  rw [Export.readEntries, readSections_blocks h.clean, filterMap_blocks]

/-- The file after it was replaced by that of another table. -/
theorem Server.Implements.swapped {next : Table}
    (hclean : ∀ e ∈ next, Clean e.path.text ∧ Clean e.pseudo) :
    server.Implements (server.swapped fs (Utf8.encode (writeSections next.blocks))) next := by
  refine ⟨.inl ?_, hclean⟩
  rw [Server.swapped_config, writeSections_blocks]

theorem create_surelyEnds (h : server.Implements fs table) (hdistinct : table.Distinct)
    (hclean : (Request.create volume).IsClean server.exportRoot) : ∃ fs',
    (server.create volume).run.SurelyEnds Working fs (table.serve server (.create volume)).1 fs' ∧
      server.Implements fs' (table.serve server (.create volume)).2 := by
  have hadd : add server.exportRoot volume table.blocks = _ := add_blocks hdistinct.bounded
  rw [← readSections_blocks h.clean] at hadd
  rw [Table.serve]
  cases hfind : table.find? (·.path.same (server.exportRoot.join volume)) with
  | some e =>
    rw [hfind] at hadd
    exact ⟨fs, Server.create_present h.file hadd, h⟩
  | none =>
    rw [hfind] at hadd
    by_cases hlast : table.next = 65535
    · simp only [if_pos hlast] at hadd ⊢
      exact ⟨fs, Server.create_exhausted h.file hadd, h⟩
    · simp only [if_neg hlast] at hadd ⊢
      refine ⟨_, Server.create_added h.file hadd, .swapped ?_⟩
      exact List.forall_mem_append.mpr ⟨h.clean, List.forall_mem_singleton.mpr hclean⟩

theorem delete_surelyEnds (h : server.Implements fs table) (hdistinct : table.Distinct)
    (volume : Text) : ∃ fs',
    (server.delete volume).run.SurelyEnds Working fs (table.serve server (.delete volume)).1 fs' ∧
      server.Implements fs' (table.serve server (.delete volume)).2 := by
  have hremove : remove? (server.exportRoot.join volume) table.blocks = _ :=
    remove?_blocks hdistinct.paths
  rw [← readSections_blocks h.clean] at hremove
  rw [Table.serve]
  by_cases hany : table.any (·.path.same (server.exportRoot.join volume))
  · rw [if_pos hany] at hremove
    refine ⟨_, Server.delete_removes h.file hremove, .swapped fun e he => ?_⟩
    exact h.clean e (List.eraseP_sublist.subset he)
  · rw [if_neg hany] at hremove
    have hsame : table.eraseP (·.path.same (server.exportRoot.join volume)) = table := by
      refine List.eraseP_of_forall_not fun e he hpath => hany ?_
      exact List.any_eq_true.mpr ⟨e, he, hpath⟩
    rw [hsame]
    exact ⟨fs, Server.delete_absent h.file hremove, h⟩

/-- **One request.**  The server surely ends with the answer of the table, and its file is that of
the table after the request. -/
theorem perform_surelyEnds (h : server.Implements fs table) (hdistinct : table.Distinct)
    {r : Request} (hclean : r.IsClean server.exportRoot) : ∃ fs',
    (r.perform server).run.SurelyEnds Working fs (table.serve server r).1 fs' ∧
      server.Implements fs' (table.serve server r).2 := by
  cases r with
  | create volume => exact create_surelyEnds h hdistinct hclean
  | delete volume => exact delete_surelyEnds h hdistinct volume

/-- Requests to the server, on a working file system that nobody else writes to. -/
def Server.serving (server : Server) :
    Surroundings (fun r : Request => Except HostError r.Result) Files :=
  fun r fs answer fs' => (r.perform server).run.Ends Working fs answer fs'

variable {history : List (Exchange fun r : Request => Except HostError r.Result)}

/-- **A course of requests.**  Its answers are those of the table, and the file at its end is that of
the table at its end. -/
theorem implements_of_follows (h : server.Implements fs table) (hdistinct : table.Distinct)
    (hclean : ∀ r ∈ history.map Exchange.question, r.IsClean server.exportRoot)
    (hserved : server.serving.Follows fs history fs') :
    history = table.exchanges server (history.map Exchange.question) ∧
      server.Implements fs' (table.after server (history.map Exchange.question)) ∧
      (table.after server (history.map Exchange.question)).Distinct := by
  induction history generalizing fs table with
  | nil =>
    rw [Surroundings.follows_nil] at hserved
    exact ⟨rfl, hserved ▸ h, hdistinct⟩
  | cons x rest ih =>
    obtain ⟨hx, hrest⟩ := List.forall_mem_cons.mp hclean
    obtain ⟨middle, hcall, hserved⟩ := hserved
    obtain ⟨reached, hends, himplements⟩ := perform_surelyEnds h hdistinct hx
    obtain ⟨hanswer, rfl⟩ := hends.2 _ _ hcall
    obtain ⟨hanswers, hend⟩ := ih himplements (hdistinct.serve x.question) hrest hserved
    refine ⟨?_, hend⟩
    rw [List.map_cons, Table.exchanges, ← hanswers, ← hanswer]

/-- Requests for clean exports can always be served, one after the other. -/
theorem exists_served (h : server.Implements fs table) (hdistinct : table.Distinct)
    {requests : List Request} (hclean : ∀ r ∈ requests, r.IsClean server.exportRoot) :
    ∃ fs', server.serving.Follows fs (table.exchanges server requests) fs' := by
  induction requests generalizing fs table with
  | nil => exact ⟨fs, rfl⟩
  | cons r rest ih =>
    obtain ⟨hr, hrest⟩ := List.forall_mem_cons.mp hclean
    obtain ⟨middle, hends, himplements⟩ := perform_surelyEnds h hdistinct hr
    obtain ⟨fs', hserved⟩ := ih himplements (hdistinct.serve r) hrest
    exact ⟨fs', middle, hends.1, hserved⟩

theorem implements_nil (hnone : fs server.config = none) : server.Implements fs [] :=
  ⟨.inr ⟨hnone, rfl⟩, List.forall_mem_nil _⟩

theorem distinct_nil : Table.Distinct [] := ⟨.nil, .nil, List.forall_mem_nil _⟩

/-- **The configuration file implements the export table.**  Start without a file and let clients
create and delete exports in any order, as often as they like, of volumes whose exports can be
written.  Then all answers are those of the table, the entries of the file are those of the table,
their numbers and their paths are pairwise different, and any further request surely ends with the
answer of the table. -/
theorem serving_implements_table (hnone : fs server.config = none)
    (hclean : ∀ r ∈ history.map Exchange.question, r.IsClean server.exportRoot)
    (hserved : server.serving.Follows fs history fs') :
    ∃ table : Table, table = Table.after server [] (history.map Exchange.question) ∧
      history = Table.exchanges server [] (history.map Exchange.question) ∧
      (∃ config, fs'.Holds server.config config ∧ readEntries config = table) ∧
      (table.Pairwise fun a b => a.id ≠ b.id ∧ ¬ a.path.same b.path) ∧
      ∀ r : Request, r.IsClean server.exportRoot →
        ∃ fs'', (r.perform server).run.SurelyEnds Working fs' (table.serve server r).1 fs'' := by
  obtain ⟨hanswers, himplements, hdistinct⟩ :=
    implements_of_follows (implements_nil hnone) distinct_nil hclean hserved
  refine ⟨_, rfl, hanswers, ⟨_, himplements.file, himplements.readEntries⟩,
    hdistinct.ids.and hdistinct.paths, fun r hr => ?_⟩
  obtain ⟨fs'', hends, -⟩ := perform_surelyEnds himplements hdistinct hr
  exact ⟨fs'', hends⟩

/-- Two exports are created, the first is deleted, and another one is created twice, the second time
by another spelling of its path. -/
def sampleHistory : List (Exchange fun r : Request => Except HostError r.Result) :=
  [⟨.create "pvc-1", .ok 1⟩, ⟨.create "pvc-2", .ok 2⟩, ⟨.delete "pvc-1", .ok ()⟩,
    ⟨.create "pvc-3", .ok 3⟩, ⟨.create "pvc-3/.", .ok 3⟩]

/-- A host without files. -/
def noFiles : Files := fun _ => none

theorem serving_implements_table_sample : ∃ fs' config,
    Server.sample.serving.Follows noFiles sampleHistory fs' ∧ fs'.Holds Server.sample.config config ∧
    readEntries config = [⟨2, "/export/pvc-2", "/pvc-2"⟩, ⟨3, "/export/pvc-3", "/pvc-3"⟩] := by
  have hnone : noFiles Server.sample.config = none := rfl
  have hclean : ∀ r ∈ sampleHistory.map Exchange.question, r.IsClean Server.sample.exportRoot := by
    decide
  have hanswers : Table.exchanges Server.sample [] (sampleHistory.map Exchange.question) =
      sampleHistory := rfl
  obtain ⟨fs', hserved⟩ := exists_served (implements_nil hnone) distinct_nil hclean
  rw [hanswers] at hserved
  obtain ⟨table, htable, -, ⟨config, hfile, hentries⟩, -⟩ :=
    serving_implements_table hnone hclean hserved
  refine ⟨fs', config, hserved, hfile, ?_⟩
  rw [hentries, htable]
  decide

end ShareAgent.Export
