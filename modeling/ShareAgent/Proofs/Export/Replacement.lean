import ShareAgent.Proofs.Agent.Tools
import ShareAgent.Proofs.Export.Table
import ShareAgent.Proofs.Path.Extension

/-! # What readers see of an edit

A file is written in pieces, so a reader can see any beginning of the new content, and that is what
a write leaves that fails or is cut off.  The configuration is not written but replaced by its
draft, in one step.  So its readers see the old content or the new one, and the old one after a
failure, exactly if the draft does not lead to the configuration itself, or nothing is to be written
(`replaced_whole_iff`).  But the draft may lead there: its name is made from that of the
configuration, and is the same if that ends in `.tmp` (`draft_same_iff`); any other draft may be
there already as a link.
-/
namespace ShareAgent.Export
open Dialogue

/-- **Which paths lead to one file.**  Different spellings of a path do, and links may. -/
structure Names where
  shares : Path → Path → Prop
  of_same : ∀ {a b : Path}, a.same b → shares a b

namespace Names

variable (names : Names)

/-- A file has this content, whatever path leads to it; all others are as they were. -/
def Written (path : Path) (content : Bytes) (fs fs' : Files) : Prop :=
  ∀ q, (names.shares path q → fs' q = some content) ∧ (¬ names.shares path q → fs' q = fs q)

/-- **A file system that writes in pieces.**  A write that fails leaves the files alone or leaves
any beginning of the content.  Another name is taken over at once or not at all. -/
def Piecewise : Surroundings KernelCall.Answer Files
  | .readFile path, fs, answer, fs' => fs' = fs ∧
    (∀ octets, answer = .ok octets → fs path = some octets) ∧
    (answer = .error .notFound → fs path = none)
  | .writeFile path content, fs, answer, fs' =>
    if answer.isOk then names.Written path content fs fs'
    else fs' = fs ∨ ∃ n, names.Written path (content.take n) fs fs'
  | .rename path target, fs, answer, fs' =>
    if answer.isOk then (¬ names.shares path target → fs' target = fs path) ∧
      ∀ q, ¬ names.shares path q → ¬ names.shares target q → fs' q = fs q
    else fs' = fs
  | _, fs, _, fs' => fs' = fs

/-- **What can be seen of the files** during a dialogue: what they hold after an answer, and during
a write any beginning of the content.  The dialogue need not go on after that. -/
def Seen {α : Type} (d : OnKernel α) (fs seen : Files) : Prop :=
  ∃ exchanges rest fs', d.Leads exchanges rest ∧ names.Piecewise.Follows fs exchanges fs' ∧
    (seen = fs' ∨ ∃ path content next n, rest = .ask (.writeFile path content) next ∧
      names.Written path (content.take n) fs' seen)

variable {names} {fs fs' : Files} {path : Path} {content : Bytes}

theorem Written.same (h : names.Written path content fs fs') {q : Path} (hq : path.same q) :
    fs' q = some content := (h q).1 (names.of_same hq)

theorem exists_written (names : Names) (path : Path) (content : Bytes) (fs : Files) :
    ∃ fs', names.Written path content fs fs' := by
  classical
  refine ⟨fun q => if names.shares path q then some content else fs q, fun q => ⟨?_, ?_⟩⟩
  · exact fun h => if_pos h
  · exact fun h => if_neg h

end Names

/-! ## What an edit comes to -/

namespace Request

/-- What a request comes to, from the sections that are read: an answer, or sections to be written
and the answer after that. -/
def plan (server : Server) : (r : Request) → List Section →
    Except HostError r.Result ⊕ List Section × r.Result
  | .create volume, ss =>
    match add server.exportRoot volume ss with
    | .present id => .inl (.ok id)
    | .exhausted => .inl (.error (.exportFailed ("no export id left in " ++ server.config.text)))
    | .added id kept => .inr (kept, id)
  | .delete volume, ss =>
    match remove? (server.exportRoot.join volume) ss with
    | none => .inl (.ok ())
    | some kept => .inr (kept, ())

/-- **Every request is answered from what is read**, or after a replacement. -/
theorem run_perform (server : Server) (r : Request) : (r.perform server).run =
    .ask (.readFile server.config) fun answer =>
      match Server.sectionsOf answer with
      | .error e => .done (.error e)
      | .ok ss =>
        match r.plan server ss with
        | .inl result => .done result
        | .inr (kept, result) => (server.replace kept >>= fun _ => pure result).run := by
  cases r with
  | create volume =>
    rw [perform, Server.run_create]
    refine congrArg (Dialogue.ask _) (funext fun answer => ?_)
    cases Server.sectionsOf answer with
    | error e => rfl
    | ok ss =>
      dsimp only [plan]
      cases add server.exportRoot volume ss <;> rfl
  | delete volume =>
    rw [perform, Server.run_delete]
    refine congrArg (Dialogue.ask _) (funext fun answer => ?_)
    cases Server.sectionsOf answer with
    | error e => rfl
    | ok ss =>
      dsimp only [plan]
      cases remove? (server.exportRoot.join volume) ss with
      | none => rfl
      | some kept => exact congrArg ExceptT.run bind_pure_unit.symm

end Request

namespace Server

variable {server : Server} {names : Names} {fs fs' : Files} {r : Request} {content new : Bytes}

/-- The request is answered by writing this configuration. -/
def Edits (server : Server) (fs : Files) (r : Request) (new : Bytes) : Prop :=
  ∃ ss kept result, server.shown fs = .ok ss ∧ r.plan server ss = .inr (kept, result) ∧
    new = Utf8.encode (writeSections kept)

/-! ## A draft apart -/

/-- What is read is what the file shows. -/
theorem read_shown {answer : Except SystemError Bytes} {ss : List Section}
    (hread : ∀ octets, answer = .ok octets → fs server.config = some octets)
    (hmissing : answer = .error .notFound → fs server.config = none)
    (hsections : sectionsOf answer = .ok ss) : server.shown fs = .ok ss := by
  cases answer with
  | ok octets =>
    rw [shown, hread octets rfl]
    exact hsections
  | error e =>
    by_cases he : e = .notFound
    · subst he
      rw [shown, hmissing rfl]
      exact hsections
    · rw [sectionsOf, if_neg he] at hsections
      cases hsections

theorem swap_kept (hapart : ¬ names.shares server.draft server.config) (content : Bytes)
    (fs : Files) : (server.swap content).run.Always names.Piecewise
      (fun fs' => fs' server.config = fs server.config ∨ fs' server.config = some content)
      (fun result fs' => ∀ e, result = .error e → fs' server.config = fs server.config) fs := by
  rw [swap, always_run_bind, HostTask.system, HostTask.always_call]
  intro answer fs₁ hwrite
  cases answer with
  | error e =>
    have hkept : fs₁ server.config = fs server.config := by
      rcases hwrite with rfl | ⟨n, hwritten⟩
      · rfl
      · exact (hwritten server.config).2 hapart
    exact ⟨.inl hkept, fun _ _ => hkept⟩
  | ok _ =>
    have hwritten : names.Written server.draft content fs fs₁ := hwrite
    have hkept : fs₁ server.config = fs server.config := (hwritten server.config).2 hapart
    refine ⟨.inl hkept, HostTask.always_call.mpr ?_⟩
    intro answer fs₂ hrename
    cases answer with
    | error e =>
      obtain rfl : fs₂ = fs₁ := hrename
      exact ⟨.inl hkept, fun _ _ => hkept⟩
    | ok _ =>
      have hmoved : fs₂ server.config = fs₁ server.draft := hrename.1 hapart
      rw [hwritten.same (Path.same_self _)] at hmoved
      refine ⟨.inr hmoved, ?_⟩
      intro e he
      cases he

theorem makeDirectory_kept (fs : Files) : server.makeDirectory.run.Always names.Piecewise
    (· = fs) (fun _ fs' => fs' = fs) fs := by
  rw [makeDirectory]
  cases server.config.parent with
  | none => exact rfl
  | some directory =>
    refine HostTask.always_call.mpr ?_
    intro answer fs' hsame
    exact ⟨hsame, hsame⟩

/-- **A draft apart from the configuration** keeps it whole. -/
theorem perform_kept (hapart : ¬ names.shares server.draft server.config) (r : Request)
    (fs : Files) : (r.perform server).run.Always names.Piecewise
      (fun fs' => fs' server.config = fs server.config ∨
        ∃ new, server.Edits fs r new ∧ fs' server.config = some new)
      (fun result fs' => ∀ e, result = .error e → fs' server.config = fs server.config) fs := by
  rw [Request.run_perform]
  intro answer fs₁ hread
  obtain ⟨rfl, hread, hmissing⟩ := hread
  refine ⟨.inl rfl, ?_⟩
  cases hsections : sectionsOf answer with
  | error e =>
    simp only [hsections]
    exact fun _ _ => rfl
  | ok ss =>
    have hshown := read_shown hread hmissing hsections
    simp only [hsections]
    cases hplan : r.plan server ss with
    | inl result => exact fun _ _ => rfl
    | inr planned =>
      obtain ⟨kept, result⟩ := planned
      have hedits : server.Edits fs₁ r (Utf8.encode (writeSections kept)) :=
        ⟨ss, kept, result, hshown, hplan, rfl⟩
      refine always_run_bind.mpr (always_run_bind.mpr ?_)
      refine makeDirectory_kept fs₁ |>.mono (fun _ _ _ _ hw => hw) (fun fs' hsame => ?_) ?_
      · exact .inl (congrFun hsame _)
      intro made fs' hsame
      obtain rfl : fs' = fs₁ := hsame
      cases made with
      | error e => exact fun _ _ => rfl
      | ok _ =>
        refine (swap_kept hapart _ fs').mono (fun _ _ _ _ hw => hw) (fun fs'' hkept => ?_) ?_
        · exact hkept.imp_right fun hnew => ⟨_, hedits, hnew⟩
        intro swapped fs'' hkept
        cases swapped with
        | error e => exact fun _ _ => hkept e rfl
        | ok _ =>
          intro e he
          cases he

/-! ## A draft that leads to the configuration -/

theorem piecewise_read (names : Names) (fs : Files) (path : Path) :
    names.Piecewise (.readFile path) fs ((fs path).elim (.error .notFound) .ok) fs := by
  refine ⟨rfl, ?_, ?_⟩ <;> cases fs path <;> simp

theorem makeDirectory_ends (names : Names) (server : Server) (fs : Files) :
    server.makeDirectory.run.Ends names.Piecewise fs (.ok ()) fs := by
  rw [makeDirectory]
  cases server.config.parent with
  | none => exact ⟨[], .here _, rfl⟩
  | some directory =>
    have hmade : names.Piecewise (.makeDirectories directory) fs (.ok ()) fs := rfl
    exact Ends.ask hmade ⟨[], .here _, rfl⟩

/-- Writing the draft can fail with any beginning of the content written. -/
theorem swap_cut {n : Nat} (h : names.Written server.draft (content.take n) fs fs') :
    (server.swap content).run.Ends names.Piecewise fs (.error (.system .notFound)) fs' := by
  have hcut : names.Piecewise (.writeFile server.draft content) fs (.error .notFound) fs' :=
    .inr ⟨n, h⟩
  rw [swap, ExceptT.run_bind]
  exact Ends.bind (Ends.ask hcut ⟨[], .here _, rfl⟩) ⟨[], .here _, rfl⟩

/-- **A write that is cut off** leaves any beginning of the new configuration, if the draft leads to
it. -/
theorem exists_cut (hshares : names.shares server.draft server.config)
    (hedits : server.Edits fs r new) (n : Nat) : ∃ e fs',
    (r.perform server).run.Ends names.Piecewise fs (.error e) fs' ∧
      fs' server.config = some (new.take n) := by
  obtain ⟨ss, kept, result, hshown, hplan, rfl⟩ := hedits
  obtain ⟨fs', hwritten⟩ := names.exists_written server.draft
    ((Utf8.encode (writeSections kept)).take n) fs
  refine ⟨.system .notFound, fs', ?_, (hwritten server.config).1 hshares⟩
  rw [Request.run_perform]
  refine Ends.ask (piecewise_read names fs server.config) ?_
  rw [shown] at hshown
  simp only [hshown, hplan, replace, ExceptT.run_bind]
  exact ((makeDirectory_ends names server fs).bind (swap_cut hwritten)).bind ⟨[], .here _, rfl⟩

/-- Where nothing was, something is written. -/
theorem Edits.ne_nil (h : server.Edits fs r new) (hempty : fs server.config = some []) :
    new ≠ [] := by
  obtain ⟨ss, kept, result, hshown, hplan, rfl⟩ := h
  obtain rfl : ss = [] := by
    rw [shown, hempty] at hshown
    exact (Except.ok.inj hshown).symm
  cases r with
  | create volume =>
    have hadd : add server.exportRoot volume [] = .added 1
        [.block (.ofVolume 1 server.exportRoot volume)
          (Entry.ofVolume 1 server.exportRoot volume).render] :=
      rfl
    dsimp only [Request.plan] at hplan
    rw [hadd] at hplan
    obtain ⟨rfl, -⟩ := Prod.mk.inj (Sum.inr.inj hplan)
    exact List.cons_ne_nil 0x45 _
  | delete volume => cases hplan

/-- **The configuration is kept whole**: at every point of a request a reader sees the old content
or the new one, and the old one after a failure. -/
def KeepsWhole (server : Server) (names : Names) (fs : Files) (r : Request) : Prop :=
  (∀ seen, names.Seen (r.perform server).run fs seen →
    seen server.config = fs server.config ∨
      ∃ new, server.Edits fs r new ∧ seen server.config = some new) ∧
  ∀ e fs', (r.perform server).run.Ends names.Piecewise fs (.error e) fs' →
    fs' server.config = fs server.config

theorem perform_asks (server : Server) (r : Request) :
    (r.perform server).run.Asks (KernelCall.Edits server) := by
  cases r with
  | create volume => exact server.create_asks volume
  | delete volume => exact server.delete_asks volume

theorem keepsWhole_of_apart (hapart : ¬ names.shares server.draft server.config) :
    server.KeepsWhole names fs r := by
  have hkept := perform_kept hapart r fs
  constructor
  · rintro seen ⟨exchanges, rest, fs', hlead, hfollows, hseen⟩
    have hholds := hkept.holds (.inl rfl) hlead hfollows
    rcases hseen with rfl | ⟨path, content, next, n, rfl, hwritten⟩
    · exact hholds
    · -- Only the draft is ever written.
      obtain rfl : path = server.draft := ((perform_asks server r).rest hlead).1
      rw [(hwritten server.config).2 hapart]
      exact hholds
  · rintro e fs' ⟨exchanges, hlead, hfollows⟩
    exact hkept.ends hlead hfollows e rfl

/-- A request without an edit reads the configuration, and that is all. -/
theorem leads_of_not_edits (hnone : ∀ new, ¬ server.Edits fs r new)
    {exchanges : List (Exchange KernelCall.Answer)} {rest : OnKernel (Except HostError r.Result)}
    (hlead : (r.perform server).run.Leads exchanges rest)
    (hfollows : names.Piecewise.Follows fs exchanges fs') :
    fs' = fs ∧ ∀ path content next, rest ≠ .ask (.writeFile path content) next := by
  rw [Request.run_perform] at hlead
  cases hlead with
  | here => exact ⟨hfollows, fun _ _ _ => nofun⟩
  | @ask _ _ answer exchanges _ hrest =>
    obtain ⟨middle, ⟨rfl, hread, hmissing⟩, hfollows⟩ := hfollows
    obtain ⟨result, hdone⟩ : ∃ result : Except HostError r.Result,
        Leads (.done result) exchanges rest := by
      cases hsections : sectionsOf answer with
      | error e =>
        simp only [hsections] at hrest
        exact ⟨_, hrest⟩
      | ok ss =>
        simp only [hsections] at hrest
        cases hplan : r.plan server ss with
        | inl result =>
          simp only [hplan] at hrest
          exact ⟨_, hrest⟩
        | inr planned =>
          exact (hnone _ ⟨ss, _, _, read_shown hread hmissing hsections, hplan, rfl⟩).elim
    cases hdone with
    | here => exact ⟨hfollows, fun _ _ _ => nofun⟩

theorem keepsWhole_of_not_edits (hnone : ∀ new, ¬ server.Edits fs r new) :
    server.KeepsWhole names fs r := by
  constructor
  · rintro seen ⟨exchanges, rest, fs', hlead, hfollows, hseen⟩
    obtain ⟨rfl, hwrites⟩ := leads_of_not_edits hnone hlead hfollows
    rcases hseen with rfl | ⟨path, content, next, n, hrest, -⟩
    · exact .inl rfl
    · exact (hwrites path content next hrest).elim
  · rintro e fs' ⟨exchanges, hlead, hfollows⟩
    rw [(leads_of_not_edits hnone hlead hfollows).1]

/-- **An edit through a draft that leads to the configuration** does not keep it whole. -/
theorem not_keepsWhole (hshares : names.shares server.draft server.config)
    (hedits : server.Edits fs r new) : ¬ server.KeepsWhole names fs r := by
  intro hkeeps
  have hcut : ∀ n, some (new.take n) = fs server.config := by
    intro n
    obtain ⟨e, fs', hends, hleft⟩ := exists_cut hshares hedits n
    rw [← hleft]
    exact hkeeps.2 e fs' hends
  -- Both nothing and all of it would be the old content.
  have hempty : fs server.config = some [] := by
    rw [← hcut 0, List.take_zero]
  apply hedits.ne_nil hempty
  have hwhole := hcut new.length
  rw [List.take_length, hempty] at hwhole
  exact Option.some.inj hwhole

/-- The draft has the name of the configuration exactly if that ends in the extension of drafts. -/
theorem draft_same_iff {directory name : Text} (hconfig : server.config = ⟨directory ++ name⟩)
    (hdirectory : Path.IsDirectory directory) (hname : Path.IsFileName name) :
    server.draft.same server.config ↔
      ∃ stem : Text, stem ≠ [] ∧ stem ≠ ['.'] ∧ name = stem ++ ".tmp" := by
  rw [draft, hconfig]
  exact Path.withExtension_same_iff hdirectory hname (by decide) (by decide) (by decide)

end Server

/-- **When readers see no part of a configuration.**  Whatever the files hold, a request keeps the
configuration whole exactly if its draft does not lead to the configuration, or nothing is to be
written.  By its name alone the draft leads there exactly if the name of the configuration ends in
the extension of drafts, after more than a dot. -/
theorem replaced_whole_iff (server : Server) (names : Names) (fs : Files) (r : Request) :
    (server.KeepsWhole names fs r ↔
      ¬ names.shares server.draft server.config ∨ ∀ new, ¬ server.Edits fs r new) ∧
    ∀ directory name : Text, server.config = ⟨directory ++ name⟩ → Path.IsDirectory directory →
      Path.IsFileName name → (server.draft.same server.config ↔
        ∃ stem : Text, stem ≠ [] ∧ stem ≠ ['.'] ∧ name = stem ++ ".tmp") := by
  refine ⟨⟨fun hkeeps => ?_, ?_⟩, fun directory name => Server.draft_same_iff⟩
  · by_cases hshares : names.shares server.draft server.config
    · exact .inr fun new hedits => Server.not_keepsWhole hshares hedits hkeeps
    · exact .inl hshares
  · rintro (hapart | hnone)
    · exact Server.keepsWhole_of_apart hapart
    · exact Server.keepsWhole_of_not_edits hnone

/-- Names of files where there are no links. -/
def Names.unlinked : Names where
  shares a b := a.same b
  of_same h := h

/-- A configuration of another name is kept whole. -/
theorem sample_keepsWhole :
    Server.sample.KeepsWhole .unlinked noFiles (.create "pvc-1") ∧
      ¬ Server.sample.draft.same Server.sample.config := by
  obtain ⟨hkeeps, hname⟩ := replaced_whole_iff Server.sample .unlinked noFiles (.create "pvc-1")
  have hsame : ¬ Server.sample.draft.same Server.sample.config := by
    rw [hname "/etc/" "vfs.conf" rfl (.inr ⟨"/etc", rfl⟩) (by decide)]
    rintro ⟨stem, -, -, hstem⟩
    have hlast := congrArg List.getLast? hstem
    have htmp : (Text.ofString ".tmp").getLast? = some 'p' := rfl
    rw [List.getLast?_append, htmp, Option.some_or] at hlast
    exact absurd hlast (by decide)
  exact ⟨hkeeps.mpr (.inl hsame), hsame⟩

/-- A server whose configuration is named like a draft. -/
def tmpServer : Server := ⟨"/etc/vfs.tmp", "/export", "/proc", "ganesha.nfsd"⟩

/-- The path of the configuration or of its draft. -/
def Server.Edited (server : Server) (path : Path) : Prop :=
  path.same server.draft ∨ path.same server.config

/-- Names of files where the draft is a link to the configuration. -/
def Names.linkedDraft : Names where
  shares a b := a.same b ∨ Server.sample.Edited a ∧ Server.sample.Edited b
  of_same := .inl

/-- **A write that is cut off leaves an empty configuration** where there was none, and fails: if
the configuration has the name of its own draft, and if the draft is a link to it. -/
theorem cut_off_write_seen :
    (∃ e fs', ((Request.create "pvc-1").perform tmpServer).run.Ends Names.unlinked.Piecewise noFiles
      (.error e) fs' ∧ noFiles tmpServer.config = none ∧ fs' tmpServer.config = some []) ∧
    ∃ e fs', ((Request.create "pvc-1").perform Server.sample).run.Ends Names.linkedDraft.Piecewise
      noFiles (.error e) fs' ∧
        noFiles Server.sample.config = none ∧ fs' Server.sample.config = some [] := by
  constructor
  · have hshares : Names.unlinked.shares tmpServer.draft tmpServer.config := by
      show tmpServer.draft.same tmpServer.config
      decide
    obtain ⟨e, fs', hends, hleft⟩ := Server.exists_cut hshares
      (⟨[], _, _, rfl, rfl, rfl⟩ : tmpServer.Edits noFiles (.create "pvc-1") _) 0
    exact ⟨e, fs', hends, rfl, hleft⟩
  · have hshares : Names.linkedDraft.shares Server.sample.draft Server.sample.config :=
      .inr ⟨.inl (Path.same_self _), .inr (Path.same_self _)⟩
    obtain ⟨e, fs', hends, hleft⟩ := Server.exists_cut hshares
      (⟨[], _, _, rfl, rfl, rfl⟩ : Server.sample.Edits noFiles (.create "pvc-1") _) 0
    exact ⟨e, fs', hends, rfl, hleft⟩

end ShareAgent.Export
