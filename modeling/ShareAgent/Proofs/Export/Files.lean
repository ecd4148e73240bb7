import ShareAgent.Export.Server
import ShareAgent.Proofs.Dialogue.Always
import ShareAgent.Proofs.Export.Sections
import ShareAgent.Proofs.Text.Utf8

/-! # The configuration file

What becomes of the files of a host when the server's configuration is edited.  On a *truthful* file
system an answer without an error tells what was done: a file was read as it is, written as a whole
or renamed.  A failed write may leave anything in its target, a failed renaming leaves all files
alone.  A *working* file system does what it is asked wherever that is possible.

One lemma for each step of the server says what it finds and leaves, so no statement about adding or
removing an export looks into the steps again.
-/
namespace ShareAgent

/-- The content of the files, and which paths have none. -/
abbrev Files := Path → Option Bytes

namespace Files

/-- The files with another content, or none, at one path. -/
def put (fs : Files) (path : Path) (content : Option Bytes) : Files :=
  fun p => if p = path then content else fs p

@[simp] theorem put_same (fs : Files) (path : Path) (content : Option Bytes) :
    fs.put path content path = content := if_pos rfl

/-- The file holds the text. A missing file is as good as an empty one. -/
def Holds (fs : Files) (path : Path) (t : Text) : Prop :=
  fs path = some (Utf8.encode t) ∨ fs path = none ∧ t = []

/-- **A truthful file system.** -/
def Truthful : Surroundings KernelCall.Answer Files
  | .readFile path, fs, answer, fs' => fs' = fs ∧
    (∀ octets, answer = .ok octets → fs path = some octets) ∧
    (answer = .error .notFound → fs path = none)
  | .writeFile path content, fs, answer, fs' =>
    if answer.isOk then fs' = fs.put path (some content) else ∃ left, fs' = fs.put path left
  | .rename path target, fs, answer, fs' =>
    if answer.isOk then ∃ content, fs path = some content ∧
      fs' = (fs.put path none).put target (some content)
    else fs' = fs
  | _, fs, _, fs' => fs' = fs

/-- **A working file system.** -/
def Working : Surroundings KernelCall.Answer Files
  | .readFile path, fs, answer, fs' => fs' = fs ∧ answer = (fs path).elim (.error .notFound) .ok
  | .writeFile path content, fs, answer, fs' => answer = .ok () ∧ fs' = fs.put path (some content)
  | .rename path target, fs, answer, fs' =>
    (∃ content, fs path = some content ∧ answer = .ok () ∧
        fs' = (fs.put path none).put target (some content)) ∨
      fs path = none ∧ answer = .error .notFound ∧ fs' = fs
  | .makeDirectories _, fs, answer, fs' => answer = .ok () ∧ fs' = fs
  | _, fs, _, fs' => fs' = fs

/-- A working file system is truthful. -/
theorem Working.truthful (call : KernelCall) (fs : Files) (answer : call.Answer) (fs' : Files)
    (h : Working call fs answer fs') : Truthful call fs answer fs' := by
  cases call with
  | readFile path =>
    obtain ⟨rfl, rfl⟩ := h
    refine ⟨rfl, ?_, ?_⟩ <;> cases fs' path <;> simp
  | writeFile path content =>
    obtain ⟨rfl, rfl⟩ := h
    exact rfl
  | rename path target =>
    rcases h with ⟨content, hpath, rfl, rfl⟩ | ⟨-, rfl, rfl⟩
    · exact ⟨content, hpath, rfl⟩
    · exact rfl
  | makeDirectories => exact h.2
  | _ => exact h

/-- A working file system answers every question. -/
theorem working_answers (call : KernelCall) (fs : Files) :
    ∃ answer fs', Working call fs answer fs' := by
  cases call with
  | readFile | writeFile | makeDirectories => exact ⟨_, _, rfl, rfl⟩
  | rename path target =>
    cases hpath : fs path with
    | some content => exact ⟨_, _, .inl ⟨content, hpath, rfl, rfl⟩⟩
    | none => exact ⟨_, _, .inr ⟨hpath, rfl, rfl⟩⟩
  | resolve | mountTable | listDirectory | fileStatus => exact ⟨.error .notFound, fs, rfl⟩
  | mount | unmount | hangUp => exact ⟨.ok (), fs, rfl⟩
  | run => exact ⟨.ok [], fs, rfl⟩
  | pause => exact ⟨(), fs, rfl⟩

end Files

/-- A call fails the task, or the task goes on with its answer. -/
theorem HostTask.always_call {α σ ε : Type} {w : Surroundings KernelCall.Answer σ}
    {I : σ → Prop} {a : σ} {blame : ε → HostError} {step : OnKernel (Except ε α)}
    {goal : Except HostError α → σ → Prop} :
    (HostTask.call blame step).run.Always w I goal a ↔
      step.Always w I (fun answer a' => goal (answer.mapError blame) a') a :=
  Dialogue.always_bind

namespace Export.Server
open Dialogue Files

variable {server : Server} {fs : Files} {config : Text}

/-! ## Reading -/

theorem sectionsOf_encode (config : Text) :
    sectionsOf (.ok (Utf8.encode config)) = .ok (readSections config) := by
  rw [sectionsOf, Mount.asText, Utf8.decode?_encode]

/-- The sections that the configuration file shows, if it can be read. -/
def shown (server : Server) (fs : Files) : Except HostError (List Section) :=
  sectionsOf ((fs server.config).elim (.error .notFound) .ok)

theorem shown_of_holds (hfile : fs.Holds server.config config) :
    server.shown fs = .ok (readSections config) := by
  rcases hfile with hconfig | ⟨hnone, rfl⟩
  · rw [shown, hconfig]
    exact sectionsOf_encode config
  · rw [shown, hnone]
    rfl

/-- If the server reads its file, it reads what the file shows. -/
theorem sections_shown (fs : Files) : server.sections.run.Always Truthful (· = fs)
    (fun r fs' => fs' = fs ∧ ∀ ss, r = .ok ss → server.shown fs = .ok ss) fs := by
  rintro (e | octets) fs' ⟨rfl, hread, hmissing⟩
  · refine ⟨rfl, rfl, fun ss hss => ?_⟩
    by_cases he : e = .notFound
    · subst he
      rw [shown, hmissing rfl]
      exact hss
    · rw [sectionsOf, if_neg he] at hss
      cases hss
  · refine ⟨rfl, rfl, fun ss hss => ?_⟩
    rw [shown, hread octets rfl]
    exact hss

/-- If the server reads its file, it reads what the file holds. -/
theorem sections_always (hfile : fs.Holds server.config config) :
    server.sections.run.Always Truthful (· = fs)
      (fun r fs' => fs' = fs ∧ ∀ ss, r = .ok ss → ss = readSections config) fs := by
  refine (sections_shown fs).imp ?_
  rintro r fs' ⟨rfl, hread⟩
  exact ⟨rfl, fun ss hss => Except.ok.inj ((hread ss hss).symm.trans (shown_of_holds hfile))⟩

theorem sections_working (hfile : fs.Holds server.config config) :
    server.sections.run.Always Working (· = fs)
      (fun r fs' => fs' = fs ∧ r = .ok (readSections config)) fs := by
  rintro _ fs' ⟨rfl, rfl⟩
  exact ⟨rfl, rfl, shown_of_holds hfile⟩

/-! ## Writing -/

/-- The files after the draft is written and takes the name of the configuration. -/
def swapped (server : Server) (fs : Files) (content : Bytes) : Files :=
  ((fs.put server.draft (some content)).put server.draft none).put server.config (some content)

theorem swapped_config (fs : Files) (content : Bytes) :
    server.swapped fs content server.config = some content := put_same _ _ _

theorem makeDirectory_always (fs : Files) :
    server.makeDirectory.run.Always Truthful (· = fs) (fun _ fs' => fs' = fs) fs := by
  rw [makeDirectory]
  cases server.config.parent with
  | none => exact rfl
  | some directory =>
    refine HostTask.always_call.mpr ?_
    rintro _ fs' rfl
    exact ⟨rfl, rfl⟩

theorem makeDirectory_working (fs : Files) :
    server.makeDirectory.run.Always Working (· = fs) (fun r fs' => r = .ok () ∧ fs' = fs) fs := by
  rw [makeDirectory]
  cases server.config.parent with
  | none => exact ⟨rfl, rfl⟩
  | some directory =>
    refine HostTask.always_call.mpr ?_
    rintro _ fs' ⟨rfl, rfl⟩
    exact ⟨rfl, rfl, rfl⟩

theorem swap_always (fs : Files) (content : Bytes) :
    (server.swap content).run.Always Truthful (fun _ => True)
      (fun r fs' => r = .ok () → fs' = server.swapped fs content) fs := by
  rw [swap, always_run_bind, HostTask.system, HostTask.always_call]
  rintro (e | ⟨⟩) fs₁ hdraft
  · exact ⟨trivial, fun hr => nomatch hr⟩
  obtain rfl : fs₁ = fs.put server.draft (some content) := hdraft
  refine ⟨trivial, HostTask.always_call.mpr ?_⟩
  rintro (e | ⟨⟩) fs₂ hmoved
  · exact ⟨trivial, fun hr => nomatch hr⟩
  obtain ⟨moved, hmoved, rfl⟩ : ∃ moved, fs.put server.draft (some content) server.draft =
      some moved ∧ fs₂ = _ := hmoved
  rw [put_same] at hmoved
  obtain rfl := Option.some.inj hmoved
  exact ⟨trivial, fun _ => rfl⟩

theorem swap_working (fs : Files) (content : Bytes) :
    (server.swap content).run.Always Working (fun _ => True)
      (fun r fs' => r = .ok () ∧ fs' = server.swapped fs content) fs := by
  rw [swap, always_run_bind, HostTask.system, HostTask.always_call]
  rintro _ fs₁ ⟨rfl, rfl⟩
  refine ⟨trivial, HostTask.always_call.mpr ?_⟩
  rintro answer fs₂ (⟨moved, hmoved, rfl, rfl⟩ | ⟨hnone, -⟩)
  · rw [put_same] at hmoved
    obtain rfl := Option.some.inj hmoved
    exact ⟨trivial, rfl, rfl⟩
  · rw [put_same] at hnone
    cases hnone

/-- If the configuration is replaced without an error, it is replaced by these sections. -/
theorem replace_always (fs : Files) (ss : List Section) :
    (server.replace ss).run.Always Truthful (fun _ => True)
      (fun r fs' => r = .ok () →
        fs' = server.swapped fs (Utf8.encode (writeSections ss))) fs := by
  rw [replace, always_run_bind]
  refine (makeDirectory_always fs).mono (fun _ _ _ _ hw => hw) (fun _ _ => trivial) ?_
  rintro (e | ⟨⟩) fs' rfl
  · exact fun hr => nomatch hr
  · exact swap_always fs' _

theorem replace_working (fs : Files) (ss : List Section) :
    (server.replace ss).run.Always Working (fun _ => True)
      (fun r fs' => r = .ok () ∧
        fs' = server.swapped fs (Utf8.encode (writeSections ss))) fs := by
  rw [replace, always_run_bind]
  refine (makeDirectory_working fs).mono (fun _ _ _ _ hw => hw) (fun _ _ => trivial) ?_
  rintro _ fs' ⟨rfl, rfl⟩
  exact swap_working fs' _

/-! ## Adding and removing an export -/

/-- **What an addition without an error comes to**: the export that is there already and the same
files, or the new export and the configuration with it. -/
theorem create_always (volume : Text) (hfile : fs.Holds server.config config) :
    (server.create volume).run.Always Truthful (fun _ => True)
      (fun r fs' => ∀ id, r = .ok id →
        add server.exportRoot volume (readSections config) = .present id ∧ fs' = fs ∨
        ∃ ss, add server.exportRoot volume (readSections config) = .added id ss ∧
          fs' = server.swapped fs (Utf8.encode (writeSections ss))) fs := by
  rw [create, always_run_bind]
  refine (sections_always hfile).mono (fun _ _ _ _ hw => hw) (fun _ _ => trivial) ?_
  rintro (e | ss) fs' ⟨rfl, hread⟩
  · exact fun id hr => nomatch hr
  obtain rfl := hread ss rfl
  cases hadd : add server.exportRoot volume (readSections config) with
  | present id =>
    simp only [hadd]
    intro id' hid
    obtain rfl := Except.ok.inj hid
    exact .inl ⟨rfl, rfl⟩
  | exhausted =>
    simp only [hadd]
    exact fun id hr => nomatch hr
  | added id ss =>
    simp only [hadd]
    refine always_run_bind.mpr ((replace_always fs' ss).imp ?_)
    rintro (e | ⟨⟩) fs'' hreplaced
    · exact fun id hr => nomatch hr
    · intro id' hid
      obtain rfl := Except.ok.inj hid
      exact .inr ⟨ss, rfl, hreplaced rfl⟩

/-- An export that is there already is found, and nothing is written. -/
theorem create_present {volume : Text} {id : UInt16} (hfile : fs.Holds server.config config)
    (hadd : add server.exportRoot volume (readSections config) = .present id) :
    (server.create volume).run.SurelyEnds Working fs (.ok id) fs := by
  refine Always.surelyEnds (I := fun _ => True) working_answers ?_
  rw [create, always_run_bind]
  refine (sections_working hfile).mono (fun _ _ _ _ hw => hw) (fun _ _ => trivial) ?_
  rintro _ fs' ⟨rfl, rfl⟩
  simp only [hadd]
  exact ⟨rfl, rfl⟩

/-- If no number is left, nothing is written. -/
theorem create_exhausted {volume : Text} (hfile : fs.Holds server.config config)
    (hadd : add server.exportRoot volume (readSections config) = .exhausted) :
    (server.create volume).run.SurelyEnds Working fs
      (.error (.exportFailed ("no export id left in " ++ server.config.text))) fs := by
  refine Always.surelyEnds (I := fun _ => True) working_answers ?_
  rw [create, always_run_bind]
  refine (sections_working hfile).mono (fun _ _ _ _ hw => hw) (fun _ _ => trivial) ?_
  rintro _ fs' ⟨rfl, rfl⟩
  simp only [hadd]
  exact ⟨rfl, rfl⟩

/-- A new export is written behind the others. -/
theorem create_added {volume : Text} {id : UInt16} {ss : List Section}
    (hfile : fs.Holds server.config config)
    (hadd : add server.exportRoot volume (readSections config) = .added id ss) :
    (server.create volume).run.SurelyEnds Working fs (.ok id)
      (server.swapped fs (Utf8.encode (writeSections ss))) := by
  refine Always.surelyEnds (I := fun _ => True) working_answers ?_
  rw [create, always_run_bind]
  refine (sections_working hfile).mono (fun _ _ _ _ hw => hw) (fun _ _ => trivial) ?_
  rintro _ fs' ⟨rfl, rfl⟩
  simp only [hadd]
  refine always_run_bind.mpr ((replace_working fs' ss).imp ?_)
  rintro _ fs'' ⟨rfl, rfl⟩
  exact ⟨rfl, rfl⟩

/-- What a removal without an error comes to: nothing to remove and the same files, or the
configuration without the exports. -/
theorem delete_shown (volume : Text) (fs : Files) :
    (server.delete volume).run.Always Truthful (fun _ => True)
      (fun r fs' => r = .ok () → ∃ ss, server.shown fs = .ok ss ∧
        (remove? (server.exportRoot.join volume) ss = none ∧ fs' = fs ∨
        ∃ kept, remove? (server.exportRoot.join volume) ss = some kept ∧
          fs' = server.swapped fs (Utf8.encode (writeSections kept)))) fs := by
  rw [delete, always_run_bind]
  refine (sections_shown fs).mono (fun _ _ _ _ hw => hw) (fun _ _ => trivial) ?_
  rintro (e | ss) fs' ⟨rfl, hread⟩
  · exact fun hr => nomatch hr
  have hshown := hread ss rfl
  cases hremove : remove? (server.exportRoot.join volume) ss with
  | none =>
    simp only [hremove]
    exact fun _ => ⟨ss, hshown, .inl ⟨hremove, rfl⟩⟩
  | some kept =>
    simp only [hremove]
    exact (replace_always fs' kept).imp fun _ _ hreplaced hr =>
      ⟨ss, hshown, .inr ⟨kept, hremove, hreplaced hr⟩⟩

/-- The same for a file that holds a text. -/
theorem delete_always (volume : Text) (hfile : fs.Holds server.config config) :
    (server.delete volume).run.Always Truthful (fun _ => True)
      (fun r fs' => r = .ok () →
        remove? (server.exportRoot.join volume) (readSections config) = none ∧ fs' = fs ∨
        ∃ ss, remove? (server.exportRoot.join volume) (readSections config) = some ss ∧
          fs' = server.swapped fs (Utf8.encode (writeSections ss))) fs := by
  refine (delete_shown volume fs).imp fun r fs' hdone hr => ?_
  obtain ⟨ss, hshown, hcases⟩ := hdone hr
  obtain rfl := Except.ok.inj ((shown_of_holds hfile).symm.trans hshown)
  exact hcases

/-- If there is nothing to be done with the sections, the configuration is read, and that is
all. -/
theorem reads_only {α : Type} {next : List Section → OnKernel (Except HostError α)}
    {r r' : Except HostError α} {exchanges : List (Exchange KernelCall.Answer)} {fs' : Files}
    (hfile : fs.Holds server.config config) (hdone : next (readSections config) = .done r')
    (hlead : Leads (.ask (.readFile server.config) fun answer =>
      match sectionsOf answer with
      | .error e => .done (.error e)
      | .ok ss => next ss) exchanges (.done r))
    (hfollows : Surroundings.Follows Truthful fs exchanges fs') :
    fs' = fs ∧ exchanges.map Exchange.question = [.readFile server.config] := by
  cases hlead with
  | @ask _ _ answer rest _ hrest =>
    obtain ⟨middle, hstep, hfollows⟩ := hfollows
    obtain ⟨rfl, -, hread⟩ := sections_always hfile answer middle hstep
    have hend : rest = [] := by
      cases hanswer : sectionsOf answer with
      | error e =>
        simp only [hanswer] at hrest
        exact (leads_done.mp hrest).1
      | ok ss =>
        obtain rfl := hread ss hanswer
        simp only [hanswer, hdone] at hrest
        exact (leads_done.mp hrest).1
    subst hend
    exact ⟨hfollows, rfl⟩

/-- Creating reads the file and then replaces it, if there is something to add. -/
theorem run_create (server : Server) (volume : Text) : (server.create volume).run =
    .ask (.readFile server.config) fun answer =>
      match sectionsOf answer with
      | .error e => .done (.error e)
      | .ok ss =>
        match add server.exportRoot volume ss with
        | .present id => .done (.ok id)
        | .exhausted =>
          .done (.error (.exportFailed ("no export id left in " ++ server.config.text)))
        | .added id ss => (server.replace ss >>= fun _ => pure id).run := by
  rw [create, ExceptT.run_bind]
  refine congrArg (Dialogue.ask _) (funext fun answer => ?_)
  rw [Dialogue.bind]
  cases sectionsOf answer with
  | error e => rfl
  | ok ss =>
    simp only
    cases add server.exportRoot volume ss <;> rfl

/-- If nothing is added, the configuration is read, and that is all. -/
theorem create_reads {volume : Text} {r : Except HostError UInt16}
    {exchanges : List (Exchange KernelCall.Answer)} {fs' : Files}
    (hfile : fs.Holds server.config config)
    (hadd : ∀ id ss, add server.exportRoot volume (readSections config) ≠ .added id ss)
    (hlead : (server.create volume).run.Leads exchanges (.done r))
    (hfollows : Surroundings.Follows Truthful fs exchanges fs') :
    fs' = fs ∧ exchanges.map Exchange.question = [.readFile server.config] := by
  rw [run_create] at hlead
  cases hcase : add server.exportRoot volume (readSections config) with
  | present id => exact reads_only hfile (by simp only [hcase]; rfl) hlead hfollows
  | exhausted => exact reads_only hfile (by simp only [hcase]; rfl) hlead hfollows
  | added id ss => exact (hadd id ss hcase).elim

/-- Deleting reads the file and then replaces it, if there is something to remove. -/
theorem run_delete (server : Server) (volume : Text) : (server.delete volume).run =
    .ask (.readFile server.config) fun answer =>
      match sectionsOf answer with
      | .error e => .done (.error e)
      | .ok ss =>
        match remove? (server.exportRoot.join volume) ss with
        | none => .done (.ok ())
        | some kept => (server.replace kept).run := by
  rw [delete, ExceptT.run_bind]
  refine congrArg (Dialogue.ask _) (funext fun answer => ?_)
  rw [Dialogue.bind]
  cases sectionsOf answer with
  | error e => rfl
  | ok ss =>
    simp only
    cases remove? (server.exportRoot.join volume) ss <;> rfl

/-- If there is nothing to remove, the configuration is read, and that is all. -/
theorem delete_reads {volume : Text} {r : Except HostError Unit}
    {exchanges : List (Exchange KernelCall.Answer)} {fs' : Files}
    (hfile : fs.Holds server.config config)
    (hremove : remove? (server.exportRoot.join volume) (readSections config) = none)
    (hlead : (server.delete volume).run.Leads exchanges (.done r))
    (hfollows : Surroundings.Follows Truthful fs exchanges fs') :
    fs' = fs ∧ exchanges.map Exchange.question = [.readFile server.config] := by
  rw [run_delete] at hlead
  exact reads_only hfile (by simp only [hremove]; rfl) hlead hfollows

/-- An export that is there is removed. -/
theorem delete_removes {volume : Text} {ss : List Section}
    (hfile : fs.Holds server.config config)
    (hremove : remove? (server.exportRoot.join volume) (readSections config) = some ss) :
    (server.delete volume).run.SurelyEnds Working fs (.ok ())
      (server.swapped fs (Utf8.encode (writeSections ss))) := by
  refine Always.surelyEnds (I := fun _ => True) working_answers ?_
  rw [delete, always_run_bind]
  refine (sections_working hfile).mono (fun _ _ _ _ hw => hw) (fun _ _ => trivial) ?_
  rintro _ fs' ⟨rfl, rfl⟩
  simp only [hremove]
  exact replace_working fs' ss

/-- If there is nothing to remove, nothing is written. -/
theorem delete_absent {volume : Text} (hfile : fs.Holds server.config config)
    (hremove : remove? (server.exportRoot.join volume) (readSections config) = none) :
    (server.delete volume).run.SurelyEnds Working fs (.ok ()) fs := by
  refine Always.surelyEnds (I := fun _ => True) working_answers ?_
  rw [delete, always_run_bind]
  refine (sections_working hfile).mono (fun _ _ _ _ hw => hw) (fun _ _ => trivial) ?_
  rintro _ fs' ⟨rfl, rfl⟩
  simp only [hremove]
  exact ⟨rfl, rfl⟩

end Export.Server
end ShareAgent
