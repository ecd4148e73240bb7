import ShareAgent.Export.Process
import ShareAgent.Proofs.Dialogue.Always
import ShareAgent.Proofs.Text.Numeral
import ShareAgent.Proofs.Text.Octets

/-! # Which processes are found

The kernel cuts the name of a process after fifteen octets and shows it with a line feed.  The name
that is looked for is cut there as well, but only where a character ends; a longer name that is not
cut is not shown by any process.  What a process shows is compared without the line feeds at its
end, however many they are.  So the processes found are those that show the cut name, and line feeds
(`Procfs.exists_found`).  These are the processes with the name exactly if the cut falls between
characters and each of them shows one line feed; a name in which a character is cut is never found
(`processes_exact`).
-/
namespace ShareAgent.Export
open Dialogue

variable {name shown t : Text} {limit n : Nat}

/-! ## The name that is looked for -/

theorem length_encode_cons (c : Char) (t : Text) :
    (Utf8.encode (c :: t)).length = c.utf8Size + (Utf8.encode t).length := by
  rw [Utf8.encode_cons, List.length_append, Utf8.length_encodeChar]

theorem encode_eq_nil_iff : Utf8.encode t = [] ↔ t = [] := by
  constructor
  · intro h
    cases t with
    | nil => rfl
    | cons c t =>
      have hlength := congrArg List.length h
      rw [length_encode_cons, List.length_nil] at hlength
      exact absurd hlength (Nat.ne_of_gt (Nat.add_pos_left c.utf8Size_pos _))
  · rintro rfl
    rfl

theorem firstOctets_zero (t : Text) : firstOctets 0 t = some [] := by
  cases t <;> rfl

/-- **The first octets are those of the first characters**, if any of these have so many. -/
theorem firstOctets_eq_some_iff {front : Text} : firstOctets limit t = some front ↔
    front <+: t ∧ (Utf8.encode front).length = limit := by
  induction t generalizing limit front with
  | nil =>
    rw [List.prefix_nil]
    cases limit with
    | zero =>
      rw [firstOctets_zero, Option.some_inj, List.length_eq_zero_iff, encode_eq_nil_iff, and_self]
      exact eq_comm
    | succ limit =>
      refine iff_of_false (Option.some_ne_none front).symm ?_
      rintro ⟨rfl, h⟩
      cases h
  | cons c t ih =>
    cases limit with
    | zero =>
      rw [firstOctets_zero, Option.some_inj, List.length_eq_zero_iff, encode_eq_nil_iff]
      constructor
      · rintro rfl
        exact ⟨List.nil_prefix, rfl⟩
      · exact fun h => h.2.symm
    | succ limit =>
      rw [firstOctets]
      split
      · rename_i hfits
        rw [Option.map_eq_some_iff]
        constructor
        · rintro ⟨others, hothers, rfl⟩
          obtain ⟨hbegins, hlength⟩ := ih.mp hothers
          refine ⟨List.cons_prefix_cons.mpr ⟨rfl, hbegins⟩, ?_⟩
          rw [length_encode_cons]
          omega
        · rintro ⟨hbegins, hlength⟩
          cases front with
          | nil => cases hlength
          | cons d others =>
            obtain ⟨rfl, hothers⟩ := List.cons_prefix_cons.mp hbegins
            rw [length_encode_cons] at hlength
            exact ⟨others, ih.mpr ⟨hothers, by omega⟩, rfl⟩
      · refine iff_of_false (Option.some_ne_none front).symm ?_
        rintro ⟨hbegins, hlength⟩
        cases front with
        | nil => cases hlength
        | cons d others =>
          obtain ⟨rfl, -⟩ := List.cons_prefix_cons.mp hbegins
          rw [length_encode_cons] at hlength
          omega
      · exact Nat.succ_ne_zero limit

/-- The octets that the kernel shows of a process with this name. -/
def shownOctets (name : Text) : Bytes := (Utf8.encode name).take nameLimit ++ [0x0A]

/-- The name is cut where a character ends, or not at all. -/
def CutsWhole (name : Text) : Prop :=
  ∃ front, front <+: name ∧ Utf8.encode front = (Utf8.encode name).take nameLimit

theorem encode_begins {front : Text} (h : front <+: t) : Utf8.encode front <+: Utf8.encode t := by
  obtain ⟨back, rfl⟩ := h
  rw [Utf8.encode_append]
  exact List.prefix_append _ _

/-- **A name that is cut between characters** is looked for as it is shown. -/
theorem encode_shownName (h : CutsWhole name) :
    Utf8.encode (shownName name) = (Utf8.encode name).take nameLimit := by
  unfold shownName
  cases hfirst : firstOctets nameLimit name with
  | some front =>
    obtain ⟨hbegins, hlength⟩ := firstOctets_eq_some_iff.mp hfirst
    rw [Option.getD_some, ← hlength]
    exact List.prefix_iff_eq_take.mp (encode_begins hbegins)
  | none =>
    rw [Option.getD_none]
    refine (List.take_of_length_le (Nat.le_of_not_lt fun hlong => ?_)).symm
    -- Of a longer name the first octets would have been found.
    obtain ⟨front, hbegins, hfront⟩ := h
    have hlength : (Utf8.encode front).length = nameLimit := by
      rw [hfront, List.length_take]
      omega
    rw [firstOctets_eq_some_iff.mpr ⟨hbegins, hlength⟩] at hfirst
    cases hfirst

/-- **Any other name is looked for as a whole**, and it is longer than what is shown of it. -/
theorem shownName_of_not_cutsWhole (h : ¬ CutsWhole name) :
    shownName name = name ∧ nameLimit < (Utf8.encode name).length := by
  constructor
  · unfold shownName
    cases hfirst : firstOctets nameLimit name with
    | none => rfl
    | some front =>
      obtain ⟨hbegins, hlength⟩ := firstOctets_eq_some_iff.mp hfirst
      refine (h ⟨front, hbegins, ?_⟩).elim
      rw [← hlength]
      exact List.prefix_iff_eq_take.mp (encode_begins hbegins)
  · refine Nat.lt_of_not_le fun hshort => h ⟨name, List.prefix_rfl, ?_⟩
    exact (List.take_of_length_le hshort).symm

theorem shownName_begins (name : Text) : shownName name <+: name := by
  unfold shownName
  cases hfirst : firstOctets nameLimit name with
  | none => exact List.prefix_rfl
  | some front => exact (firstOctets_eq_some_iff.mp hfirst).1

/-! ## What a process shows -/

/-- A text that does not end with a line feed, and line feeds. -/
theorem dropLineFeeds_eq_iff (hshown : '\n' ∉ shown) :
    dropLineFeeds t = shown ↔ ∃ n, t = shown ++ List.replicate n '\n' := by
  have hdrop : ∀ s : Text, '\n' ∉ s → s.dropWhile (· == '\n') = s := by
    intro s hs
    cases s with
    | nil => rfl
    | cons c s =>
      refine List.dropWhile_cons_of_neg fun hc => hs ?_
      rw [← beq_iff_eq.mp hc]
      exact .head _
  constructor
  · rintro rfl
    refine ⟨(t.reverse.takeWhile (· == '\n')).length, ?_⟩
    have hfeeds : t.reverse.takeWhile (· == '\n') =
        List.replicate (t.reverse.takeWhile (· == '\n')).length '\n' :=
      List.eq_replicate_of_mem fun c hc =>
        beq_iff_eq.mp (List.all_eq_true.mp List.all_takeWhile c hc)
    rw [← List.reverse_replicate, ← hfeeds, dropLineFeeds, ← List.reverse_append,
      List.takeWhile_append_dropWhile, List.reverse_reverse]
  · rintro ⟨n, rfl⟩
    rw [dropLineFeeds, List.reverse_append, List.reverse_replicate]
    induction n with
    | zero =>
      rw [List.replicate_zero, List.nil_append, hdrop _ (by simpa using hshown),
        List.reverse_reverse]
    | succ n ih => rw [List.replicate_succ, List.cons_append, List.dropWhile_cons_of_pos rfl, ih]

theorem encode_feeds (n : Nat) :
    Utf8.encode (List.replicate n '\n') = List.replicate n 0x0A := by
  induction n with
  | zero => rfl
  | succ n ih =>
    rw [List.replicate_succ, Utf8.encode_cons, ih, List.replicate_succ]
    rfl

/-- The octets that are taken for this name: it and line feeds. -/
def TakenFor (shown : Text) (octets : Bytes) : Prop :=
  ∃ n, octets = Utf8.encode shown ++ List.replicate n 0x0A

theorem takenFor_iff (hshown : '\n' ∉ shown) {octets : Bytes} :
    TakenFor shown octets ↔
      ∃ comm, Mount.asText octets = .ok comm ∧ dropLineFeeds comm = shown := by
  constructor
  · rintro ⟨n, rfl⟩
    refine ⟨shown ++ List.replicate n '\n', ?_, (dropLineFeeds_eq_iff hshown).mpr ⟨n, rfl⟩⟩
    rw [← encode_feeds, ← Utf8.encode_append, Mount.asText, Utf8.decode?_encode]
  · rintro ⟨comm, hcomm, hdrop⟩
    obtain ⟨n, rfl⟩ := (dropLineFeeds_eq_iff hshown).mp hdrop
    refine ⟨n, ?_⟩
    unfold Mount.asText at hcomm
    split at hcomm
    · rename_i hdecode
      rw [Except.ok.inj hcomm] at hdecode
      rw [Utf8.encode_of_decode? hdecode, Utf8.encode_append, encode_feeds]
    · cases hcomm

/-! ## Processes -/

/-- A search lists the directory, then looks at its entries. -/
theorem run_processes (root : Path) (name : Text) : (processes root name).run =
    .ask (.listDirectory root) fun
      | .error e => .done (.error (.system e))
      | .ok entries => (named root (shownName name) entries).bind fun found =>
          .done (.ok found.mergeSort) := by
  rw [processes, ExceptT.run_bind]
  refine congrArg (Dialogue.ask _) (funext fun answer => ?_)
  cases answer with
  | error e => rfl
  | ok entries =>
    show (ExceptT.run (ExceptT.lift _ >>= _)) = _
    rw [ExceptT.run_bind, ExceptT.run_lift]
    exact Dialogue.bind_assoc _ _ _

/-- **A directory of processes.**  Its entries are the numbers of processes and names that are no
integers; the files of a process can be read unless it has ended. -/
structure Procfs where
  root : Path
  entries : List Text
  read : Path → Except SystemError Bytes
  nodup : entries.Nodup
  shaped : ∀ entry ∈ entries, (∃ pid, 0 < pid ∧ pid ≤ 2147483647 ∧ entry = Text.ofNat pid) ∨
    ¬ Numeral.IsInteger entry

namespace Procfs

/-- The file that shows the name of a process. -/
def comm (p : Procfs) (entry : Text) : Except SystemError Bytes :=
  p.read ((p.root.join entry).join "comm")

/-- The process is there, and this is what it shows. -/
def Shows (p : Procfs) (process : Int) (octets : Bytes) : Prop :=
  ∃ pid : Nat, process = pid ∧ Text.ofNat pid ∈ p.entries ∧ p.comm (Text.ofNat pid) = .ok octets

/-- What is told of this directory.  All other calls may be answered in any way. -/
def Tells (p : Procfs) : (call : KernelCall) → call.Answer → Prop
  | .listDirectory path, answer => path = p.root → answer = .ok p.entries
  | .readFile path, answer => answer = p.read path
  | _, _ => True

/-- Surroundings that tell this. -/
def Answers (p : Procfs) : Surroundings KernelCall.Answer Unit :=
  fun call _ answer _ => p.Tells call answer

/-- The process of an entry, if it is taken for this name. -/
def process? (p : Procfs) (shown entry : Text) : Option Int :=
  match Numeral.readInt 32 entry with
  | .error _ => none
  | .ok process =>
    match (p.comm entry).bind Mount.asText with
    | .ok comm => if dropLineFeeds comm = shown then some process else none
    | .error _ => none

variable {p : Procfs} {process : Int}

/-- A process shows one thing. -/
theorem Shows.unique {octets octets' : Bytes} (h : p.Shows process octets)
    (h' : p.Shows process octets') : octets = octets' := by
  obtain ⟨pid, rfl, -, hcomm⟩ := h
  obtain ⟨pid', hpid, -, hcomm'⟩ := h'
  rw [← Int.ofNat_inj.mp hpid, hcomm] at hcomm'
  exact Except.ok.inj hcomm'

theorem exists_answer (p : Procfs) (call : KernelCall) (u : Unit) :
    ∃ answer u', p.Answers call u answer u' := by
  cases call with
  | listDirectory => exact ⟨.ok p.entries, (), fun _ => rfl⟩
  | readFile path => exact ⟨p.read path, (), rfl⟩
  | fileStatus => exact ⟨.error .notFound, (), trivial⟩
  | _ => exact ⟨default, (), trivial⟩

/-- One entry after the other is looked at. -/
theorem named_always (p : Procfs) (shown : Text) (entries : List Text) :
    (named p.root shown entries).Always p.Answers (fun _ => True)
      (fun found _ => found = entries.filterMap (p.process? shown)) () := by
  induction entries with
  | nil => exact rfl
  | cons entry rest ih =>
    rw [named, List.filterMap_cons, process?]
    cases Numeral.readInt 32 entry with
    | error e => exact ih
    | ok process =>
      intro answer u hread
      obtain rfl : answer = p.comm entry := hread
      refine ⟨trivial, always_bind.mpr (ih.imp fun others u' hothers => ?_)⟩
      subst hothers
      dsimp only
      cases (p.comm entry).bind Mount.asText with
      | error e => exact rfl
      | ok comm =>
        by_cases hcomm : dropLineFeeds comm = shown
        · simp only [if_pos hcomm]
          exact rfl
        · simp only [if_neg hcomm]
          exact rfl

/-- **The entries that are read as numbers** are those of the processes. -/
theorem readInt_entry {entry : Text} (hentry : entry ∈ p.entries) :
    Numeral.readInt 32 entry = .ok process ↔
      ∃ pid : Nat, process = pid ∧ entry = Text.ofNat pid := by
  rcases p.shaped entry hentry with ⟨pid, -, hpid, rfl⟩ | hinteger
  · have hfits : pid < 1 <<< (32 - 1) := Nat.lt_of_le_of_lt hpid (by decide)
    rw [Numeral.readInt_ofNat hfits]
    constructor
    · intro h
      exact ⟨pid, (Except.ok.inj h).symm, rfl⟩
    · rintro ⟨pid', rfl, hnumeral⟩
      rw [Numeral.ofNat_injective hnumeral]
  · refine iff_of_false (fun h => hinteger (Numeral.isInteger_of_readInt h)) ?_
    rintro ⟨pid, -, rfl⟩
    exact hinteger (Numeral.isInteger_ofNat pid)

theorem process?_eq_some_iff {entry : Text} (hshown : '\n' ∉ shown) :
    p.process? shown entry = some process ↔ Numeral.readInt 32 entry = .ok process ∧
      ∃ octets, p.comm entry = .ok octets ∧ TakenFor shown octets := by
  rw [process?]
  cases Numeral.readInt 32 entry with
  | error e => simp
  | ok found =>
    cases p.comm entry with
    | error e => simp [Except.bind]
    | ok octets =>
      have htaken : TakenFor shown octets ↔ _ := takenFor_iff hshown
      simp only [Except.bind, Except.ok.injEq, exists_eq_left', htaken]
      cases Mount.asText octets with
      | error e => simp
      | ok comm => by_cases hcomm : dropLineFeeds comm = shown <;> simp [hcomm]

theorem mem_process? (hshown : '\n' ∉ shown) : process ∈ p.entries.filterMap (p.process? shown) ↔
    ∃ octets, p.Shows process octets ∧ TakenFor shown octets := by
  rw [List.mem_filterMap]
  constructor
  · rintro ⟨entry, hentry, hprocess⟩
    obtain ⟨hread, octets, hcomm, htaken⟩ := (process?_eq_some_iff hshown).mp hprocess
    obtain ⟨pid, rfl, rfl⟩ := (readInt_entry hentry).mp hread
    exact ⟨octets, ⟨pid, rfl, hentry, hcomm⟩, htaken⟩
  · rintro ⟨octets, ⟨pid, rfl, hentry, hcomm⟩, htaken⟩
    have hread := (readInt_entry hentry).mpr ⟨pid, rfl, rfl⟩
    exact ⟨_, hentry, (process?_eq_some_iff hshown).mpr ⟨hread, octets, hcomm, htaken⟩⟩

theorem nodup_process? (hshown : '\n' ∉ shown) :
    (p.entries.filterMap (p.process? shown)).Nodup := by
  unfold List.Nodup
  rw [List.pairwise_filterMap]
  refine p.nodup.imp_of_mem ?_
  intro entry entry' hentry hentry' hne process hprocess process' hprocess' heq
  subst heq
  obtain ⟨hread, -⟩ := (process?_eq_some_iff hshown).mp hprocess
  obtain ⟨hread', -⟩ := (process?_eq_some_iff hshown).mp hprocess'
  obtain ⟨pid, rfl, rfl⟩ := (readInt_entry hentry).mp hread
  obtain ⟨pid', hpid, rfl⟩ := (readInt_entry hentry').mp hread'
  rw [Int.ofNat_inj.mp hpid] at hne
  exact hne rfl

/-- **The numbers in order**, each once. -/
theorem pairwise_mergeSort {found : List Int} (hfound : found.Nodup) :
    found.mergeSort.Pairwise (· < ·) := by
  have hsorted : found.mergeSort.Pairwise fun a b => decide (a ≤ b) = true := by
    refine List.pairwise_mergeSort ?_ ?_ found
    · intro a b c hab hbc
      exact decide_eq_true (Int.le_trans (of_decide_eq_true hab) (of_decide_eq_true hbc))
    · intro a b
      rw [← Bool.decide_or]
      exact decide_eq_true (Int.le_total a b)
  have hnodup : found.mergeSort.Nodup := (List.mergeSort_perm found _).nodup_iff.mpr hfound
  have hlt : ∀ a b : Int, decide (a ≤ b) = true → a ≠ b → a < b := fun a b hle hne =>
    Int.lt_iff_le_and_ne.mpr ⟨of_decide_eq_true hle, hne⟩
  exact hsorted.imp₂ hlt hnodup

/-- The processes that are taken for the name are found, and the search ends. -/
theorem processes_surely (p : Procfs) (name : Text) :
    (processes p.root name).run.SurelyEnds p.Answers ()
      (.ok (p.entries.filterMap (p.process? (shownName name))).mergeSort) () := by
  refine Always.surelyEnds (I := fun _ => True) p.exists_answer ?_
  rw [run_processes]
  intro answer u hlisting
  obtain rfl : answer = .ok p.entries := hlisting rfl
  refine ⟨trivial, always_bind.mpr ((p.named_always _ _).imp fun found u' hfound => ?_)⟩
  rw [hfound]
  exact ⟨rfl, rfl⟩

/-- **A search finds**, in order and each once, the processes that show the name and line feeds. -/
theorem exists_found (p : Procfs) (hname : '\n' ∉ name) : ∃ found,
    (processes p.root name).run.SurelyEnds p.Answers () (.ok found) () ∧
    found.Pairwise (· < ·) ∧ ∀ process, process ∈ found ↔
      ∃ n, p.Shows process (Utf8.encode (shownName name) ++ List.replicate n 0x0A) := by
  have hshown : '\n' ∉ shownName name := fun h => hname ((shownName_begins name).subset h)
  refine ⟨_, p.processes_surely name, pairwise_mergeSort (nodup_process? hshown), ?_⟩
  intro process
  rw [List.mem_mergeSort, mem_process? hshown]
  constructor
  · rintro ⟨_, hshows, n, rfl⟩
    exact ⟨n, hshows⟩
  · rintro ⟨n, hshows⟩
    exact ⟨_, hshows, n, rfl⟩

end Procfs

/-- What is taken for a name that is cut between characters, if one line feed follows it, is what is
shown of it. -/
theorem shownOctets_eq (h : CutsWhole name) :
    shownOctets name = Utf8.encode (shownName name) ++ List.replicate 1 0x0A := by
  rw [encode_shownName h]
  rfl

/-- What is shown of any other name is not the name with line feeds. -/
theorem shownOctets_ne (hname : '\n' ∉ name) (h : ¬ CutsWhole name) (n : Nat) :
    shownOctets name ≠ Utf8.encode name ++ List.replicate n 0x0A := by
  obtain ⟨-, hlong⟩ := shownName_of_not_cutsWhole h
  intro hn
  rw [shownOctets] at hn
  have hlength := congrArg List.length hn
  rw [List.length_append, List.length_append, List.length_take, List.length_replicate,
    List.length_singleton] at hlength
  -- The whole name is too long for more than its last octet to be the line feed.
  obtain rfl : n = 0 := by omega
  rw [List.replicate_zero, List.append_nil] at hn
  apply hname
  rw [← Utf8.feed_mem_encode, ← hn]
  exact List.mem_append_right _ (.head _)

/-- **Which processes are found.**  A search ends and finds, in order and each once, the processes
that show the name that is looked for, and any line feeds.  If the name is cut between characters,
these are the ones that show it as the kernel does exactly if each of them shows one line feed.  If
a character is cut, the right processes are found only if there are none, and none shows the whole
name. -/
theorem processes_exact (p : Procfs) (hname : '\n' ∉ name) : ∃ found,
    (processes p.root name).run.SurelyEnds p.Answers () (.ok found) () ∧
    found.Pairwise (· < ·) ∧
    (∀ process, process ∈ found ↔
      ∃ n, p.Shows process (Utf8.encode (shownName name) ++ List.replicate n 0x0A)) ∧
    (CutsWhole name →
      ((∀ process, process ∈ found ↔ p.Shows process (shownOctets name)) ↔
        ∀ process n, p.Shows process (Utf8.encode (shownName name) ++ List.replicate n 0x0A) →
          n = 1)) ∧
    (¬ CutsWhole name →
      ((∀ process, process ∈ found ↔ p.Shows process (shownOctets name)) ↔
        ∀ process, ¬ p.Shows process (shownOctets name) ∧
          ∀ n, ¬ p.Shows process (Utf8.encode name ++ List.replicate n 0x0A))) := by
  obtain ⟨found, hends, hsorted, hfound⟩ := p.exists_found hname
  refine ⟨found, hends, hsorted, hfound, fun hwhole => ?_, fun hcut => ?_⟩
  · simp only [hfound, shownOctets_eq hwhole]
    constructor
    · intro hexact process n hshows
      have heq := hshows.unique ((hexact process).mp ⟨n, hshows⟩)
      exact List.length_replicate.symm.trans (congrArg List.length (List.append_cancel_left heq))
    · intro hone process
      constructor
      · rintro ⟨n, hshows⟩
        rwa [hone process n hshows] at hshows
      · exact fun hshows => ⟨1, hshows⟩
  · have hnot : ∀ process n, p.Shows process (shownOctets name) →
        ¬ p.Shows process (Utf8.encode name ++ List.replicate n 0x0A) :=
      fun process n hshows hshows' =>
        shownOctets_ne hname hcut n (hshows.unique hshows')
    rw [(shownName_of_not_cutsWhole hcut).1] at hfound
    simp only [hfound]
    constructor
    · intro hexact process
      constructor
      · intro hshows
        obtain ⟨n, hshows'⟩ := (hexact process).mpr hshows
        exact hnot process n hshows hshows'
      · intro n hshows
        exact hnot process n ((hexact process).mp ⟨n, hshows⟩) hshows
    · intro hnone process
      refine iff_of_false ?_ (hnone process).1
      rintro ⟨n, hshows⟩
      exact (hnone process).2 n hshows

/-- A directory with one process, which shows these octets. -/
def oneProcess (octets : Bytes) : Procfs where
  root := "/proc"
  entries := ["42"]
  read path := if path = "/proc/42/comm" then .ok octets else .error .notFound
  nodup := by decide
  shaped := List.forall_mem_singleton.mpr (.inl ⟨42, by decide, by decide, rfl⟩)

theorem oneProcess_shows (octets : Bytes) : (oneProcess octets).Shows 42 octets :=
  ⟨42, rfl, .head _, rfl⟩

theorem eq_of_oneProcess_shows {octets octets' : Bytes} {process : Int}
    (h : (oneProcess octets).Shows process octets') : octets' = octets := by
  obtain ⟨pid, -, hentry, hcomm⟩ := h
  rw [List.mem_singleton.mp hentry] at hcomm
  exact (Except.ok.inj hcomm).symm

/-- A server that is running is found, and nothing else is. -/
theorem server_found : ∃ found,
    (processes "/proc" "ganesha.nfsd").run.SurelyEnds
      (oneProcess (shownOctets "ganesha.nfsd")).Answers () (.ok found) () ∧
    found.Pairwise (· < ·) ∧ 42 ∈ found ∧ ∀ process, process ∈ found ↔
      (oneProcess (shownOctets "ganesha.nfsd")).Shows process (shownOctets "ganesha.nfsd") := by
  have hwhole : CutsWhole "ganesha.nfsd" := ⟨"ganesha.nfsd", List.prefix_rfl, by decide⟩
  obtain ⟨found, hends, hsorted, -, hexact, -⟩ := processes_exact
    (oneProcess (shownOctets "ganesha.nfsd")) (show '\n' ∉ Text.ofString "ganesha.nfsd" by decide)
  have hshows := oneProcess_shows (shownOctets "ganesha.nfsd")
  have hmem := (hexact hwhole).mpr fun process n hn => by
    have heq := eq_of_oneProcess_shows hn
    rw [shownOctets_eq hwhole] at heq
    exact List.length_replicate.symm.trans (congrArg List.length (List.append_cancel_left heq))
  exact ⟨found, hends, hsorted, (hmem 42).mpr hshows, hmem⟩

/-- A name of more than fifteen octets, of which the fifteenth is in a character. -/
def longName : Text := "ggggggggggggggéx"

/-- **A process with such a name is not found.** -/
theorem longName_not_found :
    '\n' ∉ longName ∧ (oneProcess (shownOctets longName)).Shows 42 (shownOctets longName) ∧
    (processes "/proc" longName).run.SurelyEnds
      (oneProcess (shownOctets longName)).Answers () (.ok []) () := by
  have hfound : ((oneProcess (shownOctets longName)).entries.filterMap
      ((oneProcess (shownOctets longName)).process? (shownName longName))) = [] := by
    decide
  have hends := (oneProcess (shownOctets longName)).processes_surely longName
  rw [hfound, List.mergeSort_nil] at hends
  exact ⟨by decide, oneProcess_shows _, hends⟩

end ShareAgent.Export
