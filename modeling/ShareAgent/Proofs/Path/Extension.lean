import ShareAgent.Proofs.Path.Components

/-! # Another extension

A path of a file is a directory and a file name (`components_append`).  Another extension takes the
place of the last one in the name, or is added to a name without one.  So the path stays the same
exactly if the name ends with that extension already (`withExtension_same_iff`).
-/
namespace ShareAgent.Path
open Text

variable {directory name stem extension : Text}

/-- What stands before a file name: nothing, or a directory with its slash. -/
def IsDirectory (directory : Text) : Prop := directory = [] ∨ ∃ above, directory = above ++ ['/']

/-- A file name: one piece of a path that is no dot and not two. -/
structure IsFileName (name : Text) : Prop where
  slash : '/' ∉ name
  ne_nil : name ≠ []
  ne_here : name ≠ ['.']
  ne_parent : name ≠ ['.', '.']

instance : DecidablePred IsFileName := fun name =>
  decidable_of_iff ('/' ∉ name ∧ name ≠ [] ∧ name ≠ ['.'] ∧ name ≠ ['.', '.'])
    ⟨fun ⟨h₁, h₂, h₃, h₄⟩ => ⟨h₁, h₂, h₃, h₄⟩, fun h => ⟨h.slash, h.ne_nil, h.ne_here, h.ne_parent⟩⟩

theorem IsFileName.ofPiece (h : IsFileName name) : Component.ofPiece name = some (.name name) := by
  unfold Component.ofPiece
  split
  · exact (h.ne_nil rfl).elim
  · exact (h.ne_here rfl).elim
  · exact (h.ne_parent rfl).elim
  · rfl

/-! ## A directory and a file name -/

theorem lead_append (above piece : Text) :
    lead ⟨above ++ '/' :: piece⟩ = lead ⟨above ++ ['/']⟩ := by
  cases above with
  | nil => rfl
  | cons c above =>
    by_cases hslash : c = '/'
    · subst hslash
      rfl
    by_cases hdot : c = '.'
    · subst hdot
      cases above with
      | nil => rfl
      | cons d above =>
        by_cases hd : d = '/'
        · subst hd
          rfl
        · simp [lead, hd]
    · simp [lead, hslash, hdot]

theorem lead_piece {piece : Text} (hslash : '/' ∉ piece) (hhere : piece ≠ ['.']) :
    lead ⟨piece⟩ = [] := by
  unfold lead
  dsimp only
  split
  · exact (hslash (.head _)).elim
  · exact (hhere rfl).elim
  · exact (hslash (.tail _ (.head _))).elim
  · rfl

/-- **The components of a directory come first**, whatever stands in it. -/
theorem components_append (hdirectory : IsDirectory directory) : ∃ above : List Component,
    ∀ piece, '/' ∉ piece → piece ≠ ['.'] →
      components ⟨directory ++ piece⟩ = above ++ (Component.ofPiece piece).toList := by
  have hlast : ∀ piece : Text, [piece].filterMap Component.ofPiece =
      (Component.ofPiece piece).toList := by
    intro piece
    rw [List.filterMap_cons]
    cases Component.ofPiece piece <;> rfl
  rcases hdirectory with rfl | ⟨above, rfl⟩
  · refine ⟨[], fun piece hslash hhere => ?_⟩
    rw [List.nil_append, components, parts, pieces_of_not_mem hslash, lead_piece hslash hhere,
      hlast]
  · refine ⟨lead ⟨above ++ ['/']⟩ ++ (pieces (· == '/') above).filterMap Component.ofPiece,
      fun piece hslash _ => ?_⟩
    rw [List.append_assoc, List.singleton_append, components, parts, lead_append,
      pieces_append_cons (by decide), pieces_of_not_mem hslash, List.filterMap_append, hlast,
      List.append_assoc]

theorem fileName_append (hdirectory : IsDirectory directory) (hname : IsFileName name) :
    fileName ⟨directory ++ name⟩ = some name := by
  obtain ⟨above, habove⟩ := components_append hdirectory
  rw [fileName, habove name hname.slash hname.ne_here, hname.ofPiece, Option.toList_some,
    List.getLast?_concat]

/-! ## Stem and extension -/

/-- The last extension is taken off. -/
theorem stem_append (hextension : '.' ∉ extension) (hstem : stem ≠ []) :
    Path.stem (stem ++ '.' :: extension) = stem := by
  have hreverse :
      (stem ++ '.' :: extension).reverse = extension.reverse ++ '.' :: stem.reverse := by
    simp
  have hcut : cut '.' (stem ++ '.' :: extension).reverse =
      some (extension.reverse, stem.reverse) := by
    rw [hreverse]
    exact cut_mark (by simpa using hextension) _
  rw [Path.stem, hcut]
  cases hback : stem.reverse with
  | nil => exact (hstem (List.reverse_eq_nil_iff.mp hback)).elim
  | cons c back =>
    dsimp only
    rw [← hback, List.reverse_reverse]

theorem stem_ne_nil (hname : name ≠ []) : Path.stem name ≠ [] := by
  unfold Path.stem
  split
  · exact hname
  · exact hname
  · rename_i hfront _
    intro h
    exact hfront (List.reverse_eq_nil_iff.mp h)

theorem stem_begins (name : Text) : Path.stem name <+: name := by
  unfold Path.stem
  split
  · exact List.prefix_rfl
  · exact List.prefix_rfl
  · rename_i hcut
    obtain ⟨-, hreverse⟩ := cut_eq_some_iff.mp hcut
    rw [← List.reverse_reverse name, hreverse, List.reverse_append, List.reverse_cons,
      List.append_assoc]
    exact List.prefix_append _ _

/-- A text that ends with neither a slash nor a piece that is a dot has nothing to drop. -/
theorem dropTail_append (hname : IsFileName name) :
    dropTail (directory ++ name).reverse = (directory ++ name).reverse := by
  obtain ⟨c, back, hback⟩ := List.exists_cons_of_ne_nil (mt List.reverse_eq_nil_iff.mp hname.ne_nil)
  have hslash : ∀ d ∈ c :: back, d ≠ '/' := fun d hd h =>
    hname.slash (List.mem_reverse.mp (hback ▸ h ▸ hd))
  rw [List.reverse_append, hback, List.cons_append]
  unfold dropTail
  split
  · rename_i h
    exact (hslash c (.head _) (List.cons.inj h).1).elim
  · rename_i h
    cases back with
    | nil =>
      -- The whole name would be a dot.
      refine (hname.ne_here ?_).elim
      rw [← List.reverse_reverse name, hback, (List.cons.inj h).1]
      rfl
    | cons d back =>
      have hd := (List.cons.inj (List.cons.inj h).2).1
      exact (hslash d (.tail _ (.head _)) hd).elim
  · rfl

/-- **What another extension makes of a path.** -/
theorem withExtension_append (hdirectory : IsDirectory directory) (hname : IsFileName name) :
    withExtension ⟨directory ++ name⟩ extension = ⟨directory ++
      if Path.stem name = ['.'] then ['.', '.'] else Path.stem name ++ '.' :: extension⟩ := by
  have hlength : (directory ++ name).length - name.length = directory.length := by
    rw [List.length_append, Nat.add_sub_cancel]
  rw [withExtension, fileName_append hdirectory hname]
  dsimp only
  rw [dropTail_append hname, List.reverse_reverse, hlength, List.take_left]
  by_cases hstem : Path.stem name = ['.']
  · simp [hstem]
  · simp [hstem]

/-- **The path stays the same** if its name ends with the extension already. -/
theorem withExtension_same_iff (hdirectory : IsDirectory directory) (hname : IsFileName name)
    (hslash : '/' ∉ extension) (hdot : '.' ∉ extension) (hne : extension ≠ []) :
    (withExtension ⟨directory ++ name⟩ extension).same ⟨directory ++ name⟩ ↔
      ∃ stem, stem ≠ [] ∧ stem ≠ ['.'] ∧ name = stem ++ '.' :: extension := by
  obtain ⟨above, habove⟩ := components_append hdirectory
  rw [withExtension_append hdirectory hname, same_iff, habove name hname.slash hname.ne_here,
    hname.ofPiece]
  by_cases hstem : Path.stem name = ['.']
  · rw [if_pos hstem, habove _ (by decide) (by decide)]
    refine iff_of_false (by simp [Component.ofPiece]) ?_
    rintro ⟨stem, hstem_ne, hhere, rfl⟩
    rw [stem_append hdot hstem_ne] at hstem
    exact hhere hstem
  · have hnew : IsFileName (Path.stem name ++ '.' :: extension) := by
      obtain ⟨c, rest, hrest⟩ := List.exists_cons_of_ne_nil (stem_ne_nil hname.ne_nil)
      obtain ⟨d, others, rfl⟩ := List.exists_cons_of_ne_nil hne
      refine ⟨fun hmem => ?_, by simp, by simp [hrest], fun h => ?_⟩
      · rcases List.mem_append.mp hmem with hmem | hmem
        · exact hname.slash ((stem_begins name).subset hmem)
        · exact hslash ((List.mem_cons.mp hmem).resolve_left (by decide))
      · have hlength := congrArg List.length h
        simp [hrest] at hlength
        omega
    rw [if_neg hstem, habove _ hnew.slash hnew.ne_here, hnew.ofPiece]
    constructor
    · intro h
      have hsame : Path.stem name ++ '.' :: extension = name := by simpa using h
      exact ⟨_, stem_ne_nil hname.ne_nil, hstem, hsame.symm⟩
    · rintro ⟨stem, hstem_ne, -, rfl⟩
      rw [stem_append hdot hstem_ne]

end ShareAgent.Path
