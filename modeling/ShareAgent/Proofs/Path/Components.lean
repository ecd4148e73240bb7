import ShareAgent.Path
import ShareAgent.Proofs.Text.Pieces

/-! # What the components of a path keep

Paths are the same when their components are, so the spelling of a path is not kept: slashes may be
repeated and single dots left out.  Every other sign is kept in its place (`filter_components`), so
same paths have the same signs (`filter_eq_of_same`).  In particular nothing else can be taken off
the ends of a path without making it another one (`eq_of_same_middle`).
-/
namespace ShareAgent.Path
open Text

variable {a b c : Path}

theorem same_iff : a.same b ↔ a.components = b.components := beq_iff_eq

theorem same_self (a : Path) : a.same a := same_iff.mpr rfl

theorem same_symm (h : a.same b) : b.same a := same_iff.mpr (same_iff.mp h).symm

theorem same_trans (h : a.same b) (h' : b.same c) : a.same c :=
  same_iff.mpr ((same_iff.mp h).trans (same_iff.mp h'))

/-- A sign that every spelling of a path has. -/
def isSign (c : Char) : Bool := c != '/' && c != '.'

theorem filter_lead (p : Path) : (p.lead.flatMap Component.text).filter isSign = [] := by
  rw [lead]
  split <;> rfl

theorem filter_ofPiece (piece : Text) :
    ((Component.ofPiece piece).toList.flatMap Component.text).filter isSign =
      piece.filter isSign := by
  unfold Component.ofPiece
  split
  · rfl
  · rfl
  · rfl
  · rw [Option.toList_some, List.flatMap_singleton]
    rfl

theorem filter_parts (pieces : List Text) :
    ((pieces.filterMap Component.ofPiece).flatMap Component.text).filter isSign =
      pieces.flatten.filter isSign := by
  induction pieces with
  | nil => rfl
  | cons piece rest ih =>
    have hfirst : (piece :: rest).filterMap Component.ofPiece =
        (Component.ofPiece piece).toList ++ rest.filterMap Component.ofPiece := by
      rw [List.filterMap_cons]
      cases Component.ofPiece piece <;> rfl
    rw [hfirst, List.flatMap_append, List.filter_append, filter_ofPiece, ih, List.flatten_cons,
      List.filter_append]

/-- **The components keep every sign of a path but slashes and dots.** -/
theorem filter_components (p : Path) :
    (p.components.flatMap Component.text).filter isSign = p.text.filter isSign := by
  have hslash : (fun c => isSign c && !(c == '/')) = isSign := by
    funext c
    by_cases hc : c = '/' <;> simp [isSign, hc]
  rw [components, List.flatMap_append, List.filter_append, filter_lead, List.nil_append,
    filter_parts, parts, flatten_pieces, List.filter_filter, hslash]

theorem filter_eq_of_same (h : a.same b) : a.text.filter isSign = b.text.filter isSign := by
  rw [← filter_components, same_iff.mp h, filter_components]

theorem mem_of_same {c : Char} (h : a.same b) (hc : isSign c) (hmem : c ∈ a.text) :
    c ∈ b.text := by
  have hfilter : c ∈ a.text.filter isSign := List.mem_filter.mpr ⟨hmem, hc⟩
  rw [filter_eq_of_same h] at hfilter
  exact (List.mem_filter.mp hfilter).1

/-- Signs at the ends of a path belong to it. -/
theorem eq_of_same_middle {front middle back : Text} (hfront : ∀ c ∈ front, isSign c)
    (hback : ∀ c ∈ back, isSign c) (h : same ⟨middle⟩ ⟨front ++ middle ++ back⟩) :
    front = [] ∧ back = [] := by
  have hsigns := congrArg List.length (filter_eq_of_same h)
  simp only [List.filter_append, List.filter_eq_self.mpr hfront, List.filter_eq_self.mpr hback,
    List.length_append] at hsigns
  constructor <;> apply List.eq_nil_of_length_eq_zero <;> omega

end ShareAgent.Path
