import ShareAgent.Proofs.Share.Life
import ShareAgent.Proofs.Share.Operation

/-! # Nothing is exported that is not mounted

On a truthful host the volume is covered after every single step in the life of an agent, if it was
covered at the beginning: whatever fails, and wherever an agent is interrupted and replaced.  The
remembered state has no part in this.  The order of the steps alone keeps the volume covered, so the
lemma on one operation (`covered_of_leads`) carries over to lives of any length.

What an agent remembers is true of such a host as well (`Life.trueOf`), for a fresh agent claims
nothing.
-/
namespace ShareAgent.Share

variable {s : Share} {state state' : ShareState} {episodes : List Episode} {h h' : Standing}

/-- Part of an operation keeps the volume covered. -/
theorem covered_of_leads {op : Operation} {exchanges : List HostExchange}
    {left : OnHost (Except ShareError Unit × ShareState)}
    (hlead : (s.perform op state).Leads exchanges left)
    (hhost : s.Truthful.Follows h exchanges h') (hc : h.Covered) : h'.Covered :=
  (perform_always op state).holds id hlead hhost hc

/-- A whole life keeps the volume covered. -/
theorem Life.covered (hlife : s.Life state episodes state')
    (hhost : s.Truthful.Follows h (transcript episodes) h') (hc : h.Covered) : h'.Covered := by
  induction hlife generalizing h with
  | ended state =>
    rw [transcript_nil, Surroundings.follows_nil] at hhost
    exact hhost ▸ hc
  | performed hlead _ ih | interrupted hlead _ ih =>
    obtain ⟨middle, hfirst, hrest⟩ := s.Truthful.follows_append.mp hhost
    exact ih hrest (covered_of_leads hlead hfirst hc)
  | replaced _ ih => exact ih hhost hc

/-- A fresh agent claims nothing. -/
theorem initial_ne_exported (v : Volume) : ShareState.initial v ≠ .exported := by
  cases hv : v.isBound <;> simp [ShareState.initial, hv]

/-- What is remembered at the end of a life is true, if that at its beginning was. -/
theorem Life.trueOf (hlife : s.Life state episodes state')
    (hhost : s.Truthful.Follows h (transcript episodes) h') (ht : state.TrueOf h) :
    state'.TrueOf h' := by
  have hfresh (h : Standing) : (ShareState.initial s.volume).TrueOf h :=
    fun hexp => (initial_ne_exported _ hexp).elim
  induction hlife generalizing h with
  | ended state =>
    rw [transcript_nil, Surroundings.follows_nil] at hhost
    exact hhost ▸ ht
  | performed hlead _ ih =>
    obtain ⟨middle, hfirst, hrest⟩ := s.Truthful.follows_append.mp hhost
    exact ih hrest ((perform_always _ _).ends hlead hfirst ht)
  | interrupted _ _ ih =>
    obtain ⟨middle, _, hrest⟩ := s.Truthful.follows_append.mp hhost
    exact ih hrest (hfresh middle)
  | replaced _ ih => exact ih hhost (hfresh h)

/-- **What is exported is mounted, after every single step.**  `first` is what was asked of the host
up to some moment in the life of an agent and of those that took its place. -/
theorem mounted_of_exported_throughout (hlife : s.Life state episodes state')
    {first : List HostExchange} (hfirst : first <+: transcript episodes)
    (hhost : s.Truthful.Follows h first h') (hstart : h.configured ∨ h.live → h.mounted) :
    h'.configured ∨ h'.live → h'.mounted := by
  obtain ⟨episodes', last, hpart, rfl⟩ := hlife.of_prefix hfirst
  exact hpart.covered hhost hstart

/-- In the life with troubles the server still serves the export that is configured no longer. -/
theorem mounted_of_exported_in_trouble :
    sample.Truthful.Follows .full ((transcript troubled).take 2) ⟨true, false, true⟩ ∧
      Standing.Covered ⟨true, false, true⟩ := by
  have hhost : sample.Truthful.Follows .full ((transcript troubled).take 2)
      ⟨true, false, true⟩ := by
    simp [troubled, Episode.exchanges, Standing.full]
  exact ⟨hhost, mounted_of_exported_throughout troubled_life (List.take_prefix 2 _) hhost
    (fun _ => rfl)⟩

end ShareAgent.Share
