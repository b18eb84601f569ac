import RiscvSim.Lib.Except

/-!
# Writing recorded values back

A journal is a list of entries, each of which covers some locations of a state.
Replaying it runs one write for each entry.  When every write settles the
locations its entry covers and leaves the others alone, the replay settles
every location that some entry covers (`settled_of_foldlM`); the order of the
entries and whether they overlap do not matter.
-/

namespace RiscvSim

namespace Lib

variable {σ ε γ ι : Type}

/-- `write` settles the locations its entry covers, in the sense of `Settled`,
and unsettles none. -/
def Settles (write : σ → γ → Except ε σ) (covers : γ → ι → Prop) (Settled : σ → ι → Prop)
    (entry : γ) : Prop :=
  ∀ s s', write s entry = .ok s' → ∀ i, covers entry i ∨ Settled s i → Settled s' i

/-- **Replaying a journal** from a state with an invariant of the writes settles
every location it covers. -/
theorem settled_of_foldlM_of_invariant {write : σ → γ → Except ε σ} (Inv : σ → Prop)
    (covers : γ → ι → Prop) (Settled : σ → ι → Prop) {entries : List γ} {s s' : σ}
    (hwrite : ∀ entry ∈ entries, ∀ s s', Inv s → write s entry = .ok s' →
      Inv s' ∧ ∀ i, covers entry i ∨ Settled s i → Settled s' i)
    (hs : Inv s) (h : entries.foldlM write s = .ok s') (i : ι)
    (hi : (∃ entry ∈ entries, covers entry i) ∨ Settled s i) : Settled s' i := by
  induction entries generalizing s with
  | nil =>
    cases h
    rcases hi with ⟨_, hmem, _⟩ | hs
    · cases hmem
    · exact hs
  | cons entry entries ih =>
    rw [List.foldlM_cons, bind_eq_ok] at h
    obtain ⟨s₁, h1, h2⟩ := h
    obtain ⟨hs₁, hstep⟩ := hwrite entry List.mem_cons_self s s₁ hs h1
    refine ih (fun e he => hwrite e (List.mem_cons_of_mem entry he)) hs₁ h2 ?_
    rcases hi with ⟨e, he, hc⟩ | hs
    · rcases List.mem_cons.mp he with rfl | he
      · exact .inr (hstep i (.inl hc))
      · exact .inl ⟨e, he, hc⟩
    · exact .inr (hstep i (.inr hs))

/-- Replaying a journal whose writes settle their locations in every state. -/
theorem settled_of_foldlM {write : σ → γ → Except ε σ} (covers : γ → ι → Prop)
    (Settled : σ → ι → Prop) {entries : List γ} {s s' : σ}
    (hwrite : ∀ entry ∈ entries, Settles write covers Settled entry)
    (h : entries.foldlM write s = .ok s') (i : ι)
    (hi : (∃ entry ∈ entries, covers entry i) ∨ Settled s i) : Settled s' i :=
  settled_of_foldlM_of_invariant (fun _ => True) covers Settled
    (fun entry he s s' _ hs => ⟨trivial, hwrite entry he s s' hs⟩) trivial h i hi

/-- A replay succeeds when an invariant of the writes makes every one of them succeed. -/
theorem foldlM_succeeds {write : σ → γ → Except ε σ} (Inv : σ → Prop) {entries : List γ} {s : σ}
    (hwrite : ∀ entry ∈ entries, ∀ s, Inv s → ∃ s', write s entry = .ok s' ∧ Inv s')
    (h : Inv s) : ∃ s', entries.foldlM write s = .ok s' ∧ Inv s' := by
  induction entries generalizing s with
  | nil => exact ⟨s, rfl, h⟩
  | cons entry entries ih =>
    obtain ⟨s₁, h1, hinv⟩ := hwrite entry List.mem_cons_self s h
    obtain ⟨s', h2, hinv'⟩ := ih (fun e he => hwrite e (List.mem_cons_of_mem entry he)) hinv
    refine ⟨s', ?_, hinv'⟩
    rw [List.foldlM_cons, h1, ok_bind]
    exact h2

end Lib

end RiscvSim
