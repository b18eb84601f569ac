import RiscvSim.Lib.Except

/-!
# Runs of a deterministic machine

A machine is a step function that may fail, and a flag that tells when its run
loop stops.  `runUntil` is that loop with a bound on the number of rounds;
`Reaches` relates a state to the states after any number of successful rounds.

* **`runUntil_outcome_of_rank`**: a run whose rounds lower a rank ends as its last round says.
* **`runUntil_unique`**: the outcome does not depend on the bound.
* **`runUntil_congr_stop`**, **`runUntil_stops_before`**: a loop that stops in more
  states, with the same rounds, ends as the other does or before it.
* **`runUntil_map`**: two machines whose rounds correspond run alike.
* **`runWithin_cases`**: a bounded loop whose rounds lower a rank never uses up its bound.
* **`observe_invariant`**, **`visited_invariant`**: what a run shows, and what one of
  nested loops does, by an invariant on what it has shown so far.
-/

namespace RiscvSim

namespace Lib

variable {σ ε : Type}

/-- The run loop: at most `fuel` rounds; `none` when they do not suffice. -/
def runUntil (stop : σ → Bool) (step : σ → Except ε σ) : Nat → σ → Option (Except ε σ)
  | 0, _ => none
  | fuel + 1, s =>
    if stop s then some (.ok s)
    else
      match step s with
      | .error e => some (.error e)
      | .ok s' => runUntil stop step fuel s'

/-- The run loop where using up the bound on the rounds is the failure `timeout`. -/
def runWithin (timeout : ε) (stop : σ → Bool) (step : σ → Except ε σ) (fuel : Nat) (s : σ) :
    Except ε σ :=
  (runUntil stop step fuel s).getD (.error timeout)

/-- `n` rounds, none of which may fail. -/
def rounds (step : σ → Except ε σ) : Nat → σ → Except ε σ
  | 0, s => .ok s
  | n + 1, s => step s >>= rounds step n

/-- `s'` is the state after some number of rounds from `s`, none of which stopped before. -/
inductive Reaches (stop : σ → Bool) (step : σ → Except ε σ) (s : σ) : σ → Prop
  | refl : Reaches stop step s s
  | tail {s₁ s₂ : σ} (h : Reaches stop step s s₁) (hgo : stop s₁ = false)
      (hstep : step s₁ = .ok s₂) : Reaches stop step s s₂

/-- An invariant of the rounds holds in every state reached. -/
theorem Reaches.invariant {stop : σ → Bool} {step : σ → Except ε σ} {s : σ} (Inv : σ → Prop)
    (hstep : ∀ s₁ s₂, Inv s₁ → stop s₁ = false → step s₁ = .ok s₂ → Inv s₂)
    (h0 : Inv s) {s' : σ} (h : Reaches stop step s s') : Inv s' := by
  induction h with
  | refl => exact h0
  | tail _ hgo hs ih => exact hstep _ _ ih hgo hs

/-- The state after `k` rounds, whether the loop has stopped or not; a round
that fails leaves the state as it is. -/
def after (step : σ → Except ε σ) (s : σ) : Nat → σ
  | 0 => s
  | k + 1 => (step (after step s k)).toOption.getD (after step s k)

/-- A run that has stopped after `n` rounds reaches only states up to there. -/
theorem Reaches.exists_after {stop : σ → Bool} {step : σ → Except ε σ} {s s' : σ} {n : Nat}
    (h : Reaches stop step s s') (hn : stop (after step s n) = true) :
    ∃ k, k ≤ n ∧ after step s k = s' := by
  induction h with
  | refl => exact ⟨0, Nat.zero_le n, rfl⟩
  | tail _ hgo hs ih =>
    obtain ⟨k, hk, rfl⟩ := ih
    have hne : k ≠ n := by
      rintro rfl
      exact Bool.noConfusion (hgo.symm.trans hn)
    refine ⟨k + 1, by omega, ?_⟩
    rw [after, hs]
    rfl

/-- More fuel does not change the outcome. -/
theorem runUntil_mono {stop : σ → Bool} {step : σ → Except ε σ} {r : Except ε σ} :
    ∀ {fuel fuel' : Nat} {s : σ}, fuel ≤ fuel' → runUntil stop step fuel s = some r →
      runUntil stop step fuel' s = some r := by
  intro fuel
  induction fuel with
  | zero =>
    intro fuel' s _ h
    simp [runUntil] at h
  | succ fuel ih =>
    intro fuel' s hle h
    obtain ⟨k, rfl⟩ : ∃ k, fuel' = k + 1 := ⟨fuel' - 1, by omega⟩
    rw [runUntil] at h ⊢
    by_cases hs : stop s
    · simpa [hs] using h
    · simp only [hs, Bool.false_eq_true, if_false] at h ⊢
      cases hstep : step s with
      | error e => simpa [hstep] using h
      | ok s' =>
        simp only [hstep] at h ⊢
        exact ih (by omega) h

/-- Two bounds that both suffice give the same outcome. -/
theorem runUntil_unique {stop : σ → Bool} {step : σ → Except ε σ} {r r' : Except ε σ}
    {fuel fuel' : Nat} {s : σ} (h : runUntil stop step fuel s = some r)
    (h' : runUntil stop step fuel' s = some r') : r = r' := by
  rcases Nat.le_total fuel fuel' with hle | hle
  · exact Option.some.inj ((runUntil_mono hle h).symm.trans h')
  · exact Option.some.inj (h.symm.trans (runUntil_mono hle h'))

theorem Reaches.head {stop : σ → Bool} {step : σ → Except ε σ} {s s₁ s' : σ}
    (hgo : stop s = false) (hstep : step s = .ok s₁) (h : Reaches stop step s₁ s') :
    Reaches stop step s s' := by
  induction h with
  | refl => exact .tail .refl hgo hstep
  | tail _ hgo' hs ih => exact .tail ih hgo' hs

/-- A state reached is the first one or is reached from the second one. -/
theorem Reaches.cases_head {stop : σ → Bool} {step : σ → Except ε σ} {s s' : σ}
    (h : Reaches stop step s s') :
    s' = s ∨ stop s = false ∧ ∃ s₁, step s = .ok s₁ ∧ Reaches stop step s₁ s' := by
  induction h with
  | refl => exact .inl rfl
  | @tail s₁ s₂ _ hgo hs ih =>
    right
    rcases ih with rfl | ⟨hgo₀, s₀, hs₀, ih⟩
    · exact ⟨hgo, s₂, hs, .refl⟩
    · exact ⟨hgo₀, s₀, hs₀, .tail ih hgo hs⟩

/-- Where a run ends, its loop stops, and the state is reached. -/
theorem reaches_of_runUntil {stop : σ → Bool} {step : σ → Except ε σ} {t : σ} :
    ∀ {fuel : Nat} {s : σ}, runUntil stop step fuel s = some (.ok t) →
      Reaches stop step s t ∧ stop t = true := by
  intro fuel
  induction fuel with
  | zero =>
    intro s h
    cases h
  | succ fuel ih =>
    intro s h
    rw [runUntil] at h
    split at h
    · rename_i hs
      cases h
      exact ⟨.refl, hs⟩
    · rename_i hs
      rw [Bool.not_eq_true] at hs
      split at h
      · cases h
      · rename_i s₁ hstep
        obtain ⟨hreach, hstop⟩ := ih h
        exact ⟨hreach.head hs hstep, hstop⟩

/-- Two loops whose rounds are the same and that stop in the same states reached. -/
theorem runUntil_congr_stop {stop stop' : σ → Bool} {step : σ → Except ε σ} :
    ∀ {fuel : Nat} {s : σ}, (∀ s', Reaches stop step s s' → stop' s' = stop s') →
      runUntil stop' step fuel s = runUntil stop step fuel s := by
  intro fuel
  induction fuel with
  | zero => exact fun _ => rfl
  | succ fuel ih =>
    intro s hall
    have hs : stop' s = stop s := hall s .refl
    rw [runUntil, runUntil, hs]
    by_cases hstop : stop s = true
    · rw [if_pos hstop, if_pos hstop]
    · rw [if_neg hstop, if_neg hstop]
      cases hstep : step s with
      | error e => rfl
      | ok s₁ => exact ih fun s' h => hall s' (h.head (Bool.not_eq_true _ ▸ hstop) hstep)

/-- A loop that stops in a state the other one goes on from ends in such a state. -/
theorem runUntil_stops_before {stop : σ → Bool} (stop' : σ → Bool) {step : σ → Except ε σ}
    {t s' : σ} :
    ∀ {fuel : Nat} {s : σ}, runUntil stop step fuel s = some (.ok t) →
      Reaches stop step s s' → stop s' = false → stop' s' = true →
      ∃ t', runUntil stop' step fuel s = some (.ok t') ∧ stop t' = false := by
  intro fuel
  induction fuel with
  | zero =>
    intro s h
    cases h
  | succ fuel ih =>
    intro s h hreach hgo hstop
    have hs : stop s = false := by
      rcases hreach.cases_head with rfl | ⟨hs, -⟩
      · exact hgo
      · exact hs
    by_cases hs' : stop' s = true
    · exact ⟨s, by rw [runUntil, if_pos hs'], hs⟩
    · rw [runUntil, if_neg (by simp [hs])] at h
      rw [runUntil, if_neg hs']
      cases hstep : step s with
      | error e =>
        rw [hstep] at h
        cases h
      | ok s₁ =>
        rw [hstep] at h
        rcases hreach.cases_head with rfl | ⟨-, s₂, hs₂, hreach⟩
        · exact absurd hstop hs'
        · obtain rfl := Except.ok.inj (hstep.symm.trans hs₂)
          exact ih h hreach hgo hstop

/-- A machine whose rounds are the renamed rounds of another one, in the states
that one reaches, runs as that one does. -/
theorem runUntil_map {τ ε' : Type} {stop : σ → Bool} {step : σ → Except ε σ} {stop' : τ → Bool}
    {step' : τ → Except ε' τ} {g : ε → ε'} {f : σ → τ} (hstop : ∀ s, stop' (f s) = stop s) :
    ∀ {fuel : Nat} {s : σ},
      (∀ s', Reaches stop step s s' → stop s' = false → step' (f s') = mapBoth g f (step s')) →
      runUntil stop' step' fuel (f s) = (runUntil stop step fuel s).map (mapBoth g f) := by
  intro fuel
  induction fuel with
  | zero => exact fun _ => rfl
  | succ fuel ih =>
    intro s hall
    rw [runUntil, runUntil, hstop]
    cases hs : stop s with
    | true => rfl
    | false =>
      rw [hall s .refl hs]
      cases hstep : step s with
      | error e => rfl
      | ok s₁ => exact ih fun s' h => hall s' (h.head hs hstep)

/-- What a run shows: the observations of the states its rounds start from, in order. -/
def observe {β : Type} (stop : σ → Bool) (step : σ → Except ε σ) (obs : σ → Option β) :
    Nat → σ → List β
  | 0, _ => []
  | fuel + 1, s =>
    if stop s then []
    else (obs s).toList ++
      match step s with
      | .error _ => []
      | .ok s' => observe stop step obs fuel s'

/-- An invariant that relates each state to what has been shown before it
relates the last state to what the run has shown. -/
theorem observe_invariant {β : Type} {stop : σ → Bool} {step : σ → Except ε σ}
    {obs : σ → Option β} (Inv : List β → σ → Prop)
    (hstep : ∀ l s s', Inv l s → stop s = false → step s = .ok s' →
      Inv (l ++ (obs s).toList) s') {t : σ} :
    ∀ {fuel : Nat} {s : σ} {l : List β}, Inv l s →
      runUntil stop step fuel s = some (.ok t) → Inv (l ++ observe stop step obs fuel s) t := by
  intro fuel
  induction fuel with
  | zero =>
    intro s l _ h
    cases h
  | succ fuel ih =>
    intro s l hinv h
    rw [runUntil] at h
    rw [observe]
    by_cases hs : stop s = true
    · rw [if_pos hs] at h ⊢
      cases h
      rwa [List.append_nil]
    · rw [if_neg hs] at h ⊢
      cases hround : step s with
      | error e =>
        rw [hround] at h
        cases h
      | ok s' =>
        rw [hround] at h
        have hinv' := hstep l s s' hinv (Bool.not_eq_true _ ▸ hs) hround
        have hall := ih hinv' h
        rwa [List.append_assoc] at hall

/-- A loop that never stops uses up every bound. -/
theorem runUntil_eq_none {stop : σ → Bool} {step : σ → Except ε σ} (hgo : ∀ s, stop s = false)
    (hstep : ∀ s, ∃ s', step s = .ok s') (fuel : Nat) :
    ∀ s, runUntil stop step fuel s = none := by
  induction fuel with
  | zero => exact fun _ => rfl
  | succ fuel ih =>
    intro s
    obtain ⟨s', hs'⟩ := hstep s
    rw [runUntil, hgo s, hs']
    exact ih s'

/-- A loop that reaches a state its rounds leave as it is uses up every bound. -/
theorem Reaches.runUntil_eq_none {stop : σ → Bool} {step : σ → Except ε σ} {t : σ}
    (hgo : stop t = false) (hfix : step t = .ok t) :
    ∀ {fuel : Nat} {s : σ}, Reaches stop step s t → runUntil stop step fuel s = none := by
  intro fuel
  induction fuel with
  | zero => exact fun _ => rfl
  | succ fuel ih =>
    intro s h
    rcases h.cases_head with rfl | ⟨hs, s₁, hs₁, h₁⟩
    · rw [runUntil, hgo, hfix]
      exact ih h
    · rw [runUntil, hs, hs₁]
      exact ih h₁

/-- A bounded loop that succeeds has come to its end. -/
theorem runUntil_of_runWithin {timeout : ε} {stop : σ → Bool} {step : σ → Except ε σ} {fuel : Nat}
    {s t : σ} (h : runWithin timeout stop step fuel s = .ok t) :
    runUntil stop step fuel s = some (.ok t) := by
  unfold runWithin at h
  cases hrun : runUntil stop step fuel s with
  | none =>
    rw [hrun] at h
    cases h
  | some r =>
    rw [hrun] at h
    exact congrArg some h

/-- A bounded loop whose rounds keep an invariant and lower a rank comes to its
end or fails with the error of one of its rounds. -/
theorem runWithin_cases (timeout : ε) {stop : σ → Bool} {step : σ → Except ε σ} (rank : σ → Nat)
    (Inv : σ → Prop)
    (hstep : ∀ s s', Inv s → stop s = false → step s = .ok s' → Inv s' ∧ rank s' < rank s) :
    ∀ {fuel : Nat} {s : σ}, Inv s → rank s < fuel →
      (∃ t, runWithin timeout stop step fuel s = .ok t ∧ Inv t ∧ stop t = true) ∨
        ∃ s' e, runWithin timeout stop step fuel s = .error e ∧ Inv s' ∧ stop s' = false ∧
          step s' = .error e := by
  intro fuel
  induction fuel with
  | zero =>
    intro s _ hlt
    exact absurd hlt (Nat.not_lt_zero _)
  | succ fuel ih =>
    intro s hinv hlt
    unfold runWithin
    rw [runUntil]
    cases hs : stop s with
    | true => exact .inl ⟨s, rfl, hinv, hs⟩
    | false =>
      cases hround : step s with
      | error e => exact .inr ⟨s, e, rfl, hinv, hs, hround⟩
      | ok s' =>
        obtain ⟨hinv', hlower⟩ := hstep s s' hinv hs hround
        exact ih hinv' (by omega)

/-- A bounded loop whose rounds keep an invariant fails as one of its rounds does,
or uses up its bound. -/
theorem failsWith_runWithin {Err : ε → Prop} {timeout : ε} {stop : σ → Bool}
    {step : σ → Except ε σ} (Inv : σ → Prop) (htimeout : Err timeout)
    (hstep : ∀ s s', Inv s → stop s = false → step s = .ok s' → Inv s')
    (hfails : ∀ s, Inv s → stop s = false → FailsWith Err (step s)) :
    ∀ (fuel : Nat) (s : σ), Inv s → FailsWith Err (runWithin timeout stop step fuel s) := by
  intro fuel
  induction fuel with
  | zero => exact fun _ _ => .error htimeout
  | succ fuel ih =>
    intro s hinv
    unfold runWithin
    rw [runUntil]
    cases hs : stop s with
    | true => exact .ok s
    | false =>
      cases hround : step s with
      | error e => exact .error (hfails s hinv hs e hround)
      | ok s' => exact ih s' (hstep s s' hinv hs hround)

/-- The states from which a loop in the rounds of another one goes on, in order.
`start` says where a round of the outer loop enters the inner one. -/
def visited (stop : σ → Bool) (step : σ → Except ε σ) (start : σ → Option σ)
    (stop' : σ → Bool) (step' : σ → Except ε σ) (fuel : Nat) (s : σ) : List σ :=
  (observe stop step start fuel s).flatMap (observe stop' step' some fuel)

/-- An invariant on a state and the states visited before it, over two nested loops. -/
theorem visited_invariant {timeout : ε} {stop stop' : σ → Bool} {step step' : σ → Except ε σ}
    {start : σ → Option σ} {fuel : Nat} (Inv : List σ → σ → Prop)
    (hround : ∀ l s s', Inv l s → stop s = false → step s = .ok s' →
      start s = none ∧ Inv l s' ∨
        ∃ t, start s = some t ∧ Inv l t ∧ runWithin timeout stop' step' fuel t = .ok s')
    (hitem : ∀ l s s', Inv l s → stop' s = false → step' s = .ok s' → Inv (l ++ [s]) s')
    {s t : σ} (h0 : Inv [] s) (h : runWithin timeout stop step fuel s = .ok t) :
    Inv (visited stop step start stop' step' fuel s) t := by
  have hinner : ∀ l s s', Inv l s → runWithin timeout stop' step' fuel s = .ok s' →
      Inv (l ++ observe stop' step' some fuel s) s' :=
    fun l s s' hinv hrun => observe_invariant Inv hitem hinv (runUntil_of_runWithin hrun)
  suffices hall : Inv (([] ++ observe stop step start fuel s).flatMap
      (observe stop' step' some fuel)) t from hall
  refine observe_invariant (fun l s => Inv (l.flatMap (observe stop' step' some fuel)) s) ?_ h0
    (runUntil_of_runWithin h)
  intro l s s' hinv hgo hstep
  rcases hround _ s s' hinv hgo hstep with ⟨hstart, hinv'⟩ | ⟨t, hstart, hinv', hrun⟩
  · rwa [hstart, Option.toList_none, List.append_nil]
  · rw [hstart, Option.toList_some, List.flatMap_append, List.flatMap_singleton]
    exact hinner _ t s' hinv' hrun

/-- A run ends with an outcome in `Post` when every round from a state of rank
`k` fails with such an outcome, stops with one or leads to a state of smaller rank. -/
theorem runUntil_outcome_of_rank (stop : σ → Bool) (step : σ → Except ε σ) (Inv : Nat → σ → Prop)
    (Post : Except ε σ → Prop)
    (hstep : ∀ k s, Inv k s → (∃ e, step s = .error e ∧ Post (.error e)) ∨
      ∃ s', step s = .ok s' ∧
        (stop s' = true ∧ Post (.ok s') ∨ stop s' = false ∧ ∃ k' < k, Inv k' s'))
    {k : Nat} {s : σ} (h : Inv k s) (hgo : stop s = false) :
    ∃ fuel out, runUntil stop step fuel s = some out ∧ Post out := by
  induction k using Nat.strongRecOn generalizing s with
  | ind k ih =>
    rcases hstep k s h with ⟨e, he, hpost⟩ | ⟨s', hs', hnext⟩
    · exact ⟨1, .error e, by simp [runUntil, hgo, he], hpost⟩
    · -- a run from `s'` is one from `s` with one round more
      suffices h : ∃ fuel out, runUntil stop step fuel s' = some out ∧ Post out by
        obtain ⟨fuel, out, hrun, hout⟩ := h
        exact ⟨fuel + 1, out, by simp [runUntil, hgo, hs', hrun], hout⟩
      rcases hnext with ⟨hstop, hpost⟩ | ⟨hgo', k', hlt, hinv⟩
      · exact ⟨1, .ok s', by simp [runUntil, hstop], hpost⟩
      · exact ih k' hlt hinv hgo'

/-- A run stops in a state with `Post` when every round from a state of rank
`k` succeeds and either stops with `Post` or leads to a state of smaller rank. -/
theorem runUntil_of_rank (stop : σ → Bool) (step : σ → Except ε σ) (Inv : Nat → σ → Prop)
    (Post : σ → Prop)
    (hstep : ∀ k s, Inv k s → ∃ s', step s = .ok s' ∧
      (stop s' = true ∧ Post s' ∨ stop s' = false ∧ ∃ k' < k, Inv k' s'))
    {k : Nat} {s : σ} (h : Inv k s) (hgo : stop s = false) :
    ∃ fuel s', runUntil stop step fuel s = some (.ok s') ∧ Post s' := by
  obtain ⟨fuel, out, hrun, s', rfl, hpost⟩ := runUntil_outcome_of_rank stop step Inv
    (fun out => ∃ s', out = .ok s' ∧ Post s')
    (fun k s hinv => by
      obtain ⟨s', hs', hnext⟩ := hstep k s hinv
      exact .inr ⟨s', hs', hnext.imp_left fun ⟨hstop, hpost⟩ => ⟨hstop, s', rfl, hpost⟩⟩)
    h hgo
  exact ⟨fuel, s', hrun, hpost⟩

end Lib

end RiscvSim
