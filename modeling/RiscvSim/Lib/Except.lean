import Mathlib.Data.List.Forall2

/-!
# Computations that may fail

How a successful computation in `Except` comes apart: over a bind
(`bind_eq_ok`), over a monadic fold (`foldlM_invariant`, `foldlM_congr_ok`) and
over a monadic map (`mapM_eq_ok`); and which errors a failing one can have
(`FailsWith`).
-/

namespace RiscvSim

namespace Lib

variable {ε α β σ : Type}

/-- A bind succeeds exactly when both of its parts do. -/
theorem bind_eq_ok {x : Except ε α} {f : α → Except ε β} {b : β} :
    x >>= f = .ok b ↔ ∃ a, x = .ok a ∧ f a = .ok b := by
  cases x with
  | error e =>
    constructor
    · intro h
      exact absurd h (by simp [bind, Except.bind])
    · rintro ⟨a, h, _⟩
      cases h
  | ok a =>
    constructor
    · intro h
      exact ⟨a, rfl, h⟩
    · rintro ⟨a', h, h'⟩
      cases h
      exact h'

@[simp] theorem ok_bind (a : α) (f : α → Except ε β) : (Except.ok a >>= f) = f a :=
  rfl

@[simp] theorem pure_eq_ok (a : α) : (pure a : Except ε α) = .ok a :=
  rfl

@[simp] theorem error_bind (e : ε) (f : α → Except ε β) :
    (Except.error e >>= f) = .error e :=
  rfl

/-- The computation `x >>= f` where only the value is changed at the end. -/
theorem bind_pure_eq_ok {x : Except ε α} {f : α → β} {b : β} :
    (x >>= fun a => pure (f a)) = .ok b ↔ ∃ a, x = .ok a ∧ f a = b := by
  rw [bind_eq_ok]
  constructor
  · rintro ⟨a, h, h'⟩
    exact ⟨a, h, Except.ok.inj h'⟩
  · rintro ⟨a, h, rfl⟩
    exact ⟨a, h, rfl⟩

theorem map_eq_ok {x : Except ε α} {f : α → β} {b : β} :
    x.map f = .ok b ↔ ∃ a, x = .ok a ∧ f a = b := by
  cases x with
  | error e => exact ⟨nofun, nofun⟩
  | ok a =>
    constructor
    · intro h
      exact ⟨a, rfl, Except.ok.inj h⟩
    · rintro ⟨a', h, rfl⟩
      cases h
      rfl

theorem mapError_eq_ok {ε' : Type} {x : Except ε α} {g : ε → ε'} {a : α} :
    x.mapError g = .ok a ↔ x = .ok a := by
  cases x with
  | error e => exact ⟨nofun, nofun⟩
  | ok a' => exact ⟨fun h => congrArg Except.ok (Except.ok.inj h),
      fun h => congrArg Except.ok (Except.ok.inj h)⟩

/-- A computation that gives some value gives the one read off with a default. -/
theorem eq_ok_getD {x : Except ε α} (d : α) (h : x.toOption.isSome = true) :
    x = .ok (x.toOption.getD d) := by
  cases x with
  | error e => cases h
  | ok a => rfl

/-- A computation whose value, seen through `f`, is `b`. -/
theorem exists_ok_of_map {x : Except ε α} {f : α → β} {b : β} (h : x.toOption.map f = some b) :
    ∃ a, x = .ok a ∧ f a = b := by
  cases x with
  | error e => cases h
  | ok a => exact ⟨a, rfl, Option.some.inj h⟩

/-- The same where the computation is also bounded. -/
theorem eq_some_ok_getD {x : Option (Except ε α)} (d : α)
    (h : (x.bind Except.toOption).isSome = true) :
    x = some (.ok ((x.bind Except.toOption).getD d)) := by
  match x, h with
  | some (.ok _), _ => rfl

theorem exists_some_ok_of_map {x : Option (Except ε α)} {f : α → β} {b : β}
    (h : (x.bind Except.toOption).map f = some b) : ∃ a, x = some (.ok a) ∧ f a = b := by
  match x, h with
  | some (.ok a), h => exact ⟨a, rfl, Option.some.inj h⟩

/-- A computation with its value and its error renamed. -/
def mapBoth {ε' β : Type} (g : ε → ε') (f : α → β) : Except ε α → Except ε' β
  | .ok a => .ok (f a)
  | .error e => .error (g e)

@[simp] theorem mapBoth_ok {ε' : Type} (g : ε → ε') (f : α → β) (a : α) :
    mapBoth g f (.ok a) = .ok (f a) :=
  rfl

@[simp] theorem mapBoth_error {ε' : Type} (g : ε → ε') (f : α → β) (e : ε) :
    mapBoth g f (.error e) = .error (g e) :=
  rfl

/-- A renaming goes through a choice. -/
theorem ite_eq_map {α β : Type} (f : α → β) {c : Prop} [Decidable c] {a b : α} {a' b' : β}
    (ha : a' = f a) (hb : b' = f b) : (if c then a' else b') = f (if c then a else b) := by
  split
  · exact ha
  · exact hb

/-- What holds of both branches holds of the choice. -/
theorem ite_of_both {α : Type} (P : α → Prop) {c : Prop} [Decidable c] {a b : α}
    (ha : P a) (hb : P b) : P (if c then a else b) := by
  split
  · exact ha
  · exact hb

/-- A renaming goes through a bind. -/
theorem mapBoth_bind {ε' α' β' : Type} {g : ε → ε'} {f : α → α'} {f' : β → β'} {x : Except ε α}
    {k : α → Except ε β} {k' : α' → Except ε' β'}
    (hk : ∀ a, x = .ok a → k' (f a) = mapBoth g f' (k a)) :
    mapBoth g f x >>= k' = mapBoth g f' (x >>= k) := by
  cases x with
  | error e => rfl
  | ok a => exact hk a rfl

/-- What every round of a fold preserves holds after the fold. -/
theorem foldlM_invariant {f : σ → α → Except ε σ} (Inv : σ → Prop) :
    ∀ {l : List α} {s s' : σ}, (∀ s a s', a ∈ l → Inv s → f s a = .ok s' → Inv s') →
      Inv s → l.foldlM f s = .ok s' → Inv s' := by
  intro l
  induction l with
  | nil =>
    intro s s' _ h0 h
    cases h
    exact h0
  | cons a l ih =>
    intro s s' hstep h0 h
    rw [List.foldlM_cons, bind_eq_ok] at h
    obtain ⟨s₁, h1, h2⟩ := h
    have hs₁ : Inv s₁ := hstep s a s₁ List.mem_cons_self h0 h1
    exact ih (fun t b t' hb => hstep t b t' (List.mem_cons_of_mem a hb)) hs₁ h2

/-- A fold whose rounds succeed wherever those of another do, with the same
result, succeeds with the same result. -/
theorem foldlM_congr_ok {f g : σ → α → Except ε σ} :
    ∀ {l : List α} {s s' : σ}, (∀ s a s', a ∈ l → f s a = .ok s' → g s a = .ok s') →
      l.foldlM f s = .ok s' → l.foldlM g s = .ok s' := by
  intro l
  induction l with
  | nil =>
    intro s s' _ h
    exact h
  | cons a l ih =>
    intro s s' hstep h
    rw [List.foldlM_cons, bind_eq_ok] at h ⊢
    obtain ⟨s₁, h1, h2⟩ := h
    exact ⟨s₁, hstep s a s₁ List.mem_cons_self h1,
      ih (fun t b t' hb => hstep t b t' (List.mem_cons_of_mem a hb)) h2⟩

/-- A fold is simulated by one whose rounds simulate its rounds. -/
theorem foldlM_simulates {τ ε' : Type} {f : σ → α → Except ε σ} {g : τ → α → Except ε' τ}
    (R : σ → τ → Prop) :
    ∀ {l : List α} {s s' : σ} {t : τ},
      (∀ s a s' t, a ∈ l → R s t → f s a = .ok s' → ∃ t', g t a = .ok t' ∧ R s' t') →
      R s t → l.foldlM f s = .ok s' → ∃ t', l.foldlM g t = .ok t' ∧ R s' t' := by
  intro l
  induction l with
  | nil =>
    intro s s' t _ hr h
    cases h
    exact ⟨t, rfl, hr⟩
  | cons a l ih =>
    intro s s' t hstep hr h
    rw [List.foldlM_cons, bind_eq_ok] at h
    obtain ⟨s₁, h₁, h₂⟩ := h
    obtain ⟨t₁, ht₁, hr₁⟩ := hstep s a s₁ t List.mem_cons_self hr h₁
    obtain ⟨t', ht', hr'⟩ := ih (fun s b s' t hb => hstep s b s' t (List.mem_cons_of_mem a hb))
      hr₁ h₂
    exact ⟨t', by rw [List.foldlM_cons, ht₁]; exact ht', hr'⟩

/-- The elements of a successful map, one by one. -/
theorem mapM_eq_ok {f : α → Except ε β} {l : List α} {l' : List β} :
    l.mapM f = .ok l' ↔ List.Forall₂ (fun a b => f a = .ok b) l l' := by
  induction l generalizing l' with
  | nil =>
    rw [List.mapM_nil, pure_eq_ok, List.forall₂_nil_left_iff, Except.ok.injEq]
    exact eq_comm
  | cons a l ih =>
    rw [List.mapM_cons, List.forall₂_cons_left_iff, bind_eq_ok]
    constructor
    · rintro ⟨b, hb, h⟩
      obtain ⟨bs, hbs, h⟩ := bind_eq_ok.mp h
      cases h
      exact ⟨b, bs, hb, ih.mp hbs, rfl⟩
    · rintro ⟨b, bs, hb, hbs, rfl⟩
      exact ⟨b, hb, bind_eq_ok.mpr ⟨bs, ih.mpr hbs, rfl⟩⟩

/-- A fold fails only with an error of one of its rounds. -/
theorem foldlM_ok_or {f : σ → α → Except ε σ} (Err : ε → Prop)
    (h : ∀ s a, (∃ s', f s a = .ok s') ∨ ∃ e, f s a = .error e ∧ Err e) (l : List α) (s : σ) :
    (∃ s', l.foldlM f s = .ok s') ∨ ∃ e, l.foldlM f s = .error e ∧ Err e := by
  induction l generalizing s with
  | nil => exact .inl ⟨s, rfl⟩
  | cons a l ih =>
    rw [List.foldlM_cons]
    rcases h s a with ⟨s', hs'⟩ | ⟨e, he, herr⟩
    · rw [hs', ok_bind]
      exact ih s'
    · rw [he, error_bind]
      exact .inr ⟨e, rfl, herr⟩

/-! ### The results of a computation -/

/-- Every result of the computation satisfies `P`. -/
def Ensures (P : α → Prop) (x : Except ε α) : Prop :=
  ∀ a, x = .ok a → P a

namespace Ensures

variable {P : α → Prop}

theorem imp {Q : α → Prop} {x : Except ε α} (hx : Ensures P x) (h : ∀ a, P a → Q a) :
    Ensures Q x := by
  intro a ha
  exact h a (hx a ha)

theorem ok {a : α} (h : P a) : Ensures P (.ok a : Except ε α) := by
  intro b hb
  obtain rfl := Except.ok.inj hb
  exact h

theorem map {f : β → α} {x : Except ε β} (h : ∀ b, P (f b)) : Ensures P (x.map f) := by
  intro a ha
  cases x with
  | error e => cases ha
  | ok b =>
    obtain rfl := Except.ok.inj ha
    exact h b

theorem bind {Q : β → Prop} {x : Except ε α} {f : α → Except ε β} (hx : Ensures P x)
    (hf : ∀ a, P a → Ensures Q (f a)) : Ensures Q (x >>= f) := by
  intro b h
  obtain ⟨a, ha, hb⟩ := bind_eq_ok.mp h
  exact hf a (hx a ha) b hb

/-- A bind whose first part may have any result. -/
theorem bind_any {Q : β → Prop} {x : Except ε α} {f : α → Except ε β}
    (hf : ∀ a, Ensures Q (f a)) : Ensures Q (x >>= f) := by
  intro b h
  obtain ⟨a, -, hb⟩ := bind_eq_ok.mp h
  exact hf a b hb

theorem ite {c : Prop} [Decidable c] {x y : Except ε α} (hx : c → Ensures P x)
    (hy : ¬c → Ensures P y) : Ensures P (if c then x else y) := by
  split
  · exact hx ‹c›
  · exact hy ‹¬c›

end Ensures

/-! ### The errors of a computation -/

/-- The computation fails with an error in `Err` only. -/
def FailsWith (Err : ε → Prop) (x : Except ε α) : Prop :=
  ∀ e, x = .error e → Err e

namespace FailsWith

variable {Err : ε → Prop}

theorem ok (a : α) : FailsWith Err (.ok a : Except ε α) := by
  intro e h
  cases h

theorem error {e : ε} (h : Err e) : FailsWith Err (.error e : Except ε α) := by
  intro e' h'
  obtain rfl := Except.error.inj h'
  exact h

theorem bind {x : Except ε α} {f : α → Except ε β} (hx : FailsWith Err x)
    (hf : ∀ a, x = .ok a → FailsWith Err (f a)) : FailsWith Err (x >>= f) := by
  intro e h
  cases x with
  | error e' => exact hx e (congrArg Except.error (Except.error.inj h))
  | ok a => exact hf a rfl e h

theorem ite {c : Prop} [Decidable c] {x y : Except ε α} (hx : c → FailsWith Err x)
    (hy : ¬c → FailsWith Err y) : FailsWith Err (if c then x else y) := by
  split
  · exact hx ‹c›
  · exact hy ‹¬c›

theorem map {f : α → β} {x : Except ε α} (hx : FailsWith Err x) : FailsWith Err (x.map f) := by
  intro e h
  cases x with
  | error e' => exact hx e (congrArg Except.error (Except.error.inj h))
  | ok a => cases h

/-- The errors of a computation whose errors are renamed. -/
theorem mapError {ε' : Type} {g : ε' → ε} (x : Except ε' α) (h : ∀ e, Err (g e)) :
    FailsWith Err (x.mapError g) := by
  cases x with
  | error e => exact error (h e)
  | ok a => exact ok a

/-- A fold whose rounds keep an invariant and fail with errors in `Err` only. -/
theorem foldlM {f : σ → α → Except ε σ} (Inv : σ → Prop)
    (hstep : ∀ s a s', Inv s → f s a = .ok s' → Inv s')
    (hf : ∀ s a, Inv s → FailsWith Err (f s a)) :
    ∀ (l : List α) (s : σ), Inv s → FailsWith Err (l.foldlM f s) := by
  intro l
  induction l with
  | nil =>
    intro s _
    exact ok s
  | cons a l ih =>
    intro s hs
    rw [List.foldlM_cons]
    exact (hf s a hs).bind fun s' hs' => ih s' (hstep s a s' hs hs')

/-- A fold whose rounds over the elements of the list fail with errors in `Err` only. -/
theorem foldlM_of_mem {f : σ → α → Except ε σ} :
    ∀ {l : List α}, (∀ s, ∀ a ∈ l, FailsWith Err (f s a)) → ∀ s, FailsWith Err (l.foldlM f s) := by
  intro l
  induction l with
  | nil => exact fun _ s => ok s
  | cons a l ih =>
    intro hf s
    rw [List.foldlM_cons]
    exact (hf s a List.mem_cons_self).bind fun s' _ =>
      ih (fun s b hb => hf s b (List.mem_cons_of_mem a hb)) s'

theorem mapM {f : α → Except ε β} (hf : ∀ a, FailsWith Err (f a)) (l : List α) :
    FailsWith Err (l.mapM f) := by
  induction l with
  | nil =>
    rw [List.mapM_nil]
    exact ok []
  | cons a l ih =>
    rw [List.mapM_cons]
    exact (hf a).bind fun b _ => ih.bind fun bs _ => ok (b :: bs)

end FailsWith

end Lib

end RiscvSim
