import Mathlib.Tactic.Common

/-!
# Sessions: stateful programs that may raise

A `Session ε σ α` reads and writes a state `σ` and either returns an `α` or raises an `ε`.
The state at a raise is kept, as an open database session keeps its pending writes while an
exception travels: a handler continues from it, and only the owner of the transaction
discards it (`commit`).

The library gives the vocabulary such programs are written in — `refuse`, `orRaise`,
`catching` — and for each construct the equation that says when it returns (`…_eq_ok`) and
when it raises (`…_eq_error`), all in the simp set. A program built from them is inverted by
unfolding its name and simplifying; no proof unfolds the monad.

What a program does not touch is said by `Frames`, with a rule for each construct.
-/

namespace Relational

universe u

/-- A stateful program: it returns or raises, in both cases with a state. -/
abbrev Session (ε σ : Type u) : Type u → Type u := EStateM ε σ

namespace Session

variable {ε σ α β : Type u} {s s' : σ} {e e' : ε}

/-- Raise `e` when the condition holds. -/
def refuse (c : Prop) [Decidable c] (e : ε) : Session ε σ PUnit :=
  if c then throw e else pure ⟨⟩

/-- Run `x` when the condition holds. -/
def runIf (c : Prop) [Decidable c] (x : Session ε σ PUnit) : Session ε σ PUnit :=
  if c then x else pure ⟨⟩

/-- The value, or `e` raised when there is none. -/
def orRaise (o : Option α) (e : ε) : Session ε σ α :=
  match o with
  | some a => pure a
  | none => throw e

/-- Run `x`; a raise is handed to the handler, in the state it was raised in. -/
def catching (x : Session ε σ α) (handler : ε → Session ε σ α) : Session ε σ α := fun s =>
  match x s with
  | .ok a s' => .ok a s'
  | .error e s' => handler e s'

/-- Run `x`; what it raises is swallowed, if it is recoverable. -/
def swallowing (recoverable : ε → Prop) [DecidablePred recoverable] (x : Session ε σ PUnit) :
    Session ε σ PUnit :=
  catching x fun e => if recoverable e then pure ⟨⟩ else throw e

def zoom {τ : Type u} (part : σ → τ) (put : σ → τ → σ) (x : Session ε τ α) : Session ε σ α :=
  fun s =>
    match x (part s) with
    | .ok a t => .ok a (put s t)
    | .error e t => .error e (put s t)

/-- The state a transaction leaves behind: a raise rolls everything back. -/
def commit (x : Session ε σ α) (s : σ) : σ :=
  match x s with
  | .ok _ s' => s'
  | .error _ _ => s

def returns (x : Session ε σ α) (s : σ) : Bool :=
  match x s with
  | .ok _ _ => true
  | .error _ _ => false

theorem returns_iff {x : Session ε σ α} : returns x s = true ↔ ∃ a s', x s = .ok a s' := by
  rw [returns]
  cases hx : x s <;> simp

/-! ### When a program returns -/

@[simp] theorem bind_eq_ok {x : Session ε σ α} {f : α → Session ε σ β} {b : β} :
    (x >>= f) s = .ok b s' ↔ ∃ a s₁, x s = .ok a s₁ ∧ f a s₁ = .ok b s' := by
  change EStateM.bind x f s = _ ↔ _
  rw [EStateM.bind]
  cases hx : x s <;> simp

@[simp] theorem pure_eq_ok {a b : α} :
    (pure a : Session ε σ α) s = .ok b s' ↔ b = a ∧ s' = s := by
  change EStateM.Result.ok a s = .ok b s' ↔ _
  simp [eq_comm]

@[simp] theorem map_eq_ok {x : Session ε σ α} {f : α → β} {b : β} :
    (f <$> x) s = .ok b s' ↔ ∃ a, x s = .ok a s' ∧ f a = b := by
  change EStateM.map f x s = _ ↔ _
  rw [EStateM.map]
  cases hx : x s with
  | ok a s₁ => simp [eq_comm, and_comm]
  | error e s₁ => simp

@[simp] theorem discard_eq_ok {x : Session ε σ α} {u : PUnit} :
    (discard x : Session ε σ PUnit) s = .ok u s' ↔ ∃ a, x s = .ok a s' := by
  change ((fun _ => PUnit.unit) <$> x) s = _ ↔ _
  simp

@[simp] theorem throw_eq_ok {b : α} : (throw e : Session ε σ α) s = .ok b s' ↔ False := by
  change EStateM.Result.error e s = .ok b s' ↔ _
  simp

@[simp] theorem get_eq_ok {b : σ} : (get : Session ε σ σ) s = .ok b s' ↔ b = s ∧ s' = s := by
  change EStateM.Result.ok s s = .ok b s' ↔ _
  simp [eq_comm]

@[simp] theorem modify_eq_ok {f : σ → σ} {b : PUnit} :
    (modify f : Session ε σ PUnit) s = .ok b s' ↔ s' = f s := by
  change EStateM.Result.ok ⟨⟩ (f s) = .ok b s' ↔ _
  simp [eq_comm]

@[simp] theorem set_eq_ok {t : σ} {b : PUnit} :
    (set t : Session ε σ PUnit) s = .ok b s' ↔ s' = t := by
  change EStateM.Result.ok ⟨⟩ t = .ok b s' ↔ _
  simp [eq_comm]

@[simp] theorem refuse_eq_ok {c : Prop} [Decidable c] {b : PUnit} :
    (refuse c e : Session ε σ PUnit) s = .ok b s' ↔ ¬ c ∧ s' = s := by
  rw [refuse]
  split_ifs with h
  · simp [throw_eq_ok, h]
  · simp [pure_eq_ok, h]

@[simp] theorem orRaise_eq_ok {o : Option α} {b : α} :
    (orRaise o e : Session ε σ α) s = .ok b s' ↔ o = some b ∧ s' = s := by
  cases o with
  | none => simp [orRaise, throw_eq_ok]
  | some a => simp [orRaise, pure_eq_ok, eq_comm]

@[simp] theorem catching_eq_ok {x : Session ε σ α} {handler : ε → Session ε σ α} {b : α} :
    catching x handler s = .ok b s' ↔
      x s = .ok b s' ∨ ∃ e s₁, x s = .error e s₁ ∧ handler e s₁ = .ok b s' := by
  rw [catching]
  cases hx : x s <;> simp

theorem zoom_eq_ok {τ : Type u} {part : σ → τ} {put : σ → τ → σ} {x : Session ε τ α} {a : α} :
    zoom part put x s = .ok a s' ↔ ∃ t, x (part s) = .ok a t ∧ s' = put s t := by
  rw [zoom]
  cases hx : x (part s) <;> simp [eq_comm]

/-! A program's first step, consumed with the rest of the program in view. -/

theorem get_bind {f : σ → Session ε σ β} {b : β} :
    ((get : Session ε σ σ) >>= f) s = .ok b s' ↔ f s s = .ok b s' := Iff.rfl

theorem modify_bind {g : σ → σ} {f : PUnit → Session ε σ β} {b : β} :
    ((modify g : Session ε σ PUnit) >>= f) s = .ok b s' ↔ f ⟨⟩ (g s) = .ok b s' := Iff.rfl

theorem refuse_bind {c : Prop} [Decidable c] {f : PUnit → Session ε σ β} {b : β} :
    ((refuse c e : Session ε σ PUnit) >>= f) s = .ok b s' ↔ ¬ c ∧ f ⟨⟩ s = .ok b s' := by
  simp only [bind_eq_ok, refuse_eq_ok]
  constructor
  · rintro ⟨_, _, ⟨hc, rfl⟩, h⟩
    exact ⟨hc, h⟩
  · rintro ⟨hc, h⟩
    exact ⟨⟨⟩, s, ⟨hc, rfl⟩, h⟩

theorem orRaise_bind {o : Option α} {f : α → Session ε σ β} {b : β} :
    ((orRaise o e : Session ε σ α) >>= f) s = .ok b s' ↔
      ∃ a, o = some a ∧ f a s = .ok b s' := by
  simp only [bind_eq_ok, orRaise_eq_ok]
  constructor
  · rintro ⟨a, _, ⟨ha, rfl⟩, h⟩
    exact ⟨a, ha, h⟩
  · rintro ⟨a, ha, h⟩
    exact ⟨a, s, ⟨ha, rfl⟩, h⟩

/-! ### When a program raises -/

@[simp] theorem bind_eq_error {x : Session ε σ α} {f : α → Session ε σ β} :
    (x >>= f) s = .error e s' ↔
      x s = .error e s' ∨ ∃ a s₁, x s = .ok a s₁ ∧ f a s₁ = .error e s' := by
  change EStateM.bind x f s = _ ↔ _
  rw [EStateM.bind]
  cases hx : x s <;> simp

@[simp] theorem pure_eq_error {a : α} : (pure a : Session ε σ α) s = .error e s' ↔ False := by
  change EStateM.Result.ok a s = .error e s' ↔ _
  simp

@[simp] theorem map_eq_error {x : Session ε σ α} {f : α → β} :
    (f <$> x) s = .error e s' ↔ x s = .error e s' := by
  change EStateM.map f x s = _ ↔ _
  rw [EStateM.map]
  cases hx : x s <;> simp

@[simp] theorem throw_eq_error : (throw e : Session ε σ α) s = .error e' s' ↔ e' = e ∧ s' = s := by
  change EStateM.Result.error e s = .error e' s' ↔ _
  simp [eq_comm]

@[simp] theorem get_eq_error : (get : Session ε σ σ) s = .error e s' ↔ False := by
  change EStateM.Result.ok s s = .error e s' ↔ _
  simp

@[simp] theorem modify_eq_error {f : σ → σ} :
    (modify f : Session ε σ PUnit) s = .error e s' ↔ False := by
  change (EStateM.Result.ok ⟨⟩ (f s) : EStateM.Result ε σ PUnit) = .error e s' ↔ _
  simp

@[simp] theorem set_eq_error {t : σ} :
    (set t : Session ε σ PUnit) s = .error e s' ↔ False := by
  change (EStateM.Result.ok ⟨⟩ t : EStateM.Result ε σ PUnit) = .error e s' ↔ _
  simp

@[simp] theorem refuse_eq_error {c : Prop} [Decidable c] :
    (refuse c e : Session ε σ PUnit) s = .error e' s' ↔ c ∧ e' = e ∧ s' = s := by
  rw [refuse]
  split_ifs with h
  · simp [throw_eq_error, h]
  · simp [pure_eq_error, h]

@[simp] theorem orRaise_eq_error {o : Option α} :
    (orRaise o e : Session ε σ α) s = .error e' s' ↔ o = none ∧ e' = e ∧ s' = s := by
  cases o with
  | none => simp [orRaise, throw_eq_error]
  | some a => simp [orRaise, pure_eq_error]

@[simp] theorem catching_eq_error {x : Session ε σ α} {handler : ε → Session ε σ α} :
    catching x handler s = .error e' s' ↔
      ∃ e s₁, x s = .error e s₁ ∧ handler e s₁ = .error e' s' := by
  rw [catching]
  cases hx : x s <;> simp

theorem get_bind_eq_error {f : σ → Session ε σ β} :
    ((get : Session ε σ σ) >>= f) s = .error e s' ↔ f s s = .error e s' := Iff.rfl

theorem modify_bind_eq_error {g : σ → σ} {f : PUnit → Session ε σ β} :
    ((modify g : Session ε σ PUnit) >>= f) s = .error e s' ↔ f ⟨⟩ (g s) = .error e s' := Iff.rfl

theorem refuse_bind_eq_error {c : Prop} [Decidable c] {f : PUnit → Session ε σ β} :
    ((refuse c e : Session ε σ PUnit) >>= f) s = .error e' s' ↔
      (c ∧ e' = e ∧ s' = s) ∨ (¬ c ∧ f ⟨⟩ s = .error e' s') := by
  simp only [bind_eq_error, refuse_eq_error, refuse_eq_ok]
  refine or_congr_right ⟨?_, fun ⟨hc, h⟩ => ⟨⟨⟩, s, ⟨hc, rfl⟩, h⟩⟩
  rintro ⟨_, _, ⟨hc, rfl⟩, h⟩
  exact ⟨hc, h⟩

theorem orRaise_bind_eq_error {o : Option α} {f : α → Session ε σ β} :
    ((orRaise o e : Session ε σ α) >>= f) s = .error e' s' ↔
      (o = none ∧ e' = e ∧ s' = s) ∨ ∃ a, o = some a ∧ f a s = .error e' s' := by
  simp only [bind_eq_error, orRaise_eq_error, orRaise_eq_ok]
  refine or_congr_right ⟨?_, fun ⟨a, ha, h⟩ => ⟨a, s, ⟨ha, rfl⟩, h⟩⟩
  rintro ⟨a, _, ⟨ha, rfl⟩, h⟩
  exact ⟨a, ha, h⟩

/-! ### How a program ends -/

/-- A program ends in a state: it returns there, or raises an error after which its owner may still
keep what it wrote. -/
def Ends (recoverable : ε → Prop) (x : Session ε σ α) (s s' : σ) : Prop :=
  (∃ a, x s = .ok a s') ∨ ∃ e, recoverable e ∧ x s = .error e s'

namespace Ends

variable {recoverable : ε → Prop} {x : Session ε σ α} {f : α → Session ε σ β}

protected theorem pure {a : α} (h : Ends recoverable (pure a : Session ε σ α) s s') : s' = s := by
  rcases h with ⟨b, h⟩ | ⟨e, -, h⟩
  · exact (pure_eq_ok.mp h).2
  · exact (pure_eq_error.mp h).elim

protected theorem throw (h : Ends recoverable (throw e : Session ε σ α) s s') : s' = s := by
  rcases h with ⟨b, h⟩ | ⟨e', -, h⟩
  · exact (throw_eq_ok.mp h).elim
  · exact (throw_eq_error.mp h).2

protected theorem bind (h : Ends recoverable (x >>= f) s s') :
    (∃ e, recoverable e ∧ x s = .error e s') ∨
      ∃ a s₁, x s = .ok a s₁ ∧ Ends recoverable (f a) s₁ s' := by
  rcases h with ⟨b, h⟩ | ⟨e, he, h⟩
  · obtain ⟨a, s₁, hx, hf⟩ := bind_eq_ok.mp h
    exact .inr ⟨a, s₁, hx, .inl ⟨b, hf⟩⟩
  · rcases bind_eq_error.mp h with hx | ⟨a, s₁, hx, hf⟩
    · exact .inl ⟨e, he, hx⟩
    · exact .inr ⟨a, s₁, hx, .inr ⟨e, he, hf⟩⟩

theorem get_bind {f : σ → Session ε σ β}
    (h : Ends recoverable ((get : Session ε σ σ) >>= f) s s') : Ends recoverable (f s) s s' := h

theorem modify_bind {g : σ → σ} {f : PUnit → Session ε σ β}
    (h : Ends recoverable ((modify g : Session ε σ PUnit) >>= f) s s') :
    Ends recoverable (f ⟨⟩) (g s) s' := h

theorem set_bind {t : σ} {f : PUnit → Session ε σ β}
    (h : Ends recoverable ((set t : Session ε σ PUnit) >>= f) s s') :
    Ends recoverable (f ⟨⟩) t s' := h

protected theorem modify {g : σ → σ}
    (h : Ends recoverable (modify g : Session ε σ PUnit) s s') : s' = g s := by
  rcases h with ⟨b, h⟩ | ⟨e, -, h⟩
  · exact modify_eq_ok.mp h
  · exact (modify_eq_error.mp h).elim

theorem refuse_bind {c : Prop} [Decidable c] {f : PUnit → Session ε σ β}
    (h : Ends recoverable ((refuse c e : Session ε σ PUnit) >>= f) s s') :
    s' = s ∨ ¬ c ∧ Ends recoverable (f ⟨⟩) s s' := by
  rcases Ends.bind h with ⟨e', -, hx⟩ | ⟨⟨⟩, s₁, hx, hf⟩
  · exact .inl (refuse_eq_error.mp hx).2.2
  · obtain ⟨hc, rfl⟩ := refuse_eq_ok.mp hx
    exact .inr ⟨hc, hf⟩

/-- What holds before a check holds after it fails. -/
theorem past_refuse {c : Prop} [Decidable c] {f : PUnit → Session ε σ β} {P : σ → Prop} (hs : P s)
    (h : Ends recoverable ((refuse c e : Session ε σ PUnit) >>= f) s s')
    (hrest : ¬ c → Ends recoverable (f ⟨⟩) s s' → P s') : P s' := by
  rcases h.refuse_bind with rfl | ⟨hc, hf⟩
  · exact hs
  · exact hrest hc hf

theorem orRaise_bind {o : Option α} (h : Ends recoverable (orRaise o e >>= f) s s') :
    s' = s ∨ ∃ a, o = some a ∧ Ends recoverable (f a) s s' := by
  rcases Ends.bind h with ⟨e', -, hx⟩ | ⟨a, s₁, hx, hf⟩
  · exact .inl (orRaise_eq_error.mp hx).2.2
  · obtain ⟨ho, rfl⟩ := orRaise_eq_ok.mp hx
    exact .inr ⟨a, ho, hf⟩

protected theorem map {g : α → β} (h : Ends recoverable (g <$> x) s s') :
    Ends recoverable x s s' := by
  rcases h with ⟨b, h⟩ | ⟨e, he, h⟩
  · obtain ⟨a, hx, -⟩ := map_eq_ok.mp h
    exact .inl ⟨a, hx⟩
  · exact .inr ⟨e, he, map_eq_error.mp h⟩

theorem catching {handler : ε → Session ε σ α} (h : Ends recoverable (catching x handler) s s') :
    (∃ a, x s = .ok a s') ∨ ∃ e s₁, x s = .error e s₁ ∧ Ends recoverable (handler e) s₁ s' := by
  rcases h with ⟨a, h⟩ | ⟨e, he, h⟩
  · rcases catching_eq_ok.mp h with h | ⟨e, s₁, hraise, h⟩
    · exact .inl ⟨a, h⟩
    · exact .inr ⟨e, s₁, hraise, .inl ⟨a, h⟩⟩
  · obtain ⟨e', s₁, hraise, h⟩ := catching_eq_error.mp h
    exact .inr ⟨e', s₁, hraise, .inr ⟨e, he, h⟩⟩

theorem swallowing [DecidablePred recoverable] {x : Session ε σ PUnit}
    (h : Ends recoverable (swallowing recoverable x) s s') : Ends recoverable x s s' := by
  rcases h with ⟨u, h⟩ | ⟨e, he, h⟩
  · rcases catching_eq_ok.mp h with h | ⟨e, s₁, hraise, h⟩
    · exact .inl ⟨u, h⟩
    · split_ifs at h with he
      · obtain ⟨-, rfl⟩ := pure_eq_ok.mp h
        exact .inr ⟨e, he, hraise⟩
      · exact (throw_eq_ok.mp h).elim
  · obtain ⟨e', s₁, -, h⟩ := catching_eq_error.mp h
    split_ifs at h with he'
    · exact (pure_eq_error.mp h).elim
    · obtain ⟨rfl, -⟩ := throw_eq_error.mp h
      exact absurd he he'

end Ends

/-! ### Transactions -/

theorem commit_cases (x : Session ε σ α) (s : σ) :
    commit x s = s ∨ ∃ a s', x s = .ok a s' ∧ commit x s = s' := by
  rw [commit]
  cases hx : x s with
  | ok a s' => exact Or.inr ⟨a, s', rfl, rfl⟩
  | error e s' => exact Or.inl rfl

theorem commit_of_ok {x : Session ε σ α} {a : α} (h : x s = .ok a s') : commit x s = s' := by
  rw [commit, h]

theorem commit_discard_of_ok {x : Session ε σ α} {a : α} (h : x s = .ok a s') :
    commit (discard x : Session ε σ PUnit) s = s' :=
  commit_of_ok (a := ⟨⟩) (discard_eq_ok.mpr ⟨a, h⟩)

theorem commit_induction {x : Session ε σ α} {P : σ → Prop} (hrollback : P s)
    (hreturn : ∀ a s', x s = .ok a s' → P s') : P (commit x s) := by
  rcases commit_cases x s with h | ⟨a, s', hx, h⟩
  · rw [h]
    exact hrollback
  · rw [h]
    exact hreturn a s' hx

/-! ### Frames -/

/-- A program that returns leaves what `view` shows of the state as it was. -/
def Frames {γ : Type u} (view : σ → γ) (x : Session ε σ α) : Prop :=
  ∀ s a s', x s = .ok a s' → view s' = view s

namespace Frames

variable {γ : Type u} {view : σ → γ}

protected theorem bind {x : Session ε σ α} {f : α → Session ε σ β} (hx : Frames view x)
    (hf : ∀ a, Frames view (f a)) : Frames view (x >>= f) := by
  intro s b s' h
  obtain ⟨a, s₁, hxs, hfs⟩ := bind_eq_ok.mp h
  exact (hf a _ _ _ hfs).trans (hx _ _ _ hxs)

theorem step {x : Session ε σ α} {f : α → Session ε σ β} {b : β} (hx : Frames view x)
    (h : (x >>= f) s = .ok b s') :
    ∃ a s₁, x s = .ok a s₁ ∧ f a s₁ = .ok b s' ∧ view s₁ = view s := by
  obtain ⟨a, s₁, hxs, hfs⟩ := bind_eq_ok.mp h
  exact ⟨a, s₁, hxs, hfs, hx _ _ _ hxs⟩

protected theorem map {x : Session ε σ α} (hx : Frames view x) (f : α → β) :
    Frames view (f <$> x) := by
  intro s b s' h
  obtain ⟨a, hxs, -⟩ := map_eq_ok.mp h
  exact hx _ _ _ hxs

protected theorem set {t : σ} {f : PUnit → Session ε σ α} {b : α}
    (hrun : ((set t : Session ε σ PUnit) >>= f) s = .ok b s') (h : Frames view (f ⟨⟩))
    (ht : view t = view s) : view s' = view s := by
  obtain ⟨_, s₁, hset, hf⟩ := bind_eq_ok.mp hrun
  obtain rfl := set_eq_ok.mp hset
  exact (h _ _ _ hf).trans ht

protected theorem pure (a : α) : Frames view (pure a : Session ε σ α) := by
  intro s b s' h
  rw [(pure_eq_ok.mp h).2]

protected theorem get : Frames view (get : Session ε σ σ) := by
  intro s b s' h
  rw [(get_eq_ok.mp h).2]

protected theorem throw (e : ε) : Frames view (throw e : Session ε σ α) := by
  intro s b s' h
  exact absurd h (by simp)

protected theorem modify {f : σ → σ} (h : ∀ s, view (f s) = view s) :
    Frames view (modify f : Session ε σ PUnit) := by
  intro s b s' hf
  rw [modify_eq_ok.mp hf]
  exact h s

protected theorem refuse (c : Prop) [Decidable c] (e : ε) :
    Frames view (refuse c e : Session ε σ PUnit) := by
  intro s b s' h
  rw [(refuse_eq_ok.mp h).2]

protected theorem orRaise (o : Option α) (e : ε) : Frames view (orRaise o e : Session ε σ α) := by
  intro s b s' h
  rw [(orRaise_eq_ok.mp h).2]

protected theorem ite {c : Prop} [Decidable c] {x y : Session ε σ α} (hx : Frames view x)
    (hy : Frames view y) : Frames view (if c then x else y) := by
  split_ifs
  · exact hx
  · exact hy

protected theorem runIf {c : Prop} [Decidable c] {x : Session ε σ PUnit} (hx : Frames view x) :
    Frames view (runIf c x) :=
  hx.ite (.pure _)

end Frames

end Session

end Relational
