import Mathlib

/-!
# Programs that may fail part-way

A program runs over a state and may fail. What it did before it failed stays done, so a failure has
a postcondition of its own.
-/

/-- A computation over the state `σ` that gives an `α` or fails with an `ε`. -/
def Program (σ ε α : Type) : Type := σ → Except ε α × σ

namespace Program

variable {σ ε α β : Type}

instance : Monad (Program σ ε) where
  pure a := fun s => (.ok a, s)
  bind x f := fun s =>
    match x s with
    | (.ok a, s') => f a s'
    | (.error e, s') => (.error e, s')

def fail (e : ε) : Program σ ε α := fun s => (.error e, s)

/-- The state. -/
def get : Program σ ε σ := fun s => (.ok s, s)

def modify (f : σ → σ) : Program σ ε Unit := fun s => (.ok (), f s)

/-- A computation that does not touch the state. -/
def ofExcept (x : Except ε α) : Program σ ε α := fun s => (x, s)

/-- Fail with the error, if there is one. -/
def failWith (e : Option ε) : Program σ ε Unit := ofExcept (e.elim (.ok ()) .error)

/-- The outcome of a program as a value; it does not fail. -/
def attempt (x : Program σ ε α) : Program σ ε (Except ε α) := fun s => (.ok (x s).1, (x s).2)

/-- Run a program on a part of the state. -/
def zoom {τ : Type} (view : σ → τ) (put : τ → σ → σ) (x : Program τ ε α) : Program σ ε α := fun s =>
  ((x (view s)).1, put (x (view s)).2 s)

/-- Run from `s`, a result satisfies `Q` and a failure `E`, each with the state it leaves. -/
def Ensures (x : Program σ ε α) (s : σ) (Q : α → σ → Prop) (E : σ → Prop) : Prop :=
  match x s with
  | (.ok a, s') => Q a s'
  | (.error _, s') => E s'

variable {s : σ} {Q Q' : α → σ → Prop} {R : β → σ → Prop} {E E' : σ → Prop} {x : Program σ ε α}

lemma ensures_pure (h : Q a s) : (pure a : Program σ ε α).Ensures s Q E := h

lemma ensures_fail (h : E s) : (fail e : Program σ ε α).Ensures s Q E := h

lemma ensures_modify {Q : Unit → σ → Prop} (h : Q () (f s)) : (modify f : Program σ ε Unit).Ensures s Q E := h

lemma ensures_ofExcept (hok : ∀ a, y = .ok a → Q a s) (he : E s) : (ofExcept y : Program σ ε α).Ensures s Q E := by
  cases y with
  | ok a => exact hok a rfl
  | error e => exact he

lemma ensures_attempt {Q : Except ε α → σ → Prop}
    (h : x.Ensures s (fun a s' => Q (.ok a) s') fun s' => ∀ e, Q (.error e) s') : (attempt x).Ensures s Q E := by
  rw [Ensures] at h ⊢
  dsimp only [attempt]
  rcases hx : x s with ⟨_ | a, s'⟩
  · rw [hx] at h
    exact h _
  · rw [hx] at h
    exact h

/-- What is ensured of the part of the state. -/
lemma Ensures.zoom {τ : Type} {v : σ → τ} {put : τ → σ → σ} {y : Program τ ε α}
    (h : y.Ensures (v s) (fun a t => Q a (put t s)) fun t => E (put t s)) :
    (Program.zoom v put y).Ensures s Q E := by
  rw [Ensures] at h ⊢
  dsimp only [Program.zoom]
  rcases hy : y (v s) with ⟨_ | a, t⟩
  · rw [hy] at h
    exact h
  · rw [hy] at h
    exact h

variable {f : α → Program σ ε β}

/-- The first program's result starts the second. -/
lemma Ensures.bind (h : x.Ensures s Q E) (hf : ∀ a s', Q a s' → (f a).Ensures s' R E) : (x >>= f).Ensures s R E := by
  have hb : (x >>= f) s = match x s with
    | (.ok a, s') => f a s'
    | (.error e, s') => (.error e, s') := rfl
  rw [Ensures] at h ⊢
  rw [hb]
  rcases hx : x s with ⟨_ | a, s'⟩
  · rw [hx] at h
    exact h
  · rw [hx] at h
    exact hf a s' h

variable {s' : σ}

lemma bind_of_ok (hx : x s = (.ok a, s')) : (x >>= f) s = f a s' := by
  change (match x s with
    | (.ok a, s') => f a s'
    | (.error e, s') => (.error e, s')) = f a s'
  rw [hx]

lemma bind_of_error (hx : x s = (.error e, s')) : (x >>= f) s = (.error e, s') := by
  change (match x s with
    | (.ok a, s') => f a s'
    | (.error e, s') => (.error e, s')) = (.error e, s')
  rw [hx]

/-- The run of the first program is kept as an equation. -/
lemma ensures_bind_of_eq (hok : ∀ a s', x s = (.ok a, s') → (f a).Ensures s' R E)
    (he : ∀ e s', x s = (.error e, s') → E s') : (x >>= f).Ensures s R E := by
  rcases hx : x s with ⟨e | a, s'⟩
  · rw [Ensures, bind_of_error hx]
    exact he e s' hx
  · have h := hok a s' hx
    rw [Ensures] at h ⊢
    rwa [bind_of_ok hx]

lemma ensures_get_bind {f : σ → Program σ ε β} (h : (f s).Ensures s R E) : (get >>= f).Ensures s R E := h

lemma ensures_modify_bind {f : Unit → Program σ ε β} (h : (f ()).Ensures (g s) R E) :
    (modify g >>= f).Ensures s R E := h

lemma ensures_ofExcept_bind (hok : ∀ a, y = .ok a → (f a).Ensures s R E) (he : E s) :
    (ofExcept y >>= f).Ensures s R E := by
  cases y with
  | ok a => exact hok a rfl
  | error e => exact he

lemma ensures_ok_bind (h : (f a).Ensures s R E) : (ofExcept (.ok a) >>= f).Ensures s R E := h

lemma ensures_failWith_bind {f : Unit → Program σ ε β}
    (hok : (f ()).Ensures s R E) (he : E s) : (failWith e >>= f).Ensures s R E := by
  cases e with
  | none => exact hok
  | some e => exact he

lemma Ensures.mono (h : x.Ensures s Q E) (hok : ∀ a s', Q a s' → Q' a s')
    (he : ∀ s', E s' → E' s') : x.Ensures s Q' E' := by
  rw [Ensures] at h ⊢
  rcases hx : x s with ⟨_ | a, s'⟩
  · rw [hx] at h
    exact he s' h
  · rw [hx] at h
    exact hok a s' h

/-- What a run that gave `a` ensures. -/
lemma Ensures.of_eq_ok (h : x.Ensures s Q E) (hx : x s = (.ok a, s')) : Q a s' := by
  rw [Ensures, hx] at h
  exact h

/-- What a run that failed ensures. -/
lemma Ensures.of_eq_error (h : x.Ensures s Q E) (hx : x s = (.error e, s')) : E s' := by
  rw [Ensures, hx] at h
  exact h

/-- What the state that is left ensures, whatever the result. -/
lemma ensures_of_snd (hok : ∀ a, Q a (x s).2) (he : E (x s).2) : x.Ensures s Q E := by
  rw [Ensures]
  rcases hx : x s with ⟨_ | a, s'⟩
  · rw [hx] at he
    exact he
  · have hok := hok a
    rw [hx] at hok
    exact hok

/-- Nothing is asked of the first program. -/
lemma ensures_bind_of_forall (h : ∀ a s', (f a).Ensures s' R fun _ => True) : (x >>= f).Ensures s R fun _ => True :=
  ensures_bind_of_eq (fun a s' _ => h a s') fun _ _ _ => trivial

/-- What a run ensures however it ends. -/
lemma Ensures.snd (h : x.Ensures s (fun _ => E) E) : E (x s).2 := by
  rw [Ensures] at h
  rcases hx : x s with ⟨_ | a, s'⟩
  · rw [hx] at h
    exact h
  · rw [hx] at h
    exact h

end Program
