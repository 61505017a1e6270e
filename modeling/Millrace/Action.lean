import Mathlib.Data.List.Basic

/-! Computations that may fail, and stateful computations that keep their state when they fail. -/

set_option autoImplicit false

namespace Millrace.Action

@[simp] theorem ok_bind {ε α β : Type} (a : α) (f : α → Except ε β) : (Except.ok a >>= f) = f a := rfl

@[simp] theorem error_bind {ε α β : Type} (error : ε) (f : α → Except ε β) :
    ((Except.error error : Except ε α) >>= f) = .error error := rfl

@[simp] theorem map_ok {ε α β : Type} (a : α) (f : α → β) : f <$> (Except.ok a : Except ε α) = .ok (f a) := rfl

theorem bind_eq_ok {ε α β : Type} {x : Except ε α} {f : α → Except ε β} {b : β} :
    x >>= f = .ok b ↔ ∃ a, x = .ok a ∧ f a = .ok b := by
  cases x with
  | error error => simp [bind, Except.bind]
  | ok a => simp [bind, Except.bind]

theorem bind_unit_eq_ok {ε β : Type} {x : Except ε Unit} {f : Unit → Except ε β} {b : β} :
    x >>= f = .ok b ↔ x = .ok () ∧ f () = .ok b := by
  cases x with
  | error error => simp [bind, Except.bind]
  | ok a => simp [bind, Except.bind]

theorem pure_eq_ok {ε α : Type} {a b : α} : (pure a : Except ε α) = .ok b ↔ a = b := by
  simp [pure, Except.pure]

theorem mapError_eq_ok {ε ε' α : Type} {x : Except ε α} {f : ε → ε'} {a : α} :
    x.mapError f = .ok a ↔ x = .ok a := by
  cases x with
  | error error => simp [Except.mapError]
  | ok a => simp [Except.mapError]

theorem map_eq_ok {ε α β : Type} {x : Except ε α} {f : α → β} {b : β} :
    x.map f = .ok b ↔ ∃ a, x = .ok a ∧ f a = b := by
  cases x with
  | error error => simp [Except.map]
  | ok a => simp [Except.map]

theorem toOption_eq_some {ε α : Type} {x : Except ε α} {a : α} : x.toOption = some a ↔ x = .ok a := by
  cases x with
  | error error => simp [Except.toOption]
  | ok a => simp [Except.toOption]

theorem forM_eq_ok {ε α : Type} {l : List α} {f : α → Except ε Unit} :
    l.forM f = .ok () ↔ ∀ a ∈ l, f a = .ok () := by
  induction l with
  | nil => simp [List.forM, pure, Except.pure]
  | cons a l ih => rw [List.forM, bind_unit_eq_ok, ih, List.forall_mem_cons]

theorem optionForM_eq_ok {ε α : Type} {o : Option α} {f : α → Except ε Unit} :
    o.forM f = .ok () ↔ ∀ a, o = some a → f a = .ok () := by
  cases o with
  | none => simp [Option.forM, pure, Except.pure]
  | some a => simp [Option.forM]

/-! ## Stateful computations -/

section Holds
variable {ε σ α β : Type}

/-- From a state in `P`, the computation ends in `Q` with its result or in `E` with its error. -/
def Holds (P : σ → Prop) (x : EStateM ε σ α) (Q : α → σ → Prop) (E : ε → σ → Prop) : Prop :=
  ∀ s, P s → match x s with
    | .ok a s' => Q a s'
    | .error e s' => E e s'

namespace Holds
variable {P : σ → Prop} {Q : α → σ → Prop} {R : β → σ → Prop} {E : ε → σ → Prop}

theorem pure {a : α} (entails : ∀ s, P s → Q a s) : Holds P (Pure.pure a : EStateM ε σ α) Q E :=
  fun s holds => entails s holds

theorem throw {e : ε} (entails : ∀ s, P s → E e s) : Holds P (MonadExcept.throw e : EStateM ε σ α) Q E :=
  fun s holds => entails s holds

theorem get {Q : σ → σ → Prop} (entails : ∀ s, P s → Q s s) :
    Holds P (MonadState.get : EStateM ε σ σ) Q E := fun s holds => entails s holds

theorem modify {Q : PUnit → σ → Prop} {f : σ → σ} (entails : ∀ s, P s → Q ⟨⟩ (f s)) :
    Holds P (modifyGet fun s => (⟨⟩, f s) : EStateM ε σ PUnit) Q E := fun s holds => entails s holds

theorem bind {x : EStateM ε σ α} {f : α → EStateM ε σ β} (first : Holds P x Q E)
    (rest : ∀ a, Holds (Q a) (f a) R E) : Holds P (x >>= f) R E := by
  intro s holds
  have step := first s holds
  show match EStateM.bind x f s with
    | .ok b s' => R b s'
    | .error e s' => E e s'
  unfold EStateM.bind
  cases run : x s with
  | ok a s' =>
    rw [run] at step
    exact rest a s' step
  | error e s' =>
    rw [run] at step
    exact step

theorem ite {condition : Prop} [Decidable condition] {x y : EStateM ε σ α}
    (yes : condition → Holds P x Q E) (no : ¬condition → Holds P y Q E) :
    Holds P (if condition then x else y) Q E := by
  split
  next holds => exact yes holds
  next fails => exact no fails

theorem weaken {A : σ → Prop} {B : α → σ → Prop} {F : ε → σ → Prop} {x : EStateM ε σ α}
    (holds : Holds A x B F) (pre : ∀ s, P s → A s) (post : ∀ a s, B a s → Q a s)
    (error : ∀ e s, F e s → E e s) : Holds P x Q E := by
  intro s start
  have step := holds s (pre s start)
  cases run : x s with
  | ok a s' =>
    rw [run] at step
    exact post a s' step
  | error e s' =>
    rw [run] at step
    exact error e s' step

theorem given {A : σ → Prop} {x : EStateM ε σ α} (entails : ∀ s, P s → A s) (holds : Holds A x Q E) :
    Holds P x Q E := holds.weaken entails (fun _ _ ends => ends) fun _ _ fails => fails

/-- What the precondition says about no state may be assumed of the computation. -/
theorem assume {C : Prop} {x : EStateM ε σ α} (given : ∀ s, P s → C) (holds : C → Holds P x Q E) :
    Holds P x Q E := fun s start => holds (given s start) s start

/-- What holds from each of these states holds from any of them. -/
theorem anyOf {ι : Type} {P : ι → σ → Prop} {x : EStateM ε σ α} (each : ∀ i, Holds (P i) x Q E) :
    Holds (fun s => ∃ i, P i s) x Q E := fun s ⟨i, holds⟩ => each i s holds

theorem either {A B : σ → Prop} {x : EStateM ε σ α} (first : Holds A x Q E) (second : Holds B x Q E) :
    Holds (fun s => A s ∨ B s) x Q E := fun s start => start.elim (first s) (second s)

theorem forM {I : σ → Prop} {f : β → EStateM ε σ PUnit} (l : List β)
    (each : ∀ b ∈ l, Holds I (f b) (fun _ => I) E) : Holds I (l.forM f) (fun _ => I) E := by
  induction l with
  | nil => exact pure fun _ holds => holds
  | cons b rest ih =>
    exact bind (each b List.mem_cons_self) fun _ => ih fun x member => each x (List.mem_cons_of_mem _ member)

/-- A handler goes on from the state in which the computation failed. -/
theorem tryCatch {F : ε → σ → Prop} {x : EStateM ε σ α} {handler : ε → EStateM ε σ α}
    (body : Holds P x Q F) (handled : ∀ e, Holds (F e) (handler e) Q E) :
    Holds P (MonadExcept.tryCatch x handler) Q E := by
  intro s start
  have step := body s start
  show match EStateM.tryCatch x handler s with
    | .ok a s' => Q a s'
    | .error e s' => E e s'
  unfold EStateM.tryCatch
  cases run : x s with
  | ok a s' =>
    rw [run] at step
    exact step
  | error e s' =>
    rw [run] at step
    exact handled e s' step

end Holds

/-- From this state, the computation ends in `Q` with its result or in `E` with its error. -/
def Ensues (s : σ) (x : EStateM ε σ α) (Q : α → σ → Prop) (E : ε → σ → Prop) : Prop :=
  Holds (fun t => t = s) x Q E

namespace Ensues
variable {s : σ} {Q : α → σ → Prop} {R : β → σ → Prop} {E : ε → σ → Prop}

theorem pure {a : α} (holds : Q a s) : Ensues s (Pure.pure a) Q E := Holds.pure fun _ same => same ▸ holds

theorem throw {e : ε} (holds : E e s) : Ensues s (throw e : EStateM ε σ α) Q E :=
  Holds.throw fun _ same => same ▸ holds

theorem bind {x : EStateM ε σ α} {f : α → EStateM ε σ β} (first : Ensues s x Q E)
    (rest : ∀ a t, Q a t → Ensues t (f a) R E) : Ensues s (x >>= f) R E :=
  Holds.bind first fun a t ends => rest a t ends t rfl

/-- A step that ends in a known state hands on what it found out. -/
theorem reads {x : EStateM ε σ α} {f : α → EStateM ε σ β} {P : α → Prop} {t : σ}
    (first : Ensues s x (fun a t' => P a ∧ t' = t) E) (rest : ∀ a, P a → Ensues t (f a) R E) :
    Ensues s (x >>= f) R E :=
  first.bind fun a _ ends => ends.2 ▸ rest a ends.1

theorem weaken {A : α → σ → Prop} {F : ε → σ → Prop} {x : EStateM ε σ α}
    (ensues : Ensues s x A F) (post : ∀ a t, A a t → Q a t) (error : ∀ e t, F e t → E e t) : Ensues s x Q E :=
  Holds.weaken ensues (fun _ same => same) post error

theorem get {f : σ → EStateM ε σ β} (rest : Ensues s (f s) R E) : Ensues s (MonadState.get >>= f) R E := by
  rintro t rfl
  exact rest t rfl

theorem modify (f : σ → σ) : Ensues s (modifyGet fun s => (⟨⟩, f s) : EStateM ε σ PUnit) (fun _ t => t = f s) E := by
  rintro t rfl
  rfl

theorem ite {condition : Prop} [Decidable condition] {x y : EStateM ε σ α} (yes : condition → Ensues s x Q E)
    (no : ¬condition → Ensues s y Q E) : Ensues s (if condition then x else y) Q E := Holds.ite yes no

theorem of_ok {x : EStateM ε σ α} {a : α} {t : σ} (ensues : Ensues s x Q E) (ran : x s = .ok a t) : Q a t := by
  have ends := ensues s rfl
  rw [ran] at ends
  exact ends

theorem of_error {x : EStateM ε σ α} {e : ε} {t : σ} (ensues : Ensues s x Q E)
    (ran : x s = .error e t) : E e t := by
  have ends := ensues s rfl
  rw [ran] at ends
  exact ends

end Ensues

section Errors
variable {ε' : Type}

theorem ofExcept_ensues {x : Except ε α} {s : σ} {Q : α → σ → Prop} {E : ε → σ → Prop} (ok : ∀ a, x = .ok a → Q a s)
    (error : ∀ e, x = .error e → E e s) : Ensues s (MonadExcept.ofExcept x) Q E := by
  cases x with
  | ok a => exact .pure (ok a rfl)
  | error e => exact .throw (error e rfl)

/-- The same computation under another type of errors. -/
def adapt (f : ε → ε') (x : EStateM ε σ α) : EStateM ε' σ α := fun s =>
  match x s with
  | .ok a t => .ok a t
  | .error e t => .error (f e) t

theorem adapt_ensues {f : ε → ε'} {x : EStateM ε σ α} {s : σ} {Q : α → σ → Prop} {E : ε' → σ → Prop}
    (ensues : Ensues s x Q fun e => E (f e)) : Ensues s (adapt f x) Q E := by
  rintro s rfl
  have ends := ensues s rfl
  unfold adapt
  cases ran : x s with
  | ok a t =>
    rw [ran] at ends
    exact ends
  | error e t =>
    rw [ran] at ends
    exact ends

end Errors

section OnPart
variable {τ : Type}

/-- A computation on a part of the state. -/
def onPart (part : σ → τ) (put : σ → τ → σ) (x : EStateM ε τ α) : EStateM ε σ α := fun s =>
  match x (part s) with
  | .ok a t => .ok a (put s t)
  | .error e t => .error e (put s t)

theorem onPart_ensues {part : σ → τ} {put : σ → τ → σ} {x : EStateM ε τ α} {s : σ} {Q : α → τ → Prop}
    {E : ε → τ → Prop} {R : α → σ → Prop} {F : ε → σ → Prop} (ensues : Ensues (part s) x Q E)
    (post : ∀ a t, Q a t → R a (put s t)) (error : ∀ e t, E e t → F e (put s t)) :
    Ensues s (onPart part put x) R F := by
  rintro s rfl
  have ends := ensues (part s) rfl
  unfold onPart
  cases ran : x (part s) with
  | ok a t =>
    rw [ran] at ends
    exact post a t ends
  | error e t =>
    rw [ran] at ends
    exact error e t ends

end OnPart

/-- The computation keeps a property of the state, whether it succeeds or fails. -/
def Keeps (I : σ → Prop) (x : EStateM ε σ α) : Prop := Holds I x (fun _ => I) (fun _ => I)

namespace Keeps
variable {I : σ → Prop}

theorem pure (a : α) : Keeps I (Pure.pure a : EStateM ε σ α) := Holds.pure fun _ holds => holds

theorem throw (e : ε) : Keeps I (MonadExcept.throw e : EStateM ε σ α) := Holds.throw fun _ holds => holds

theorem bind {x : EStateM ε σ α} {f : α → EStateM ε σ β} (first : Keeps I x) (rest : ∀ a, Keeps I (f a)) :
    Keeps I (x >>= f) := Holds.bind first rest

theorem ite {condition : Prop} [Decidable condition] {x y : EStateM ε σ α} (yes : condition → Keeps I x)
    (no : ¬condition → Keeps I y) : Keeps I (if condition then x else y) := Holds.ite yes no

theorem forM {f : β → EStateM ε σ PUnit} (l : List β) (each : ∀ b ∈ l, Keeps I (f b)) : Keeps I (l.forM f) :=
  Holds.forM l each

end Keeps

/-- The computation leaves this view of the state as it was. -/
def Frames {τ : Type} (view : σ → τ) (x : EStateM ε σ α) : Prop := ∀ v, Keeps (fun s => view s = v) x

namespace Frames
variable {τ : Type} {view : σ → τ}

theorem pure (a : α) : Frames view (Pure.pure a : EStateM ε σ α) := fun _ => .pure a

theorem throw (e : ε) : Frames view (MonadExcept.throw e : EStateM ε σ α) := fun _ => .throw e

theorem bind {x : EStateM ε σ α} {f : α → EStateM ε σ β} (first : Frames view x) (rest : ∀ a, Frames view (f a)) :
    Frames view (x >>= f) := fun v => .bind (first v) fun a => rest a v

theorem ite {condition : Prop} [Decidable condition] {x y : EStateM ε σ α} (yes : Frames view x)
    (no : Frames view y) : Frames view (if condition then x else y) := fun v => .ite (fun _ => yes v) fun _ => no v

/-- What holds of the view before the computation holds after it. -/
theorem holds {P : τ → Prop} {E : ε → σ → Prop} {x : EStateM ε σ α} (frames : Frames view x)
    (error : ∀ e s, P (view s) → E e s) : Holds (fun s => P (view s)) x (fun _ s => P (view s)) E := by
  intro s start
  have step := frames (view s) s rfl
  cases run : x s with
  | ok a s' =>
    rw [run] at step
    exact (congrArg P step).mpr start
  | error e s' =>
    rw [run] at step
    exact error e s' ((congrArg P step).mpr start)

theorem keeps {P : τ → Prop} {x : EStateM ε σ α} (frames : Frames view x) : Keeps (fun s => P (view s)) x :=
  frames.holds fun _ _ holds => holds

end Frames

end Holds

/-- The state after a computation, whether it succeeded or failed. -/
def after {ε σ α : Type} (x : EStateM ε σ α) (s : σ) : σ :=
  match x s with
  | .ok _ s' => s'
  | .error _ s' => s'

theorem Keeps.after {ε σ α : Type} {I : σ → Prop} {x : EStateM ε σ α} (keeps : Keeps I x) {s : σ} (start : I s) :
    I (after x s) := by
  have step := keeps s start
  unfold Action.after
  cases run : x s with
  | ok a s' =>
    rw [run] at step
    exact step
  | error e s' =>
    rw [run] at step
    exact step

theorem Ensues.after {ε σ α : Type} {s : σ} {x : EStateM ε σ α} {P : σ → Prop}
    (ensues : Ensues s x (fun _ => P) fun _ => P) : P (after x s) := by
  have ends := ensues s rfl
  unfold Action.after
  cases run : x s with
  | ok a s' =>
    rw [run] at ends
    exact ends
  | error e s' =>
    rw [run] at ends
    exact ends

/-- What every step keeps, every run keeps. -/
theorem foldl_keeps {σ ι : Type} {I : σ → Prop} {step : σ → ι → σ} (keeps : ∀ s i, I s → I (step s i))
    (run : List ι) {s : σ} (start : I s) : I (run.foldl step s) := by
  induction run generalizing s with
  | nil => exact start
  | cons i rest ih => exact ih (keeps s i start)

end Millrace.Action
