import Testbed.Task

/-!
# Watching programs

A monitor follows the requests of a program and their replies. It keeps a state, which every
request changes once it is answered, and says which requests may be made in a state. `Prog.wp` is
what has to hold of the state before a program, so that each of its runs makes only such requests
and ends in a given condition. A task has two ends, hence `Task.wp` has two conditions.
-/

namespace Testbed

structure Monitor (I : Interface) (σ : Type) where
  step : σ → Prog.Event I → σ
  allows : σ → I.Request → Prop

namespace Monitor

variable {I : Interface} {σ : Type}

/-- The state after the events of a trace. -/
def after (M : Monitor I σ) (s : σ) (t : List (Prog.Event I)) : σ :=
  t.foldl M.step s

/-- Each request of a trace may be made in the state in which it is made. -/
def Accepts (M : Monitor I σ) : σ → List (Prog.Event I) → Prop
  | _, [] => True
  | s, e :: t => M.allows s e.request ∧ M.Accepts (M.step s e) t

/-- Requests that may be made in a state and do not change it. -/
def IgnoresAt (M : Monitor I σ) (s : σ) (P : I.Request → Prop) : Prop :=
  ∀ r, P r → M.allows s r ∧ ∀ b, M.step s ⟨r, b⟩ = s

/-- Requests that may always be made and change nothing. -/
def Ignores (M : Monitor I σ) (P : I.Request → Prop) : Prop :=
  ∀ r, P r → ∀ s, M.allows s r ∧ ∀ b, M.step s ⟨r, b⟩ = s

theorem Ignores.at {M : Monitor I σ} {P : I.Request → Prop} (h : M.Ignores P) (s : σ) :
    M.IgnoresAt s P :=
  fun r hr => h r hr s

theorem Ignores.mono {M : Monitor I σ} {P P' : I.Request → Prop} (h : M.Ignores P)
    (hP : ∀ r, P' r → P r) : M.Ignores P' :=
  fun r hr => h r (hP r hr)

@[simp] theorem after_cons (M : Monitor I σ) (s : σ) (e : Prog.Event I)
    (t : List (Prog.Event I)) : M.after s (e :: t) = M.after (M.step s e) t := rfl

theorem after_append (M : Monitor I σ) (s : σ) (t u : List (Prog.Event I)) :
    M.after s (t ++ u) = M.after (M.after s t) u :=
  List.foldl_append

theorem Accepts.later {M : Monitor I σ} {s : σ} {t u : List (Prog.Event I)}
    (h : M.Accepts s (t ++ u)) : M.Accepts (M.after s t) u := by
  induction t generalizing s with
  | nil => exact h
  | cons _ t ih => exact ih h.2

theorem Accepts.before {M : Monitor I σ} {s : σ} {t u : List (Prog.Event I)}
    (h : M.Accepts s (t ++ u)) : M.Accepts s t := by
  induction t generalizing s with
  | nil => trivial
  | cons _ t ih => exact ⟨h.1, ih h.2⟩

theorem Accepts.allows {M : Monitor I σ} {s : σ} {t u : List (Prog.Event I)} {e : Prog.Event I}
    (h : M.Accepts s (t ++ e :: u)) : M.allows (M.after s t) e.request :=
  h.later.1

end Monitor

/-! ## Programs -/

namespace Prog

variable {I : Interface} {σ α β : Type}

/-- Every run of the program from `s` makes only requests that the monitor allows, and `Q` holds of
its result and of the state it ends in. -/
def wp (M : Monitor I σ) : Prog I α → (α → σ → Prop) → σ → Prop
  | .done a, Q, s => Q a s
  | .ask r next, Q, s => M.allows s r ∧ ∀ b, (next b).wp M Q (M.step s ⟨r, b⟩)
  | .diverge, _, _ => True

variable {M : Monitor I σ} {Q R : α → σ → Prop} {s : σ}

@[simp] theorem wp_done {a : α} : (Prog.done a : Prog I α).wp M Q s ↔ Q a s := .rfl

@[simp] theorem wp_diverge : (Prog.diverge : Prog I α).wp M Q s := trivial

@[simp] theorem wp_bind {p : Prog I α} {f : α → Prog I β} {Q : β → σ → Prop} :
    (p >>= f).wp M Q s ↔ p.wp M (fun a => (f a).wp M Q) s := by
  induction p generalizing s with
  | done => rfl
  | ask r next ih => exact and_congr_right fun _ => forall_congr' fun b => ih b
  | diverge => rfl

theorem wp_request_bind {r : I.Request} {f : I.Reply r → Prog I β} {Q : β → σ → Prop} :
    (Prog.request r >>= f).wp M Q s ↔
      M.allows s r ∧ ∀ b, (f b).wp M Q (M.step s ⟨r, b⟩) := .rfl

@[simp] theorem wp_map {p : Prog I α} {f : α → β} {Q : β → σ → Prop} :
    (f <$> p).wp M Q s ↔ p.wp M (fun a => Q (f a)) s := by
  rw [map_eq_pure_bind, wp_bind]
  rfl

theorem wp_mono {p : Prog I α} (h : ∀ a s, Q a s → R a s) (hp : p.wp M Q s) : p.wp M R s := by
  induction p generalizing s with
  | done => exact h _ _ hp
  | ask r next ih => exact ⟨hp.1, fun b => ih b (hp.2 b)⟩
  | diverge => trivial

/-- A program and what follows it. -/
theorem wp_seq {p : Prog I α} {f : α → Prog I β} {Q : β → σ → Prop} (hp : p.wp M R s)
    (hf : ∀ a s, R a s → (f a).wp M Q s) : (p >>= f).wp M Q s :=
  wp_bind.2 (wp_mono hf hp)

/-- What holds between the states before and after each step, holds between the states before and
after a program. -/
theorem wp_rel {S : σ → σ → Prop} {p : Prog I α} (refl : ∀ s, S s s)
    (trans : ∀ {s₁ s₂ s₃}, S s₁ s₂ → S s₂ s₃ → S s₁ s₃) (step : ∀ s e, S s (M.step s e))
    (hp : p.wp M Q s) : p.wp M (fun a s' => Q a s' ∧ S s s') s := by
  induction p generalizing s with
  | done a => exact ⟨hp, refl s⟩
  | ask r next ih =>
    refine ⟨hp.1, fun b => wp_mono ?_ (ih b (hp.2 b))⟩
    exact fun _ _ h => ⟨h.1, trans (step s _) h.2⟩
  | diverge => trivial

/-- What another monitor says about the results of a program, whatever its own states are. -/
theorem wp_and_result {τ : Type} {N : Monitor I τ} {n : τ} {P : α → Prop} {p : Prog I α}
    (hp : p.wp M Q s) (hN : p.wp N (fun a _ => P a) n) : p.wp M (fun a s => Q a s ∧ P a) s := by
  induction p generalizing s n with
  | done a => exact ⟨hp, hN⟩
  | ask r next ih => exact ⟨hp.1, fun b => ih b (hp.2 b) (hN.2 b)⟩
  | diverge => trivial

theorem wp_reaches {p : Prog I α} {t : List (Event I)} (hp : p.wp M Q s) (ht : Reaches p t) :
    M.Accepts s t := by
  induction ht generalizing s with
  | start => trivial
  | ask b _ ih => exact ⟨hp.1, ih (hp.2 b)⟩

theorem wp_yields {p : Prog I α} {t : List (Event I)} {a : α} (hp : p.wp M Q s)
    (ht : Yields p t a) : Q a (M.after s t) := by
  induction ht generalizing s with
  | done => exact hp
  | ask b _ ih => exact ih (hp.2 b)

/-- A monitor that allows everything has only the ends of runs to tell of. -/
theorem wp_of_yields {p : Prog I α} (allows : ∀ s r, M.allows s r)
    (h : ∀ t a, Yields p t a → Q a (M.after s t)) : p.wp M Q s := by
  induction p generalizing s with
  | done a => exact h [] a (.done a)
  | ask r next ih => exact ⟨allows s r, fun b => ih b fun t a ht => h (⟨r, b⟩ :: t) a (.ask b ht)⟩
  | diverge => trivial

/-! ### Beginnings of runs -/

theorem reaches_bind {p : Prog I α} {f : α → Prog I β} {t : List (Event I)} :
    Reaches (p >>= f) t ↔
      Reaches p t ∨ ∃ s u a, t = s ++ u ∧ Yields p s a ∧ Reaches (f a) u := by
  constructor
  · intro h
    induction p generalizing t with
    | done a => exact .inr ⟨[], t, a, rfl, .done a, h⟩
    | ask r next ih =>
      cases h with
      | start => exact .inl (.start _)
      | ask b rest =>
        rcases ih b rest with early | ⟨s, u, a, rfl, hs, hu⟩
        · exact .inl (.ask b early)
        · exact .inr ⟨_ :: s, u, a, rfl, .ask b hs, hu⟩
    | diverge =>
      cases h
      exact .inl (.start _)
  · rintro (early | ⟨s, u, a, rfl, hs, hu⟩)
    · induction early with
      | start => exact .start _
      | ask b _ ih => exact .ask b ih
    · induction hs with
      | done => exact hu
      | ask b _ ih => exact .ask b (ih hu)

/-- Where the last event of a beginning belongs. -/
theorem reaches_bind_last {p : Prog I α} {f : α → Prog I β} {t : List (Event I)} {e : Event I}
    (h : Reaches (p >>= f) (t ++ [e])) :
    Reaches p (t ++ [e]) ∨
      ∃ s u a, t = s ++ u ∧ Yields p s a ∧ Reaches (f a) (u ++ [e]) := by
  rcases reaches_bind.1 h with early | ⟨s, u, a, eq, hs, hu⟩
  · exact .inl early
  · rcases List.eq_nil_or_concat u with rfl | ⟨u, e', rfl⟩
    · -- The first program has just ended with this event.
      rw [List.append_nil] at eq
      exact .inl (eq ▸ hs.reaches)
    · rw [List.concat_eq_append, ← List.append_assoc] at eq
      rw [List.concat_eq_append] at hu
      obtain ⟨rfl, last⟩ := List.append_inj' eq rfl
      cases last
      exact .inr ⟨s, u, a, rfl, hs, hu⟩

theorem Reaches.before {p : Prog I α} {t u : List (Event I)} (h : Reaches p (t ++ u)) :
    Reaches p t := by
  induction t generalizing p with
  | nil => exact .start p
  | cons e t ih =>
    cases h with
    | ask b rest => exact .ask b (ih rest)

/-! ### Single runs -/

/-- The run of a program in surroundings that always reply to a request in the same way. -/
def play (answer : (r : I.Request) → I.Reply r) : Prog I α → List (Event I) × Option α
  | .done a => ([], some a)
  | .ask r next =>
    let (t, a) := (next (answer r)).play answer
    (⟨r, answer r⟩ :: t, a)
  | .diverge => ([], none)

theorem yields_play (answer : (r : I.Request) → I.Reply r) {p : Prog I α} {a : α}
    (h : (p.play answer).2 = some a) : Yields p (p.play answer).1 a := by
  induction p with
  | done => cases h; exact .done _
  | ask r next ih => exact .ask _ (ih _ h)
  | diverge => cases h

/-- A run whose result is known only in part. -/
theorem exists_yields_play (answer : (r : I.Request) → I.Reply r) {p : Prog I α} {f : α → Option β}
    {b : β} (h : (p.play answer).2.bind f = some b) :
    ∃ a, f a = some b ∧ Yields p (p.play answer).1 a := by
  obtain ⟨a, ends, part⟩ := Option.bind_eq_some_iff.1 h
  exact ⟨a, part, yields_play answer ends⟩

/-! ### Programs with few requests -/

/-- The program makes requests of one kind only. -/
def Only (P : I.Request → Prop) : Prog I α → Prop
  | .done _ | .diverge => True
  | .ask r next => P r ∧ ∀ b, (next b).Only P

variable {P : I.Request → Prop}

theorem Only.bind {p : Prog I α} {f : α → Prog I β} (hp : p.Only P) (hf : ∀ a, (f a).Only P) :
    (p >>= f).Only P := by
  induction p with
  | done a => exact hf a
  | ask r next ih => exact ⟨hp.1, fun b => ih b (hp.2 b)⟩
  | diverge => trivial

theorem Only.mono {P' : I.Request → Prop} {p : Prog I α} (hp : p.Only P)
    (h : ∀ r, P r → P' r) : p.Only P' := by
  induction p with
  | done => trivial
  | ask r next ih => exact ⟨h r hp.1, fun b => ih b (hp.2 b)⟩
  | diverge => trivial

theorem Only.reaches {p : Prog I α} {t : List (Event I)} (hp : p.Only P) (ht : Reaches p t) :
    ∀ e ∈ t, P e.request := by
  induction ht with
  | start => simp
  | ask b _ ih => simpa using ⟨hp.1, ih (hp.2 b)⟩

/-- A monitor does not notice a program whose requests it ignores in this state. -/
theorem Only.wp_at {p : Prog I α} (hp : p.Only P) (hM : M.IgnoresAt s P) (h : ∀ a, Q a s) :
    p.wp M Q s := by
  induction p with
  | done a => exact h a
  | ask r next ih =>
    refine ⟨(hM r hp.1).1, fun b => ?_⟩
    rw [(hM r hp.1).2 b]
    exact ih b (hp.2 b)
  | diverge => trivial

theorem Only.wp {p : Prog I α} (hp : p.Only P) (hM : M.Ignores P) (h : ∀ a, Q a s) :
    p.wp M Q s :=
  hp.wp_at (hM.at s) h

theorem Only.wp_seq {p : Prog I α} {f : α → Prog I β} {Q : β → σ → Prop} (hp : p.Only P)
    (hM : M.Ignores P) (hf : ∀ a, (f a).wp M Q s) : (p >>= f).wp M Q s :=
  wp_bind.2 (hp.wp hM hf)

/-! ### Programs that end -/

/-- The program makes requests of one kind only, and whatever is replied, it comes to an end. -/
def Finishes (P : I.Request → Prop) : Prog I α → Prop
  | .done _ => True
  | .ask r next => P r ∧ ∀ b, (next b).Finishes P
  | .diverge => False

theorem finishes_request {r : I.Request} (h : P r) :
    (request r : Prog I (I.Reply r)).Finishes P :=
  ⟨h, fun _ => trivial⟩

theorem Finishes.bind {p : Prog I α} {f : α → Prog I β} (hp : p.Finishes P)
    (hf : ∀ a, (f a).Finishes P) : (p >>= f).Finishes P := by
  induction p with
  | done a => exact hf a
  | ask r next ih => exact ⟨hp.1, fun b => ih b (hp.2 b)⟩
  | diverge => exact hp.elim

theorem Finishes.mono {P' : I.Request → Prop} {p : Prog I α} (hp : p.Finishes P)
    (h : ∀ r, P r → P' r) : p.Finishes P' := by
  induction p with
  | done => trivial
  | ask r next ih => exact ⟨h r hp.1, fun b => ih b (hp.2 b)⟩
  | diverge => exact hp.elim

theorem Finishes.only {p : Prog I α} (hp : p.Finishes P) : p.Only P := by
  induction p with
  | done => trivial
  | ask r next ih => exact ⟨hp.1, fun b => ih b (hp.2 b)⟩
  | diverge => trivial

/-! ### Runs that do not end -/

/-- `Diverges p t`: there are surroundings in which `p` makes the requests of `t`, gets the replies
of `t`, and then diverges. -/
inductive Diverges : Prog I α → List (Event I) → Prop
  | here : Diverges .diverge []
  | ask {r : I.Request} {next : I.Reply r → Prog I α} {t : List (Event I)} (b : I.Reply r)
      (rest : Diverges (next b) t) : Diverges (.ask r next) (⟨r, b⟩ :: t)

theorem diverges_bind {p : Prog I α} {f : α → Prog I β} {t : List (Event I)} :
    Diverges (p >>= f) t ↔
      Diverges p t ∨ ∃ s u a, t = s ++ u ∧ Yields p s a ∧ Diverges (f a) u := by
  constructor
  · intro h
    induction p generalizing t with
    | done a => exact .inr ⟨[], t, a, rfl, .done a, h⟩
    | ask r next ih =>
      cases h with
      | ask b rest =>
        rcases ih b rest with early | ⟨s, u, a, rfl, hs, hu⟩
        · exact .inl (.ask b early)
        · exact .inr ⟨_ :: s, u, a, rfl, .ask b hs, hu⟩
    | diverge =>
      cases h
      exact .inl .here
  · rintro (early | ⟨s, u, a, rfl, hs, hu⟩)
    · induction early with
      | here => exact .here
      | ask b _ ih => exact .ask b ih
    · induction hs with
      | done => exact hu
      | ask b _ ih => exact .ask b (ih hu)

theorem Finishes.not_diverges {p : Prog I α} {t : List (Event I)}
    (h : p.Finishes P) : ¬ Diverges p t := by
  intro diverges
  induction diverges with
  | here => exact h
  | ask b _ ih => exact ih (h.2 b)

/-- In surroundings that always reply to a request in the same way, a program without a result
diverges. -/
theorem diverges_play (answer : (r : I.Request) → I.Reply r) {p : Prog I α}
    (h : (p.play answer).2 = none) : Diverges p (p.play answer).1 := by
  induction p with
  | done => cases h
  | ask r next ih => exact .ask _ (ih _ h)
  | diverge => exact .here

/-- What diverges after a program that comes to an end is what follows it. -/
theorem Diverges.after {p : Prog I α} {f : α → Prog I β}
    {t : List (Event I)} (h : Diverges (p >>= f) t) (ends : p.Finishes P) :
    ∃ s u a, t = s ++ u ∧ Yields p s a ∧ Diverges (f a) u :=
  (diverges_bind.1 h).resolve_left ends.not_diverges

end Prog

/-! ## Wider interfaces -/

/-- The events on the left. -/
def Prog.Event.left? {I J : Interface} : Prog.Event (I.sum J) → Option (Prog.Event I)
  | ⟨.inl r, b⟩ => some ⟨r, b⟩
  | ⟨.inr _, _⟩ => none

/-- Watches only the requests on the left. -/
def Monitor.inLeft {I : Interface} {σ : Type} (M : Monitor I σ) (J : Interface) :
    Monitor (I.sum J) σ where
  step s e := e.left?.elim s (M.step s)
  allows s
    | .inl r => M.allows s r
    | .inr _ => True

section Left

variable {I J : Interface} {σ α : Type} {M : Monitor I σ} {s : σ}

/-- Requests on the right are not watched. -/
theorem Monitor.inLeft_ignores : (M.inLeft J).Ignores (fun r => r.isRight) := by
  rintro (r | r) h s
  · cases h
  · exact ⟨trivial, fun b => rfl⟩

theorem Monitor.after_inLeft (t : List (Prog.Event (I.sum J))) :
    (M.inLeft J).after s t = M.after s (t.filterMap Prog.Event.left?) := by
  induction t generalizing s with
  | nil => rfl
  | cons e t ih =>
    obtain ⟨r | r, b⟩ := e <;> exact ih

theorem Monitor.Accepts.left {t : List (Prog.Event (I.sum J))} (h : (M.inLeft J).Accepts s t) :
    M.Accepts s (t.filterMap Prog.Event.left?) := by
  induction t generalizing s with
  | nil => trivial
  | cons e t ih =>
    obtain ⟨r | r, b⟩ := e
    · exact ⟨h.1, ih h.2⟩
    · exact ih h.2

theorem Prog.wp_inLeft {p : Prog I α} {Q : α → σ → Prop} :
    (p.inLeft : Prog (I.sum J) α).wp (M.inLeft J) Q s ↔ p.wp M Q s := by
  induction p generalizing s with
  | done => rfl
  | ask r next ih => exact and_congr_right fun _ => forall_congr' fun b => ih b
  | diverge => rfl

theorem Prog.Yields.left {p : Prog I α} {t : List (Prog.Event (I.sum J))} {a : α}
    (h : Prog.Yields (p.inLeft : Prog (I.sum J) α) t a) :
    Prog.Yields p (t.filterMap Prog.Event.left?) a := by
  induction p generalizing t with
  | done => cases h; exact .done _
  | ask r next ih =>
    cases h with
    | @ask _ _ t _ b rest =>
      -- The type of the reply is that of a reply on the left only once the sum is unfolded.
      have rest : Yields (next b) (t.filterMap Event.left?) a := ih b rest
      exact @Yields.ask I α r next _ a b rest
  | diverge => cases h

theorem Prog.Reaches.left {p : Prog I α} {t : List (Prog.Event (I.sum J))}
    (h : Prog.Reaches (p.inLeft : Prog (I.sum J) α) t) :
    Prog.Reaches p (t.filterMap Prog.Event.left?) := by
  induction p generalizing t with
  | done => cases h; exact .start _
  | ask r next ih =>
    cases h with
    | start => exact .start _
    | @ask _ _ t b rest =>
      have rest : Reaches (next b) (t.filterMap Event.left?) := ih b rest
      exact @Reaches.ask I α r next _ b rest
  | diverge => cases h; exact .start _

theorem Prog.Only.inLeft {P : I.Request → Prop} {p : Prog I α} (h : p.Only P) :
    (p.inLeft : Prog (I.sum J) α).Only (Sum.elim P fun _ => True) := by
  induction p with
  | done => trivial
  | ask r next ih => exact ⟨h.1, fun b => ih b (h.2 b)⟩
  | diverge => trivial

end Left

/-! ## Tasks -/

namespace Task

variable {I : Interface} {σ ε α β : Type}

/-- `Q` of a result, `E` of a failure. -/
def ends (Q : α → σ → Prop) (E : ε → σ → Prop) : Except ε α → σ → Prop
  | .ok a => Q a
  | .error e => E e

/-- Every run of the task from `s` makes only requests that the monitor allows. It ends in `Q`, or
in `E` if it fails. -/
def wp (M : Monitor I σ) (task : ExceptT ε (Prog I) α) (Q : α → σ → Prop) (E : ε → σ → Prop)
    (s : σ) : Prop :=
  Prog.wp M task.run (ends Q E) s

section Laws

variable {M : Monitor I σ} {Q R : α → σ → Prop} {E F : ε → σ → Prop} {s : σ}

@[simp] theorem wp_pure {a : α} : wp M (pure a : ExceptT ε (Prog I) α) Q E s ↔ Q a s := .rfl

@[simp] theorem wp_throw {e : ε} : wp M (throw e : ExceptT ε (Prog I) α) Q E s ↔ E e s := .rfl

@[simp] theorem wp_mk {p : Prog I (Except ε α)} :
    wp M (ExceptT.mk p) Q E s ↔ Prog.wp M p (ends Q E) s := .rfl

@[simp] theorem wp_bind {task : ExceptT ε (Prog I) α} {f : α → ExceptT ε (Prog I) β}
    {Q : β → σ → Prop} : wp M (task >>= f) Q E s ↔ wp M task (fun a => wp M (f a) Q E) E s := by
  refine Prog.wp_bind.trans (iff_of_eq (congrArg (Prog.wp M task.run · s) (funext fun r => ?_)))
  cases r <;> rfl

@[simp] theorem wp_lift {p : Prog I α} :
    wp M (liftM p : ExceptT ε (Prog I) α) Q E s ↔ Prog.wp M p Q s :=
  Prog.wp_map

@[simp] theorem wp_discard {task : ExceptT ε (Prog I) α} {Q : Unit → σ → Prop} :
    wp M (discard task) Q E s ↔ wp M task (fun _ => Q ()) E s := by
  refine Prog.wp_bind.trans (iff_of_eq (congrArg (Prog.wp M task.run · s) (funext fun r => ?_)))
  cases r <;> rfl

/-- Running a task and going on with its outcome. -/
theorem wp_run_bind {task : ExceptT ε (Prog I) α} {f : Except ε α → Prog I β}
    {Q : β → σ → Prop} :
    Prog.wp M (task.run >>= f) Q s ↔
      wp M task (fun a => Prog.wp M (f (.ok a)) Q) (fun e => Prog.wp M (f (.error e)) Q) s := by
  refine Prog.wp_bind.trans (iff_of_eq (congrArg (Prog.wp M task.run · s) (funext fun r => ?_)))
  cases r <;> rfl

theorem wp_mono {task : ExceptT ε (Prog I) α} (hQ : ∀ a s, Q a s → R a s)
    (hE : ∀ e s, E e s → F e s) (h : wp M task Q E s) : wp M task R F s :=
  Prog.wp_mono (fun
    | .ok a => hQ a
    | .error e => hE e) h

/-- A task that asks no more of a failure. -/
theorem wp_weaken {task : ExceptT ε (Prog I) α} (hE : ∀ e s, E e s → F e s)
    (h : wp M task Q E s) : wp M task Q F s :=
  wp_mono (fun _ _ hQ => hQ) hE h

theorem wp_and_result {τ : Type} {N : Monitor I τ} {n : τ} {P : α → Prop} {F : ε → τ → Prop}
    {task : ExceptT ε (Prog I) α} (h : wp M task Q E s) (hN : wp N task (fun a _ => P a) F n) :
    wp M task (fun a s => Q a s ∧ P a) E s := by
  have result := Prog.wp_and_result (P := fun r => ∀ a, r = .ok a → P a) h <|
    Prog.wp_mono (fun
      | .ok _ => fun _ hP _ eq => Except.ok.inj eq ▸ hP
      | .error _ => fun _ _ _ => nofun) hN
  exact Prog.wp_mono (fun
    | .ok a => fun _ both => ⟨both.1, both.2 a rfl⟩
    | .error _ => fun _ both => both.1) result

/-- A task and what follows it if it succeeds. -/
theorem wp_seq {task : ExceptT ε (Prog I) α} {f : α → ExceptT ε (Prog I) β}
    {Q : β → σ → Prop} (h : wp M task R E s) (hf : ∀ a s, R a s → wp M (f a) Q E s) :
    wp M (task >>= f) Q E s :=
  wp_bind.2 (wp_mono hf (fun _ _ hE => hE) h)

end Laws

/-! ### Runs of tasks -/

theorem yields_bind {task : ExceptT ε (Prog I) α} {f : α → ExceptT ε (Prog I) β}
    {t : List (Prog.Event I)} {b : β} (h : Prog.Yields (task >>= f).run t (.ok b)) :
    ∃ s u a, t = s ++ u ∧ Prog.Yields task.run s (.ok a) ∧ Prog.Yields (f a).run u (.ok b) := by
  obtain ⟨s, u, r, rfl, hs, hu⟩ := Prog.yields_bind.1 h
  cases r with
  | ok a => exact ⟨s, u, a, rfl, hs, hu⟩
  | error e => cases hu

theorem yields_bind_error {task : ExceptT ε (Prog I) α} {f : α → ExceptT ε (Prog I) β}
    {t : List (Prog.Event I)} {e : ε} (h : Prog.Yields (task >>= f).run t (.error e)) :
    Prog.Yields task.run t (.error e) ∨
      ∃ s u a, t = s ++ u ∧ Prog.Yields task.run s (.ok a) ∧
        Prog.Yields (f a).run u (.error e) := by
  obtain ⟨s, u, r, rfl, hs, hu⟩ := Prog.yields_bind.1 h
  cases r with
  | ok a => exact .inr ⟨s, u, a, rfl, hs, hu⟩
  | error e =>
    cases hu
    rw [List.append_nil]
    exact .inl hs

theorem yields_lift {p : Prog I α} {t : List (Prog.Event I)} {a : α}
    (h : Prog.Yields (liftM p : ExceptT ε (Prog I) α).run t (.ok a)) : Prog.Yields p t a := by
  change Prog.Yields (Except.ok <$> p) t (.ok a) at h
  rw [map_eq_pure_bind] at h
  obtain ⟨s, u, a', rfl, hs, hu⟩ := Prog.yields_bind.1 h
  cases hu
  rwa [List.append_nil]

theorem yields_discard {task : ExceptT ε (Prog I) α} {t : List (Prog.Event I)} {r : Except ε Unit}
    (h : Prog.Yields (discard task).run t r) :
    ∃ r', Prog.Yields task.run t r' ∧ r = r'.map fun _ => () := by
  obtain ⟨_, _, r', rfl, first, returns⟩ := Prog.yields_bind.1 h
  cases r' <;>
  · cases returns
    rw [List.append_nil]
    exact ⟨_, first, rfl⟩

/-- A program that is no task does not fail. -/
theorem not_yields_lift_error {p : Prog I α} {t : List (Prog.Event I)} {e : ε} :
    ¬ Prog.Yields (liftM p : ExceptT ε (Prog I) α).run t (.error e) := by
  intro h
  change Prog.Yields (Except.ok <$> p) t (.error e) at h
  rw [map_eq_pure_bind] at h
  obtain ⟨_, _, _, _, _, returns⟩ := Prog.yields_bind.1 h
  cases returns

theorem not_yields_outcome_error {task : Task I α} {t : List (Prog.Event I)} {e : Error} :
    ¬ Prog.Yields task.outcome.run t (.error e) :=
  not_yields_lift_error (p := task.run)

theorem yields_onFailure {task : Task I α} {cleanup : Error → Prog I Unit}
    {t : List (Prog.Event I)} {a : α} (h : Prog.Yields (task.onFailure cleanup).run t (.ok a)) :
    Prog.Yields task.run t (.ok a) := by
  obtain ⟨s, u, r, rfl, hs, hu⟩ := Prog.yields_bind.1 h
  cases r with
  | ok a' =>
    cases hu
    rwa [List.append_nil]
  | error e =>
    obtain ⟨_, _, _, _, _, rest⟩ := Prog.yields_bind.1 hu
    cases rest

/-- A task that fails and cleans up has failed before, with the same error. -/
theorem yields_onFailure_error {task : Task I α} {cleanup : Error → Prog I Unit}
    {t : List (Prog.Event I)} {e : Error}
    (h : Prog.Yields (task.onFailure cleanup).run t (.error e)) :
    ∃ s u, t = s ++ u ∧ Prog.Yields task.run s (.error e) ∧ Prog.Yields (cleanup e) u () := by
  obtain ⟨s, u, r, rfl, hs, hu⟩ := Prog.yields_bind.1 h
  cases r with
  | ok a => cases hu
  | error e' =>
    obtain ⟨v, w, _, rfl, hv, hw⟩ := Prog.yields_bind.1 hu
    cases hw
    exact ⟨s, v, by rw [List.append_nil], hs, hv⟩

theorem yields_mapError {task : Task I α} {wrap : Error → Error} {t : List (Prog.Event I)} {a : α}
    (h : Prog.Yields (task.mapError wrap).run t (.ok a)) : Prog.Yields task.run t (.ok a) := by
  obtain ⟨s, u, r, rfl, hs, hu⟩ := Prog.yields_bind.1 h
  cases r with
  | ok a' =>
    cases hu
    rwa [List.append_nil]
  | error e => cases hu

theorem diverges_bind {task : ExceptT ε (Prog I) α} {f : α → ExceptT ε (Prog I) β}
    {t : List (Prog.Event I)} (h : Prog.Diverges (task >>= f).run t) :
    Prog.Diverges task.run t ∨
      ∃ s u a, t = s ++ u ∧ Prog.Yields task.run s (.ok a) ∧ Prog.Diverges (f a).run u := by
  rcases Prog.diverges_bind.1 h with early | ⟨s, u, r, rfl, hs, hu⟩
  · exact .inl early
  · cases r with
    | ok a => exact .inr ⟨s, u, a, rfl, hs, hu⟩
    | error e => cases hu

theorem diverges_discard {task : ExceptT ε (Prog I) α} {t : List (Prog.Event I)}
    (h : Prog.Diverges (discard task).run t) : Prog.Diverges task.run t := by
  rcases Prog.diverges_bind.1 h with early | ⟨_, _, r, -, -, returns⟩
  · exact early
  · cases r <;> cases returns

theorem diverges_onFailure {task : Task I α} {cleanup : Error → Prog I Unit}
    {P : I.Request → Prop} {t : List (Prog.Event I)}
    (h : Prog.Diverges (task.onFailure cleanup).run t) (ends : ∀ e, (cleanup e).Finishes P) :
    Prog.Diverges task.run t := by
  rcases Prog.diverges_bind.1 h with early | ⟨_, _, r, -, -, rest⟩
  · exact early
  · cases r with
    | ok a => cases rest
    | error e =>
      have finishes : Prog.Finishes P
          (cleanup e >>= fun _ => (pure (.error e) : Prog I (Except Error α))) :=
        (ends e).bind fun _ => trivial
      exact absurd rest finishes.not_diverges

/-- The task makes requests of one kind only. -/
def Only (P : I.Request → Prop) (task : ExceptT ε (Prog I) α) : Prop :=
  Prog.Only P task.run

section Only

variable {P : I.Request → Prop}

theorem Only.bind {task : ExceptT ε (Prog I) α} {f : α → ExceptT ε (Prog I) β} (h : Only P task)
    (hf : ∀ a, Only P (f a)) : Only P (task >>= f) :=
  Prog.Only.bind h fun
    | .ok a => hf a
    | .error _ => trivial

theorem Only.mono {P' : I.Request → Prop} {task : ExceptT ε (Prog I) α} (h : Only P task)
    (hP : ∀ r, P r → P' r) : Only P' task :=
  Prog.Only.mono h hP

theorem Only.lift {p : Prog I α} (h : p.Only P) : Only P (liftM p : ExceptT ε (Prog I) α) :=
  Prog.Only.bind h fun _ => trivial

theorem Only.wp {task : ExceptT ε (Prog I) α} {M : Monitor I σ} {Q : α → σ → Prop}
    {E : ε → σ → Prop} {s : σ} (h : Only P task) (hM : M.Ignores P) (hQ : ∀ a, Q a s)
    (hE : ∀ e, E e s) : wp M task Q E s :=
  Prog.Only.wp h hM fun
    | .ok a => hQ a
    | .error e => hE e

theorem Only.wp_seq {task : ExceptT ε (Prog I) α} {f : α → ExceptT ε (Prog I) β}
    {M : Monitor I σ} {Q : β → σ → Prop} {E : ε → σ → Prop} {s : σ} (h : Only P task)
    (hM : M.Ignores P) (hf : ∀ a, Task.wp M (f a) Q E s) (hE : ∀ e, E e s) :
    Task.wp M (task >>= f) Q E s :=
  wp_bind.2 (h.wp hM hf hE)

/-- A program that cannot fail is no reason for a failure. -/
theorem Only.lift_wp_seq {p : Prog I α} {f : α → ExceptT ε (Prog I) β} {M : Monitor I σ}
    {Q : β → σ → Prop} {E : ε → σ → Prop} {s : σ} (h : p.Only P) (hM : M.Ignores P)
    (hf : ∀ a, Task.wp M (f a) Q E s) :
    Task.wp M ((liftM p : ExceptT ε (Prog I) α) >>= f) Q E s :=
  wp_bind.2 (wp_lift.2 (h.wp hM hf))

/-- What is true of the requests of a program and of those of the task that its result leads to. -/
theorem Only.reaches_lift {p : Prog I α} {f : α → ExceptT ε (Prog I) β} {t : List (Prog.Event I)}
    (hp : p.Only P) (hf : ∀ s a, s ⊆ t → Prog.Yields p s a → Only P (f a))
    (h : Prog.Reaches ((liftM p : ExceptT ε (Prog I) α) >>= f).run t) :
    ∀ e ∈ t, P e.request := by
  change Prog.Reaches (ExceptT.lift p >>= f).run t at h
  rw [ExceptT.run_bind_lift] at h
  rcases Prog.reaches_bind.1 h with early | ⟨s, u, a, rfl, hs, hu⟩
  · exact hp.reaches early
  · have rest : Only P (f a) := hf s a (List.subset_append_left _ _) hs
    intro e hmem
    rcases List.mem_append.1 hmem with hmem | hmem
    · exact hp.reaches hs.reaches e hmem
    · exact Prog.Only.reaches rest hu e hmem

end Only

/-! ### Failing with an error -/

variable {M : Monitor I σ} {Q : α → σ → Prop} {E : Error → σ → Prop} {s : σ}
  {P : I.Request → Prop}

@[simp] theorem wp_onFailure {task : Task I α} {cleanup : Error → Prog I Unit} :
    wp M (task.onFailure cleanup) Q E s ↔
      wp M task Q (fun e => Prog.wp M (cleanup e) fun _ => E e) s := by
  refine wp_run_bind.trans (iff_of_eq (congrArg (wp M task Q · s) (funext fun e => ?_)))
  exact funext fun s => propext Prog.wp_bind

@[simp] theorem wp_mapError {task : Task I α} {wrap : Error → Error} :
    wp M (task.mapError wrap) Q E s ↔ wp M task Q (fun e => E (wrap e)) s :=
  wp_run_bind

theorem wp_outcome {task : Task I α} {Q : Except Error α → σ → Prop} :
    wp M task.outcome Q E s ↔ wp M task (fun a => Q (.ok a)) (fun e => Q (.error e)) s := by
  refine Prog.wp_map.trans (iff_of_eq (congrArg (Prog.wp M task.run · s) (funext fun r => ?_)))
  cases r <;> rfl

theorem Only.onFailure {task : Task I α} {cleanup : Error → Prog I Unit} (h : Only P task)
    (hc : ∀ e, (cleanup e).Only P) : Only P (task.onFailure cleanup) :=
  Prog.Only.bind h fun
    | .ok _ => trivial
    | .error e => Prog.Only.bind (hc e) fun _ => trivial

theorem Only.mapError {task : Task I α} {wrap : Error → Error} (h : Only P task) :
    Only P (task.mapError wrap) :=
  Prog.Only.bind h fun
    | .ok _ => trivial
    | .error _ => trivial

theorem Only.outcome {task : Task I α} (h : Only P task) : Only P task.outcome :=
  Prog.Only.bind h fun _ => trivial

end Task

end Testbed
