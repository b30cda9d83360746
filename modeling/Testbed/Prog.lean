/-!
# Programs

A program asks its surroundings for things (a container engine, a clock, a client process) and
goes on with the replies. It is a tree, with a node for each request and a branch for each reply,
so a fact about every path through the tree is a fact about every surroundings.
-/

namespace Testbed

/-- What can be asked for, and the type of the reply to each request. -/
structure Interface where
  Request : Type
  Reply : Request → Type

/-- Requests of either interface. -/
abbrev Interface.sum (A B : Interface) : Interface where
  Request := A.Request ⊕ B.Request
  Reply := Sum.elim A.Reply B.Reply

/-- A program over `I` with result in `α`. `diverge` stands for a wait that has not ended within
the rounds it was given: the program makes no further request and has no result. -/
inductive Prog (I : Interface) (α : Type) where
  | done (value : α)
  | ask (request : I.Request) (next : I.Reply request → Prog I α)
  | diverge

namespace Prog

variable {I J : Interface} {α β γ : Type}

/-- Makes one request and returns the reply. -/
def request (r : I.Request) : Prog I (I.Reply r) :=
  .ask r .done

def bind : Prog I α → (α → Prog I β) → Prog I β
  | .done a, f => f a
  | .ask r next, f => .ask r fun b => (next b).bind f
  | .diverge, _ => .diverge

instance : Monad (Prog I) where
  pure := .done
  bind := bind

@[simp] theorem pure_eq (a : α) : (pure a : Prog I α) = .done a := rfl

@[simp] theorem done_bind (a : α) (f : α → Prog I β) : (Prog.done a >>= f) = f a := rfl

@[simp] theorem ask_bind (r : I.Request) (next : I.Reply r → Prog I α) (f : α → Prog I β) :
    (Prog.ask r next >>= f) = .ask r fun b => next b >>= f := rfl

@[simp] theorem diverge_bind (f : α → Prog I β) : (Prog.diverge >>= f) = .diverge := rfl

theorem bind_done (p : Prog I α) : p.bind .done = p := by
  induction p with
  | done => rfl
  | ask r next ih => simp only [bind, ih]
  | diverge => rfl

theorem bind_assoc (p : Prog I α) (f : α → Prog I β) (g : β → Prog I γ) :
    (p.bind f).bind g = p.bind fun a => (f a).bind g := by
  induction p with
  | done => rfl
  | ask r next ih => simp only [bind, ih]
  | diverge => rfl

instance : LawfulMonad (Prog I) :=
  LawfulMonad.mk' (Prog I) bind_done (fun _ _ => rfl) bind_assoc

/-- Runs a program in a monad that answers its requests; `none` when the program diverges. -/
def run {m : Type → Type} [Monad m] (answer : (r : I.Request) → m (I.Reply r)) :
    Prog I α → m (Option α)
  | .done a => pure (some a)
  | .ask r next => answer r >>= fun b => run answer (next b)
  | .diverge => pure none

/-- Replaces each request by a program over another interface. -/
def interpret (serve : (r : I.Request) → Prog J (I.Reply r)) : Prog I α → Prog J α
  | .done a => .done a
  | .ask r next => serve r >>= fun b => interpret serve (next b)
  | .diverge => .diverge

/-- The same program over more than it needs. -/
def inLeft (p : Prog I α) : Prog (I.sum J) α :=
  p.interpret fun r => Prog.request (I := I.sum J) (Sum.inl r)

/-! ## Traces -/

/-- One request together with the reply it got. -/
structure Event (I : Interface) where
  request : I.Request
  reply : I.Reply request

/-- `Yields p t a`: there are surroundings in which `p` makes the requests of `t`, gets the replies
of `t`, and returns `a`. -/
inductive Yields : Prog I α → List (Event I) → α → Prop
  | done (a : α) : Yields (.done a) [] a
  | ask {r : I.Request} {next : I.Reply r → Prog I α} {t : List (Event I)} {a : α} (b : I.Reply r)
      (rest : Yields (next b) t a) : Yields (.ask r next) (⟨r, b⟩ :: t) a

/-- `Reaches p t`: there are surroundings in which the first requests of `p` and their replies
are `t`. -/
inductive Reaches : Prog I α → List (Event I) → Prop
  | start (p : Prog I α) : Reaches p []
  | ask {r : I.Request} {next : I.Reply r → Prog I α} {t : List (Event I)} (b : I.Reply r)
      (rest : Reaches (next b) t) : Reaches (.ask r next) (⟨r, b⟩ :: t)

theorem yields_bind {p : Prog I α} {f : α → Prog I β} {t : List (Event I)} {b : β} :
    Yields (p >>= f) t b ↔ ∃ s u a, t = s ++ u ∧ Yields p s a ∧ Yields (f a) u b := by
  constructor
  · intro h
    induction p generalizing t with
    | done a => exact ⟨[], t, a, rfl, .done a, h⟩
    | ask r next ih =>
      cases h with
      | ask c rest =>
        obtain ⟨s, u, a, rfl, hs, hu⟩ := ih c rest
        exact ⟨_ :: s, u, a, rfl, .ask c hs, hu⟩
    | diverge => cases h
  · rintro ⟨s, u, a, rfl, hs, hu⟩
    induction hs with
    | done => exact hu
    | ask c _ ih => exact .ask c (ih hu)

theorem Yields.reaches {p : Prog I α} {t : List (Event I)} {a : α} (h : Yields p t a) :
    Reaches p t := by
  induction h with
  | done => exact .start _
  | ask b _ ih => exact .ask b ih

end Prog

end Testbed
