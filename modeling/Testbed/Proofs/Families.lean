import Mathlib.Logic.Relation
import Testbed.Proofs.Monitor
import Testbed.Simulation.Bench

/-!
# Families of contexts

What is copied or derived from one background context is its family. The family shares a flag, while
each context of it has the deadlines of its own line alone. A `Forest` is all contexts made so far,
with the way each was made and which of them were cancelled. This decides when a context is done.
-/

namespace Testbed

/-! ## Clock and flags -/

/-- What contexts see of the system. -/
structure Board where
  clock : Instant
  flags : List Token := []
  raised : List Token := []
  deriving DecidableEq, Repr

namespace Board

variable {A : Interface} {α β : Type} {b b' : Board} {v : α}

/-- A reply, and the board it leaves. Time may pass before the clock is read, a new flag is one that
was not there, and a flag that is set is set for good. -/
inductive Replies (b : Board) : Prog.Event A.onSystem → Board → Prop
  | now (time : Instant) (later : b.clock ≤ time) :
      Replies b ⟨Sum.inr .now, time⟩ { b with clock := time }
  | newToken (token : Token) (fresh : token ∉ b.flags) :
      Replies b ⟨Sum.inr .newToken, token⟩ { b with flags := token :: b.flags }
  | cancel (token : Token) :
      Replies b ⟨Sum.inr (.cancel token), ()⟩ { b with raised := token :: b.raised }
  | isCancelled (token : Token) :
      Replies b ⟨Sum.inr (.isCancelled token), decide (token ∈ b.raised)⟩ b

/-- `Runs p b v b'`: `p` can be run from `b` to `b'` and returns `v`. -/
inductive Runs : Prog A.onSystem α → Board → α → Board → Prop
  | done (v : α) (b : Board) : Runs (.done v) b v b
  | ask {r : A.onSystem.Request} {next : A.onSystem.Reply r → Prog A.onSystem α}
      {reply : A.onSystem.Reply r} {b c d : Board} {v : α} (first : Replies b ⟨r, reply⟩ c)
      (rest : Runs (next reply) c v d) : Runs (.ask r next) b v d

@[simp] theorem runs_done {w : α} : Runs (A := A) (.done v) b w b' ↔ w = v ∧ b' = b := by
  constructor
  · intro h
    cases h
    exact ⟨rfl, rfl⟩
  · rintro ⟨rfl, rfl⟩
    exact .done ..

@[simp] theorem runs_bind {p : Prog A.onSystem α} {f : α → Prog A.onSystem β} {w : β} :
    Runs (p >>= f) b w b' ↔ ∃ v c, Runs p b v c ∧ Runs (f v) c w b' := by
  constructor
  · intro h
    induction p generalizing b with
    | done v => exact ⟨v, b, .done v b, h⟩
    | ask r next ih =>
      cases h with
      | ask first rest =>
        obtain ⟨v, c, hv, hw⟩ := ih _ rest
        exact ⟨v, c, .ask first hv, hw⟩
    | diverge => cases h
  · intro ⟨v, c, hv, hw⟩
    induction hv with
    | done => exact hw
    | ask first _ ih => exact .ask first (ih hw)

theorem runs_ask {r : System.Request} {reply : System.Reply r} :
    Runs (A := A) (System.ask r) b reply b' ↔ Replies (A := A) b ⟨Sum.inr r, reply⟩ b' := by
  constructor
  · intro h
    cases h with
    | ask first rest =>
      obtain ⟨rfl, rfl⟩ := runs_done.1 rest
      exact first
  · intro h
    exact .ask h (.done ..)

@[simp] theorem runs_now {time : Instant} :
    Runs (A := A) System.now b time b' ↔ b.clock ≤ time ∧ b' = { b with clock := time } := by
  refine runs_ask.trans ⟨fun h => ?_, ?_⟩
  · cases h with
    | now time later => exact ⟨later, rfl⟩
  · rintro ⟨later, rfl⟩
    exact .now time later

@[simp] theorem runs_newToken {token : Token} :
    Runs (A := A) System.newToken b token b' ↔
      token ∉ b.flags ∧ b' = { b with flags := token :: b.flags } := by
  refine runs_ask.trans ⟨fun h => ?_, ?_⟩
  · cases h with
    | newToken token fresh => exact ⟨fresh, rfl⟩
  · rintro ⟨fresh, rfl⟩
    exact .newToken token fresh

@[simp] theorem runs_cancel {token : Token} {u : Unit} :
    Runs (A := A) (System.cancel token) b u b' ↔ b' = { b with raised := token :: b.raised } := by
  refine runs_ask.trans ⟨fun h => ?_, ?_⟩
  · cases h
    rfl
  · rintro rfl
    exact .cancel token

@[simp] theorem runs_isCancelled {token : Token} {set : Bool} :
    Runs (A := A) (System.isCancelled token) b set b' ↔
      set = decide (token ∈ b.raised) ∧ b' = b := by
  refine runs_ask.trans ⟨fun h => ?_, ?_⟩
  · cases h
    exact ⟨rfl, rfl⟩
  · rintro ⟨rfl, rfl⟩
    exact .isCancelled token

end Board

/-! ## The simulated system -/

/-- The requests that contexts make. -/
def System.Request.ByContext : System.Request → Prop
  | .now | .newToken | .cancel _ | .isCancelled _ => True
  | _ => False

namespace Simulation.Host

/-- What contexts see of a simulated system, whose flags are numbered. -/
def board (h : Host) : Board where
  clock := h.clock
  flags := (List.range h.flags).reverse.map Token.mk
  raised := h.cancelled

/-- A simulated system replies to contexts as a board does. -/
theorem answer_replies {A : Interface} (h : Host) {r : System.Request} (asked : r.ByContext) :
    Board.Replies (A := A) h.board ⟨Sum.inr r, ((answer r).run h).1⟩
      ((answer r).run h).2.board := by
  cases r with
  | now => exact .now _ (Nat.le_add_right ..)
  | newToken =>
    have fresh : Token.mk h.flags ∉ h.board.flags := by simp [board]
    have added : { h with flags := h.flags + 1 }.board =
        { h.board with flags := ⟨h.flags⟩ :: h.board.flags } := by
      simp [board, List.range_succ]
    exact added ▸ .newToken _ fresh
  | cancel token => exact .cancel token
  | isCancelled token =>
    have looked : h.isCancelled token = decide (token ∈ h.board.raised) :=
      List.contains_eq_mem token h.cancelled
    have replies := Board.Replies.isCancelled (A := A) (b := h.board) token
    rwa [← looked] at replies
  | _ => exact asked.elim

end Simulation.Host

/-- A program that asks only what contexts ask runs on a simulated bench as it does on a board. -/
theorem Simulation.Bench.perform_runs {α : Type} {p : Action α}
    (only : p.Only fun r => ∃ asked : System.Request, r = Sum.inr asked ∧ asked.ByContext)
    {b b' : Simulation.Bench} {v : α} (h : (perform p).run b = (some v, b')) :
    Board.Runs p b.host.board v b'.host.board := by
  induction p generalizing b with
  | done =>
    cases h
    exact .done ..
  | ask r next ih =>
    obtain ⟨⟨r, rfl, asked⟩, rest⟩ := only
    -- Only a request that stops a log reaches the engine as well.
    have replied : ((answer (.inr r)).run b).1 = ((Host.answer r).run b.host).1 ∧
        ((answer (.inr r)).run b).2.host = ((Host.answer r).run b.host).2 := by
      cases r <;> first | exact ⟨rfl, rfl⟩ | exact asked.elim
    have first := Host.answer_replies (A := Engine) b.host asked
    rw [← replied.1, ← replied.2] at first
    exact .ask first (ih _ (rest _) h)
  | diverge => cases h

/-! ## Operations on a board -/

namespace Context

variable {A : Interface} {b b' : Board} {ctx : Context}

theorem runs_background :
    Board.Runs (A := A) background b ctx b' ↔
      ctx.token ∉ b.flags ∧ ctx.deadline = none ∧
        b' = { b with flags := ctx.token :: b.flags } := by
  constructor
  · intro h
    obtain ⟨token, c, first, rest⟩ := Board.runs_bind.1 h
    obtain ⟨fresh, rfl⟩ := Board.runs_newToken.1 first
    obtain ⟨rfl, rfl⟩ := Board.runs_done.1 rest
    exact ⟨fresh, rfl, rfl⟩
  · intro ⟨fresh, never, same⟩
    have made : Board.Runs (A := A) System.newToken b ctx.token b' :=
      Board.runs_newToken.2 ⟨fresh, same⟩
    exact Board.runs_bind.2 ⟨ctx.token, b', made, by simp [← never]⟩

theorem runs_withTimeout {ctx' : Context} {timeout : Duration} :
    Board.Runs (A := A) (ctx.withTimeout timeout) b ctx' b' ↔
      ∃ time, b.clock ≤ time ∧ ctx' = ctx.expiringAt time timeout ∧
        b' = { b with clock := time } := by
  simp only [withTimeout, Board.runs_bind, Board.runs_now]
  constructor
  · intro ⟨time, c, ⟨later, moved⟩, rest⟩
    obtain ⟨rfl, rfl⟩ := Board.runs_done.1 rest
    exact ⟨time, later, rfl, moved⟩
  · intro ⟨time, later, made, moved⟩
    exact ⟨time, b', ⟨later, moved⟩, by simp [made]⟩

theorem runs_cancel {u : Unit} :
    Board.Runs (A := A) ctx.cancel b u b' ↔ b' = { b with raised := ctx.token :: b.raised } :=
  Board.runs_cancel

/-- What a context says is what its flag and its deadline say at the time it has looked. -/
theorem runs_status {cause : Option Cause} (h : Board.Runs (A := A) ctx.status b cause b') :
    cause = ctx.cause? (decide (ctx.token ∈ b.raised)) b'.clock := by
  obtain ⟨set, c, first, rest⟩ := Board.runs_bind.1 h
  obtain ⟨rfl, rfl⟩ := Board.runs_isCancelled.1 first
  -- The clock is read only when the flag is not set and there is a deadline.
  by_cases flag : ctx.token ∈ c.raised
  · simp only [flag, decide_true, if_true, Prog.pure_eq, Board.runs_done] at rest
    simp [cause?, flag, rest.1]
  · simp only [flag, decide_false, Bool.false_eq_true, if_false] at rest
    cases due : ctx.deadline with
    | none =>
      simp only [due, Prog.pure_eq, Board.runs_done] at rest
      simp [cause?, flag, due, rest.1]
    | some deadline =>
      simp only [due, Prog.pure_eq, Board.runs_bind, Board.runs_now] at rest
      obtain ⟨time, d, ⟨-, rfl⟩, last⟩ := rest
      obtain ⟨rfl, rfl⟩ := Board.runs_done.1 last
      simp [cause?, flag, due]

/-- A context can be asked without the time passing. -/
theorem runs_status_at_once :
    Board.Runs (A := A) ctx.status b (ctx.cause? (decide (ctx.token ∈ b.raised)) b.clock) b := by
  refine Board.runs_bind.2 ⟨_, b, Board.runs_isCancelled.2 ⟨rfl, rfl⟩, ?_⟩
  by_cases flag : ctx.token ∈ b.raised
  · simp [flag, cause?]
  · cases due : ctx.deadline with
    | none => simp [flag, cause?, due]
    | some deadline =>
      simp only [flag, decide_false, Bool.false_eq_true, if_false, Prog.pure_eq, Board.runs_bind]
      exact ⟨b.clock, b, by simp [Instant.le_iff], by simp [cause?, due]⟩

/-- What `check` makes of the state of a context. -/
def verdict : Option Cause → Except Error Unit
  | some cause => .error cause.error
  | none => .ok ()

theorem check_run_eq :
    (ctx.check : Task A.onSystem Unit).run = do return verdict (← ctx.status) := by
  change ((Except.ok <$> ctx.status) >>= _) = _
  rw [bind_map_left]
  refine congrArg (ctx.status >>= ·) (funext fun cause => ?_)
  cases cause <;> rfl

end Context

namespace Board

variable {A : Interface} {α : Type} {b : Board} {ctx : Context} {time : Instant}

/-- `p` returns `v` when it is run at `time`. -/
def Gives (b : Board) (p : Prog A.onSystem α) (time : Instant) (v : α) : Prop :=
  b.clock ≤ time ∧ Runs p { b with clock := time } v { b with clock := time }

/-- A program that looks at a context and makes something of what it says. -/
theorem gives_of_status {answer : Option Context.Cause → α} {v : α} :
    b.Gives (A := A) (do return answer (← ctx.status)) time v ↔
      b.clock ≤ time ∧ v = answer (ctx.cause? (decide (ctx.token ∈ b.raised)) time) := by
  refine and_congr_right fun _ => ⟨fun h => ?_, fun same => ?_⟩
  · obtain ⟨cause, c, look, rest⟩ := runs_bind.1 h
    obtain ⟨rfl, rfl⟩ := runs_done.1 rest
    exact congrArg answer (Context.runs_status look)
  · exact runs_bind.2 ⟨_, _, Context.runs_status_at_once, runs_done.2 ⟨same, rfl⟩⟩

theorem gives_isDone {done : Bool} :
    b.Gives (A := A) ctx.isDone time done ↔
      b.clock ≤ time ∧ done = (ctx.cause? (decide (ctx.token ∈ b.raised)) time).isSome :=
  gives_of_status

theorem gives_check {r : Except Error Unit} :
    b.Gives (A := A) ctx.check.run time r ↔
      b.clock ≤ time ∧ r = Context.verdict (ctx.cause? (decide (ctx.token ∈ b.raised)) time) := by
  rw [Context.check_run_eq]
  exact gives_of_status

end Board

/-! ## Origins -/

instance : Std.IsLinearOrder Instant where
  le_refl _ := Nat.le_refl _
  le_trans _ _ _ := Nat.le_trans
  le_antisymm _ _ h h' := congrArg Instant.mk (Nat.le_antisymm h h')
  le_total _ _ := Nat.le_total ..

instance : Std.LawfulOrderMin Instant where
  le_min_iff _ _ _ := Nat.le_min
  min_eq_or a b :=
    (Nat.le_total a.nanos b.nanos).imp (fun h => congrArg Instant.mk (Nat.min_eq_left h))
      fun h => congrArg Instant.mk (Nat.min_eq_right h)

/-- How a context was made. Background contexts are numbered. -/
inductive Origin where
  | background (family : Nat)
  | copy (source : Origin)
  | withTimeout (source : Origin) (time : Instant) (timeout : Duration)
  deriving DecidableEq, Repr

namespace Origin

variable {o o' : Origin} {time time' : Instant}

/-- The background context that it all began with. -/
def family : Origin → Nat
  | background family => family
  | copy source => source.family
  | withTimeout source _ _ => source.family

/-- When each timeout on the way from the background context has run out. -/
def expiries : Origin → List Instant
  | background _ => []
  | copy source => source.expiries
  | withTimeout source time timeout => (time + timeout) :: source.expiries

/-- The earliest of the timeouts has run out. -/
def Expired (o : Origin) (time : Instant) : Prop :=
  ∃ first ∈ o.expiries.min?, first ≤ time

/-- What was copied or derived from `o`, in any number of steps. -/
inductive Descends (o : Origin) : Origin → Prop
  | self : Descends o o
  | copy {source : Origin} (h : Descends o source) : Descends o (copy source)
  | withTimeout {source : Origin} (h : Descends o source) (time : Instant) (timeout : Duration) :
      Descends o (withTimeout source time timeout)

theorem expired_iff : o.Expired time ↔ ∃ expiry ∈ o.expiries, expiry ≤ time := by
  constructor
  · intro ⟨first, least, passed⟩
    exact ⟨first, (List.min?_eq_some_iff.1 least).1, passed⟩
  · intro ⟨expiry, mem, passed⟩
    cases least : o.expiries.min? with
    | none => simp [List.min?_eq_none_iff.1 least] at mem
    | some first =>
      exact ⟨first, least, Nat.le_trans ((List.min?_eq_some_iff.1 least).2 expiry mem) passed⟩

theorem Expired.later (h : o.Expired time) (later : time ≤ time') : o.Expired time' := by
  obtain ⟨first, least, passed⟩ := h
  exact ⟨first, least, Nat.le_trans passed later⟩

theorem Descends.family (h : o.Descends o') : o'.family = o.family := by
  induction h with
  | self => rfl
  | copy _ ih => exact ih
  | withTimeout _ _ _ ih => exact ih

/-- Every timeout of an ancestor is one of the descendant too. -/
theorem Descends.expiries (h : o.Descends o') : o.expiries ⊆ o'.expiries := by
  induction h with
  | self => exact fun _ => id
  | copy _ ih => exact ih
  | withTimeout _ _ _ ih => exact fun _ mem => List.mem_cons_of_mem _ (ih mem)

theorem Descends.expired (h : o.Descends o') (expired : o.Expired time) : o'.Expired time := by
  obtain ⟨expiry, mem, passed⟩ := expired_iff.1 expired
  exact expired_iff.2 ⟨expiry, h.expiries mem, passed⟩

end Origin

theorem Context.deadline_expiringAt {ctx : Context} {times : List Instant} {now : Instant}
    {timeout : Duration} (h : ctx.deadline = times.min?) :
    (ctx.expiringAt now timeout).deadline = ((now + timeout) :: times).min? := by
  rw [List.min?_cons, ← h]
  cases due : ctx.deadline with
  | none => simp [expiringAt, due]
  | some deadline =>
    have swap : min deadline (now + timeout) = min (now + timeout) deadline :=
      Std.Commutative.comm _ _
    simp [expiringAt, due, swap]

/-! ## Forests -/

/-- A context and how it was made. -/
structure Member where
  origin : Origin
  context : Context
  deriving DecidableEq, Repr

/-- The contexts made so far, and those of them that were cancelled. -/
structure Forest where
  board : Board
  families : Nat := 0
  members : List Member := []
  cancelled : List Member := []
  deriving DecidableEq, Repr

namespace Forest

variable {A : Interface} {f g : Forest} {m m' source : Member} {time time' : Instant}

/-- One operation on one of the contexts, or time that passes. -/
inductive Step (A : Interface) (f : Forest) : Forest → Prop
  | wait (time : Instant) (later : f.board.clock ≤ time) :
      Step A f { f with board := { f.board with clock := time } }
  | background {ctx : Context} {board : Board}
      (run : Board.Runs (A := A) Context.background f.board ctx board) :
      Step A f { f with
        board
        families := f.families + 1
        members := ⟨.background f.families, ctx⟩ :: f.members }
  | copy {source : Member} (known : source ∈ f.members) :
      Step A f { f with members := ⟨.copy source.origin, source.context⟩ :: f.members }
  | withTimeout {source : Member} {timeout : Duration} {ctx : Context} {board : Board}
      (known : source ∈ f.members)
      (run : Board.Runs (A := A) (source.context.withTimeout timeout) f.board ctx board) :
      Step A f { f with
        board
        members := ⟨.withTimeout source.origin board.clock timeout, ctx⟩ :: f.members }
  | cancel {target : Member} {board : Board} (known : target ∈ f.members)
      (run : Board.Runs (A := A) target.context.cancel f.board () board) :
      Step A f { f with board, cancelled := target :: f.cancelled }

/-- Any number of operations. -/
def Grows (A : Interface) : Forest → Forest → Prop :=
  Relation.ReflTransGen (Step A)

/-- What can be reached from a time when there are no contexts. -/
def Grown (A : Interface) (f : Forest) : Prop :=
  ∃ start : Instant, Grows A ⟨⟨start, [], []⟩, 0, [], []⟩ f

/-- Some context of the family was cancelled. -/
def Revoked (f : Forest) (m : Member) : Prop :=
  ∃ c ∈ f.cancelled, c.origin.family = m.origin.family

/-- The contexts of a family have one flag, which no other family has and which is set once one of
them is cancelled, and the deadline of a context is the earliest one of its line. -/
structure Sound (f : Forest) : Prop where
  flagged : ∀ m ∈ f.members, m.context.token ∈ f.board.flags
  numbered : ∀ m ∈ f.members, m.origin.family < f.families
  shared : ∀ m ∈ f.members, ∀ m' ∈ f.members,
    m.origin.family = m'.origin.family ↔ m.context.token = m'.context.token
  deadline : ∀ m ∈ f.members, m.context.deadline = m.origin.expiries.min?
  cancelled : f.cancelled ⊆ f.members
  raised : f.board.raised = f.cancelled.map (·.context.token)

theorem Sound.wait (sound : f.Sound) (time : Instant) :
    Sound { f with board := { f.board with clock := time } } :=
  { sound with }

/-- A member that takes family and flag from one that is there. -/
theorem Sound.join (sound : f.Sound) (known : source ∈ f.members)
    (family : m.origin.family = source.origin.family)
    (token : m.context.token = source.context.token)
    (deadline : m.context.deadline = m.origin.expiries.min?) :
    Sound { f with members := m :: f.members } where
  flagged := List.forall_mem_cons.2 ⟨token ▸ sound.flagged source known, sound.flagged⟩
  numbered := List.forall_mem_cons.2 ⟨family ▸ sound.numbered source known, sound.numbered⟩
  shared := by
    -- The new member stands for its source.
    simp only [List.forall_mem_cons, family, token, true_and]
    exact ⟨fun m' => sound.shared source known m',
      fun m' mem => ⟨sound.shared m' mem source known, sound.shared m' mem⟩⟩
  deadline := List.forall_mem_cons.2 ⟨deadline, sound.deadline⟩
  cancelled := fun _ mem => List.mem_cons_of_mem _ (sound.cancelled mem)
  raised := sound.raised

/-- A background context of a new family, with a flag of its own. -/
theorem Sound.plant (sound : f.Sound) {ctx : Context} (fresh : ctx.token ∉ f.board.flags)
    (never : ctx.deadline = none) :
    Sound { f with
      board := { f.board with flags := ctx.token :: f.board.flags }
      families := f.families + 1
      members := ⟨.background f.families, ctx⟩ :: f.members } where
  flagged := List.forall_mem_cons.2
    ⟨List.mem_cons_self, fun m mem => List.mem_cons_of_mem _ (sound.flagged m mem)⟩
  numbered := by
    simp only [List.forall_mem_cons, Origin.family, Nat.lt_succ_self, true_and]
    exact fun m mem => Nat.lt_succ_of_lt (sound.numbered m mem)
  shared := by
    -- Neither the number nor the flag has been given to anyone before.
    have apart : ∀ m ∈ f.members,
        m.origin.family ≠ f.families ∧ m.context.token ≠ ctx.token := by
      intro m mem
      refine ⟨Nat.ne_of_lt (sound.numbered m mem), fun same => fresh ?_⟩
      exact same ▸ sound.flagged m mem
    simp only [List.forall_mem_cons, Origin.family, true_and]
    exact ⟨fun m mem => iff_of_false (apart m mem).1.symm (apart m mem).2.symm,
      fun m mem => ⟨iff_of_false (apart m mem).1 (apart m mem).2, sound.shared m mem⟩⟩
  deadline := List.forall_mem_cons.2 ⟨never, sound.deadline⟩
  cancelled := fun _ mem => List.mem_cons_of_mem _ (sound.cancelled mem)
  raised := sound.raised

theorem Sound.step (sound : f.Sound) (h : Step A f g) : g.Sound := by
  cases h with
  | wait time => exact sound.wait time
  | background run =>
    obtain ⟨fresh, never, rfl⟩ := Context.runs_background.1 run
    exact sound.plant fresh never
  -- A copy and a derived context take the place of their source in the family.
  | @copy source known => exact sound.join known rfl rfl (sound.deadline source known)
  | @withTimeout source _ _ _ known run =>
    obtain ⟨time, -, rfl, rfl⟩ := Context.runs_withTimeout.1 run
    exact (sound.wait time).join known rfl rfl
      (Context.deadline_expiringAt (sound.deadline source known))
  | cancel known run =>
    obtain rfl := Context.runs_cancel.1 run
    exact { sound with
      cancelled := List.cons_subset.2 ⟨known, sound.cancelled⟩
      raised := congrArg _ sound.raised }

theorem Sound.grows (sound : f.Sound) (h : Grows A f g) : g.Sound := by
  induction h with
  | refl => exact sound
  | tail _ last ih => exact ih.step last

theorem Grown.sound (h : f.Grown A) : f.Sound := by
  obtain ⟨start, grows⟩ := h
  refine Sound.grows ?_ grows
  constructor <;> simp

/-! ## What contexts answer -/

/-- What was made, cancelled or past in `f` is so in `g`. -/
structure Extends (f g : Forest) : Prop where
  clock : f.board.clock ≤ g.board.clock
  members : f.members ⊆ g.members
  cancelled : f.cancelled ⊆ g.cancelled

theorem Step.extends (h : Step A f g) : f.Extends g := by
  cases h with
  | wait time later => exact ⟨later, fun _ => id, fun _ => id⟩
  | background run =>
    obtain ⟨-, -, rfl⟩ := Context.runs_background.1 run
    exact ⟨Nat.le_refl _, List.subset_cons_self .., fun _ => id⟩
  | copy => exact ⟨Nat.le_refl _, List.subset_cons_self .., fun _ => id⟩
  | withTimeout known run =>
    obtain ⟨time, later, -, rfl⟩ := Context.runs_withTimeout.1 run
    exact ⟨later, List.subset_cons_self .., fun _ => id⟩
  | cancel known run =>
    obtain rfl := Context.runs_cancel.1 run
    exact ⟨Nat.le_refl _, fun _ => id, List.subset_cons_self ..⟩

theorem Grows.extends (h : Grows A f g) : f.Extends g := by
  induction h with
  | refl => exact ⟨Nat.le_refl _, fun _ => id, fun _ => id⟩
  | tail _ last ih =>
    have next := last.extends
    exact ⟨Nat.le_trans ih.clock next.clock, fun _ mem => next.members (ih.members mem),
      fun _ mem => next.cancelled (ih.cancelled mem)⟩

theorem Revoked.extends (h : f.Revoked m) (ext : f.Extends g) : g.Revoked m := by
  obtain ⟨c, mem, family⟩ := h
  exact ⟨c, ext.cancelled mem, family⟩

theorem revoked_congr (family : m'.origin.family = m.origin.family) :
    f.Revoked m' ↔ f.Revoked m := by
  simp [Revoked, family]

/-- The flag that members of a family share is set by the cancellation of any of them. -/
theorem Sound.revoked_iff (sound : f.Sound) (known : m ∈ f.members) :
    f.Revoked m ↔ m.context.token ∈ f.board.raised := by
  simp only [Revoked, sound.raised, List.mem_map]
  exact exists_congr fun c => and_congr_right fun mem =>
    sound.shared c (sound.cancelled mem) m known

theorem Sound.expired_iff (sound : f.Sound) (known : m ∈ f.members) :
    m.origin.Expired time ↔ m.context.deadline.any (· ≤ time) = true := by
  simp [Origin.Expired, sound.deadline m known, Option.any_eq_true]

/-- Why a member is done, if it is: a cancellation of its family comes before a timeout of its
line. -/
theorem Sound.cause_cases (sound : f.Sound) (known : m ∈ f.members) (time : Instant) :
    let cause := m.context.cause? (decide (m.context.token ∈ f.board.raised)) time
    f.Revoked m ∧ cause = some .cancelled ∨
      ¬ f.Revoked m ∧ m.origin.Expired time ∧ cause = some .deadline ∨
      ¬ f.Revoked m ∧ ¬ m.origin.Expired time ∧ cause = none := by
  rw [sound.revoked_iff known, sound.expired_iff known]
  by_cases flag : m.context.token ∈ f.board.raised
  · exact .inl ⟨flag, by simp [Context.cause?, flag]⟩
  · by_cases due : m.context.deadline.any (· ≤ time) = true
    · exact .inr (.inl ⟨flag, due, by simp [Context.cause?, flag, due]⟩)
    · exact .inr (.inr ⟨flag, due, by simp [Context.cause?, flag, due]⟩)

theorem Sound.gives_isDone (sound : f.Sound) (known : m ∈ f.members) {done : Bool} :
    f.board.Gives (A := A) m.context.isDone time done ↔
      f.board.clock ≤ time ∧ (done = true ↔ f.Revoked m ∨ m.origin.Expired time) := by
  rw [Board.gives_isDone, Bool.eq_iff_iff]
  obtain ⟨revoked, cause⟩ | ⟨kept, expired, cause⟩ | ⟨kept, fresh, cause⟩ :=
    sound.cause_cases known time
  · simp [cause, revoked]
  · simp [cause, expired]
  · simp [cause, kept, fresh]

/-- What `check` answers: a cancellation of the family before a timeout of the line. -/
def Verdict (f : Forest) (m : Member) (time : Instant) (r : Except Error Unit) : Prop :=
  f.Revoked m ∧ r = .error (.cancelled "context cancelled") ∨
  ¬ f.Revoked m ∧ m.origin.Expired time ∧ r = .error (.cancelled "deadline exceeded") ∨
  ¬ f.Revoked m ∧ ¬ m.origin.Expired time ∧ r = .ok ()

theorem Sound.gives_check (sound : f.Sound) (known : m ∈ f.members) {r : Except Error Unit} :
    f.board.Gives (A := A) m.context.check.run time r ↔
      f.board.clock ≤ time ∧ f.Verdict m time r := by
  rw [Board.gives_check, Verdict]
  obtain ⟨revoked, cause⟩ | ⟨kept, expired, cause⟩ | ⟨kept, fresh, cause⟩ :=
    sound.cause_cases known time
  · simp [cause, revoked, Context.verdict, Context.Cause.error, Context.Cause.reason]
  · simp [cause, kept, expired, Context.verdict, Context.Cause.error, Context.Cause.reason]
  · simp [cause, kept, fresh, Context.verdict]

/-- However the contexts of a program were made, copied, derived and cancelled, one of them is done
just when some context of its family was cancelled or the earliest timeout of its line has run out,
and `check` puts the cancellation first. So no descendant outlives it, it stays done, and what
happens to other families is nothing to it. -/
theorem done_by_family_or_line (grown : f.Grown A) (known : m ∈ f.members) :
    (∀ time done, f.board.Gives (A := A) m.context.isDone time done ↔
      f.board.clock ≤ time ∧ (done = true ↔ f.Revoked m ∨ m.origin.Expired time)) ∧
    (∀ time r, f.board.Gives (A := A) m.context.check.run time r ↔
      f.board.clock ≤ time ∧ f.Verdict m time r) ∧
    (∀ m' ∈ f.members, m.origin.Descends m'.origin → ∀ time,
      f.board.Gives (A := A) m.context.isDone time true →
        f.board.Gives (A := A) m'.context.isDone time true) ∧
    ∀ g, Grows A f g →
      (∀ time time', f.board.Gives (A := A) m.context.isDone time true → time ≤ time' →
        g.board.clock ≤ time' → g.board.Gives (A := A) m.context.isDone time' true) ∧
      ((∀ c ∈ g.cancelled, c ∉ f.cancelled → c.origin.family ≠ m.origin.family) →
        ∀ time, g.board.clock ≤ time →
          (∀ done, g.board.Gives (A := A) m.context.isDone time done ↔
            f.board.Gives (A := A) m.context.isDone time done) ∧
          ∀ r, g.board.Gives (A := A) m.context.check.run time r ↔
            f.board.Gives (A := A) m.context.check.run time r) := by
  have sound := grown.sound
  refine ⟨fun _ _ => sound.gives_isDone known, fun _ _ => sound.gives_check known, ?_, ?_⟩
  · intro m' known' descends time gives
    obtain ⟨later, done⟩ := (sound.gives_isDone known).1 gives
    refine (sound.gives_isDone known').2 ⟨later, iff_of_true rfl ?_⟩
    exact (done.1 rfl).imp (revoked_congr descends.family).2 descends.expired
  · intro g grows
    have ext := grows.extends
    have soundAfter := sound.grows grows
    have knownAfter := ext.members known
    constructor
    · intro time time' gives later reached
      obtain ⟨-, done⟩ := (sound.gives_isDone known).1 gives
      refine (soundAfter.gives_isDone knownAfter).2 ⟨reached, iff_of_true rfl ?_⟩
      exact (done.1 rfl).imp (·.extends ext) (·.later later)
    · intro others time reached
      have reachedBefore : f.board.clock ≤ time := Nat.le_trans ext.clock reached
      -- Neither the family's cancellations nor the line's timeouts have changed.
      have same : g.Revoked m ↔ f.Revoked m := by
        refine ⟨fun ⟨c, mem, family⟩ => ⟨c, ?_, family⟩, (·.extends ext)⟩
        exact Classical.byContradiction fun new => others c mem new family
      exact ⟨fun done => by simp [soundAfter.gives_isDone knownAfter, sound.gives_isDone known,
          same, reached, reachedBefore],
        fun r => by simp [soundAfter.gives_check knownAfter, sound.gives_check known, Verdict,
          same, reached, reachedBefore]⟩

/-! ### A forest of two families -/

namespace Sample

def root : Member := ⟨.background 0, ⟨⟨0⟩, none⟩⟩

def limited : Member := ⟨.withTimeout root.origin ⟨10⟩ ⟨5⟩, ⟨⟨0⟩, some ⟨15⟩⟩⟩

def copied : Member := ⟨.copy limited.origin, limited.context⟩

def other : Member := ⟨.background 1, ⟨⟨1⟩, none⟩⟩

/-- A context was derived from the first of two background contexts, and a copy of it cancelled. -/
def forest : Forest where
  board := ⟨⟨10⟩, [⟨1⟩, ⟨0⟩], [⟨0⟩]⟩
  families := 2
  members := [other, copied, limited, root]
  cancelled := [copied]

theorem forest_grown : forest.Grown A := by
  have planted : Step A ⟨⟨⟨0⟩, [], []⟩, 0, [], []⟩ ⟨⟨⟨0⟩, [⟨0⟩], []⟩, 1, [root], []⟩ :=
    .background (Context.runs_background.2 ⟨by simp, rfl, rfl⟩)
  have derived : Step A ⟨⟨⟨0⟩, [⟨0⟩], []⟩, 1, [root], []⟩
      ⟨⟨⟨10⟩, [⟨0⟩], []⟩, 1, [limited, root], []⟩ :=
    .withTimeout (by simp) (Context.runs_withTimeout.2 ⟨⟨10⟩, by decide, rfl, rfl⟩)
  have taken : Step A ⟨⟨⟨10⟩, [⟨0⟩], []⟩, 1, [limited, root], []⟩
      ⟨⟨⟨10⟩, [⟨0⟩], []⟩, 1, [copied, limited, root], []⟩ :=
    .copy (by simp)
  have second : Step A ⟨⟨⟨10⟩, [⟨0⟩], []⟩, 1, [copied, limited, root], []⟩
      ⟨⟨⟨10⟩, [⟨1⟩, ⟨0⟩], []⟩, 2, [other, copied, limited, root], []⟩ :=
    .background (Context.runs_background.2 ⟨by simp, rfl, rfl⟩)
  have ended : Step A ⟨⟨⟨10⟩, [⟨1⟩, ⟨0⟩], []⟩, 2, [other, copied, limited, root], []⟩ forest :=
    .cancel (by simp) (Context.runs_cancel.2 rfl)
  exact ⟨⟨0⟩, .tail (.tail (.tail (.tail (.single planted) derived) taken) second) ended⟩

end Sample

open Sample in
theorem done_by_family_or_line_sample :
    forest.Grown Engine ∧ root ∈ forest.members ∧ limited ∈ forest.members ∧
      other ∈ forest.members ∧
      forest.board.Gives (A := Engine) root.context.isDone ⟨20⟩ true ∧
      forest.board.Gives (A := Engine) limited.context.check.run ⟨20⟩
        (.error (.cancelled "context cancelled")) ∧
      forest.board.Gives (A := Engine) other.context.isDone ⟨20⟩ false := by
  have cancelled : copied ∈ forest.cancelled := by simp [forest]
  refine ⟨forest_grown, by simp [forest], by simp [forest], by simp [forest], ?_, ?_, ?_⟩
  · refine ((done_by_family_or_line forest_grown (by simp [forest])).1 _ _).2 ⟨by decide, ?_⟩
    exact iff_of_true rfl (.inl ⟨copied, cancelled, rfl⟩)
  · refine ((done_by_family_or_line forest_grown (by simp [forest])).2.1 _ _).2 ⟨by decide, ?_⟩
    exact .inl ⟨⟨copied, cancelled, rfl⟩, rfl⟩
  · refine ((done_by_family_or_line forest_grown (by simp [forest])).1 _ _).2 ⟨by decide, ?_⟩
    simp [Revoked, Origin.Expired, forest, other, copied, limited, root, Origin.family,
      Origin.expiries]

end Forest

end Testbed
