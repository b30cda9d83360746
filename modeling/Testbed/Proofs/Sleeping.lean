import Testbed.Proofs.Polling

/-!
# Sleeping in slices

A sleep goes in rounds. In each one it looks at its context and then at the clock, and unless that
ends it, it sleeps for a slice of the time that is left. So a sleep that comes to its end has found
the context live just before, and one whose context is done ends where that is found.
-/

namespace Testbed

/-! ## The rest of a program -/

namespace Prog

variable {I : Interface} {α β : Type} {p q : Prog I α} {s t : List (Event I)}

/-- `Leads p t q`: once `p` has made the requests of `t` and got the replies of `t`, what is left of
it is `q`. -/
inductive Leads : Prog I α → List (Event I) → Prog I α → Prop
  | start (p : Prog I α) : Leads p [] p
  | ask {r : I.Request} {next : I.Reply r → Prog I α} {t : List (Event I)} {q : Prog I α}
      (b : I.Reply r) (rest : Leads (next b) t q) : Leads (.ask r next) (⟨r, b⟩ :: t) q

namespace Leads

theorem trans {q' : Prog I α} (h : Leads p s q) (h' : Leads q t q') : Leads p (s ++ t) q' := by
  induction h with
  | start => exact h'
  | ask b _ ih => exact .ask b (ih h')

/-! How `p` may go on after that is how `q` may go on. -/

theorem yields_iff {a : α} (h : Leads p s q) : Yields p (s ++ t) a ↔ Yields q t a := by
  induction h with
  | start => rfl
  | ask b _ ih => exact ⟨fun (.ask _ rest) => ih.1 rest, fun rest => .ask b (ih.2 rest)⟩

theorem reaches_iff (h : Leads p s q) : Reaches p (s ++ t) ↔ Reaches q t := by
  induction h with
  | start => rfl
  | ask b _ ih => exact ⟨fun (.ask _ rest) => ih.1 rest, fun rest => .ask b (ih.2 rest)⟩

theorem diverges_iff (h : Leads p s q) : Diverges p (s ++ t) ↔ Diverges q t := by
  induction h with
  | start => rfl
  | ask b _ ih => exact ⟨fun (.ask _ rest) => ih.1 rest, fun rest => .ask b (ih.2 rest)⟩

end Leads

theorem Yields.leads {p : Prog I α} {a : α} (h : Yields p t a) (f : α → Prog I β) :
    Leads (p >>= f) t (f a) := by
  induction h with
  | done => exact .start _
  | ask b _ ih => exact .ask b ih

end Prog

theorem Task.exists_diverges_request {I : Interface} {ε β : Type} {r : I.Request}
    {f : I.Reply r → ExceptT ε (Prog I) β} {t : List (Prog.Event I)}
    (h : Prog.Diverges ((liftM (Prog.request r) : ExceptT ε (Prog I) (I.Reply r)) >>= f).run t) :
    ∃ b u, t = ⟨r, b⟩ :: u ∧ Prog.Diverges (f b).run u := by
  cases h with
  | ask b rest => exact ⟨b, _, rfl, rest⟩

namespace Context

variable {ctx : Context} {wake : Instant} {rounds : Nat} {s t u : Trace} {e : Error}

/-! ## Looking at a context -/

/-- A check that does not fail: the flag is not set, and a deadline has not passed. -/
inductive Passes (ctx : Context) : Trace → Prop
  | unbounded (none : ctx.deadline = none) : Passes ctx [⟨Sum.inr (.isCancelled ctx.token), false⟩]
  | early {d now : Instant} (has : ctx.deadline = some d) (early : ¬ d ≤ now) :
      Passes ctx [⟨Sum.inr (.isCancelled ctx.token), false⟩, clockReads now]

/-- What is done once it is known whether the flag is set. -/
def afterFlag (ctx : Context) (flagSet : Bool) : Attempt Unit :=
  if flagSet then throw Cause.cancelled.error
  else match ctx.deadline with
    | none => return ()
    | some d => do
      let now ← (System.now : Action Instant)
      if d ≤ now then throw Cause.deadline.error else return ()

theorem afterFlag_unbounded (none : ctx.deadline = none) : ctx.afterFlag false = pure () := by
  simp [afterFlag, none]

theorem afterFlag_bounded {d : Instant} (has : ctx.deadline = some d) :
    ctx.afterFlag false = (liftM (System.now : Action Instant) : Attempt Instant) >>= fun now =>
      if d ≤ now then throw Cause.deadline.error else pure () := by
  simp [afterFlag, has]

theorem afterFlag_finishes (ctx : Context) (flagSet : Bool) :
    Prog.Finishes (fun r : Engine.onSystem.Request => r = .inr .now)
      (ctx.afterFlag flagSet).run := by
  unfold afterFlag
  split
  · trivial
  · split
    · trivial
    · next d _ =>
      refine ⟨rfl, fun now : Instant => ?_⟩
      change Prog.Finishes _ (ExceptT.run (if d ≤ now then _ else _))
      split <;> trivial

/-- A check asks for the flag before the clock. -/
theorem check_eq (ctx : Context) :
    (ctx.check : Attempt Unit) =
      (liftM (System.isCancelled ctx.token : Action Bool) : Attempt Bool) >>= ctx.afterFlag := by
  refine congrArg (Prog.ask (I := Engine.onSystem) (.inr (.isCancelled ctx.token)))
    (funext fun flagSet : Bool => ?_)
  unfold afterFlag
  cases flagSet with
  | true => rfl
  | false =>
    cases ctx.deadline with
    | none => rfl
    | some d =>
      refine congrArg (Prog.ask (I := Engine.onSystem) (.inr .now)) (funext fun now : Instant => ?_)
      by_cases late : d ≤ now <;>
      · simp only [Prog.bind, Function.comp_apply, ExceptT.bindCont, late, if_true, if_false]
        rfl

theorem check_yields_ok_iff :
    Prog.Yields (ctx.check : Attempt Unit).run t (.ok ()) ↔ ctx.Passes t := by
  rw [check_eq]
  constructor
  · intro h
    obtain ⟨_ | _, u, rfl, rest⟩ := Task.exists_yields_request h
    · cases has : ctx.deadline with
      | none =>
        rw [afterFlag_unbounded has] at rest
        cases rest
        exact .unbounded has
      | some d =>
        rw [afterFlag_bounded has] at rest
        obtain ⟨(now : Instant), u, rfl, ends⟩ := Task.exists_yields_request rest
        split at ends
        · cases ends
        · next early =>
          cases ends
          exact .early has early
    · cases rest
  · rintro (none | @⟨d, now, has, early⟩) <;> refine Task.yields_request ?_
    · rw [afterFlag_unbounded none]
      exact .done _
    · rw [afterFlag_bounded has]
      refine Task.yields_request ?_
      rw [if_neg early]
      exact .done _

theorem check_yields_error_iff :
    Prog.Yields (ctx.check : Attempt Unit).run t (.error e) ↔ ctx.Fails t e := by
  refine ⟨check_fails, fun fails => ?_⟩
  rw [check_eq]
  cases fails with
  | cancelled => exact Task.yields_request (.done _)
  | @deadline d now has late =>
    refine Task.yields_request ?_
    rw [afterFlag_bounded has]
    refine Task.yields_request ?_
    rw [if_pos late]
    exact .done _

theorem check_not_diverges (ctx : Context) : ¬ Prog.Diverges (ctx.check : Attempt Unit).run t := by
  rw [check_eq]
  have ends : Prog.Finishes (fun _ => True)
      ((liftM (System.isCancelled ctx.token : Action Bool) : Attempt Bool) >>= ctx.afterFlag).run :=
    ⟨trivial, fun flagSet => (ctx.afterFlag_finishes flagSet).mono fun _ _ => trivial⟩
  exact ends.not_diverges

/-- The flag is asked for once in a check, so where it is asked for again the check has passed. -/
theorem reaches_past_check {f : Unit → Attempt Unit} {e e' : Prog.Event Engine.onSystem}
    (flag : e'.request = .inr (.isCancelled ctx.token))
    (h : Prog.Reaches ((ctx.check : Attempt Unit) >>= f).run (e :: s ++ e' :: u)) :
    ∃ c v, e :: s = c ++ v ∧ ctx.Passes c ∧ Prog.Reaches (f ()).run (v ++ e' :: u) := by
  rw [check_eq, bind_assoc] at h
  obtain ⟨flagSet, rfl, rest⟩ := Task.reaches_request h
  obtain ⟨c, v, _, rfl, -, passes, rest⟩ := Task.reaches_past (ctx.afterFlag_finishes flagSet).only
    (fun clock => by cases flag.symm.trans clock) rest
  refine ⟨_ :: c, v, rfl, check_yields_ok_iff.1 ?_, rest⟩
  rw [check_eq]
  exact Task.yields_request passes

/-! ## One round -/

/-- What is done once a context has been found live: nothing if the time has come, and else a slice
of sleep and `again`. -/
def doze (wake : Instant) (again : Attempt Unit) : Attempt Unit := do
  let now ← (System.now : Action Instant)
  if wake ≤ now then return ()
  System.sleep (A := Engine) (min sleepSlice (wake - now))
  again

theorem sleepUntil_succ (ctx : Context) (wake : Instant) (rounds : Nat) :
    (ctx.sleepUntil wake (rounds + 1) : Attempt Unit) =
      (ctx.check : Attempt Unit) >>= fun _ => doze wake (ctx.sleepUntil wake rounds) :=
  rfl

/-- `d` is a slice of the time that is left before `wake`: all of it, or 50 ms if that is less. -/
structure Slice (wake now : Instant) (d : Duration) : Prop where
  left : now.nanos < wake.nanos
  short : d ≤ .ofMillis 50
  inTime : now.nanos + d.nanos ≤ wake.nanos
  full : d = .ofMillis 50 ∨ now.nanos + d.nanos = wake.nanos

theorem slice_iff {now : Instant} {d : Duration} :
    Slice wake now d ↔ ¬ wake ≤ now ∧ d = min sleepSlice (wake - now) := by
  constructor
  · rintro ⟨left, short, inTime, full⟩
    have short : d.nanos ≤ 50000000 := short
    have full : d.nanos = 50000000 ∨ now.nanos + d.nanos = wake.nanos :=
      full.imp_left (congrArg Duration.nanos)
    have nanos : d.nanos = min 50000000 (wake.nanos - now.nanos) := by omega
    exact ⟨Nat.not_le.2 left, congrArg Duration.mk nanos⟩
  · rintro ⟨early, rfl⟩
    have left : now.nanos < wake.nanos := Nat.not_le.1 early
    have nanos : (min sleepSlice (wake - now)).nanos = min 50000000 (wake.nanos - now.nanos) := rfl
    refine ⟨left, Nat.min_le_left _ _, by omega, ?_⟩
    rcases Nat.le_total 50000000 (wake.nanos - now.nanos) with long | short
    · exact .inl (congrArg Duration.mk (Nat.min_eq_left long))
    · exact .inr (by omega)

/-- A round that does not end a sleep: the context is found live and the clock shows that there is
time left, so a slice of it is slept. -/
inductive Dozes (ctx : Context) (wake : Instant) : Trace → Prop
  | mk {c : Trace} {now : Instant} {d : Duration} (live : ctx.Passes c)
      (slice : Slice wake now d) : Dozes ctx wake (c ++ [clockReads now, sleeps d])

/-- The end of a sleep: the context is found done, or it is found live and then the clock shows that
the time has come. -/
inductive Wakes (ctx : Context) (wake : Instant) : Trace → Except Error Unit → Prop
  | done {c : Trace} {e : Error} (fails : ctx.Fails c e) : Wakes ctx wake c (.error e)
  | rested {c : Trace} {now : Instant} (live : ctx.Passes c) (come : wake ≤ now) :
      Wakes ctx wake (c ++ [clockReads now]) (.ok ())

section Round

variable {again : Attempt Unit} {r : Except Error Unit}

theorem Wakes.yields (h : ctx.Wakes wake t r) :
    Prog.Yields ((ctx.check : Attempt Unit) >>= fun _ => doze wake again).run t r := by
  cases h with
  | done fails => exact Task.yields_error (check_yields_error_iff.2 fails)
  | rested live come =>
    refine Task.yields_seq (check_yields_ok_iff.2 live) (Task.yields_request ?_)
    rw [if_pos come]
    exact .done _

theorem Dozes.leads (h : ctx.Dozes wake s) :
    Prog.Leads ((ctx.check : Attempt Unit) >>= fun _ => doze wake again).run s again.run := by
  cases h with
  | @mk c now _ live slice =>
    obtain ⟨early, rfl⟩ := slice_iff.1 slice
    refine ((check_yields_ok_iff.2 live).leads _).trans
      (.ask (I := Engine.onSystem) (r := .inr .now) now ?_)
    change Prog.Leads (ExceptT.run (if wake ≤ now then _ else _)) _ _
    rw [if_neg early]
    exact .ask (I := Engine.onSystem) (r := .inr (.sleep _)) () (.start _)

theorem yields_doze (h : Prog.Yields (doze wake again).run t r) :
    ∃ now, (wake ≤ now ∧ t = [clockReads now] ∧ r = .ok ()) ∨
      ¬ wake ≤ now ∧ ∃ u, t = clockReads now :: sleeps (min sleepSlice (wake - now)) :: u ∧
        Prog.Yields again.run u r := by
  obtain ⟨(now : Instant), u, rfl, rest⟩ := Task.exists_yields_request h
  refine ⟨now, ?_⟩
  split at rest
  · next come =>
    cases rest
    exact .inl ⟨come, rfl, rfl⟩
  · next early =>
    obtain ⟨_, u, rfl, goesOn⟩ := Task.exists_yields_request rest
    exact .inr ⟨early, u, rfl, goesOn⟩

/-- A round is the last one, or it ends with a slice. -/
theorem yields_round
    (h : Prog.Yields ((ctx.check : Attempt Unit) >>= fun _ => doze wake again).run t r) :
    ctx.Wakes wake t r ∨
      ∃ s u, t = s ++ u ∧ ctx.Dozes wake s ∧ Prog.Yields again.run u r := by
  rcases Task.yields_bind_cases h with ⟨e, rfl, fails⟩ | ⟨c, u, _, rfl, passes, dozes⟩
  · exact .inl (.done (check_yields_error_iff.1 fails))
  · have live : ctx.Passes c := check_yields_ok_iff.1 passes
    obtain ⟨now, ⟨come, rfl, rfl⟩ | ⟨early, u, rfl, rest⟩⟩ := yields_doze dozes
    · exact .inl (.rested live come)
    · exact .inr ⟨_, u, by simp, .mk live (slice_iff.2 ⟨early, rfl⟩), rest⟩

theorem diverges_round
    (h : Prog.Diverges ((ctx.check : Attempt Unit) >>= fun _ => doze wake again).run t) :
    ∃ s u, t = s ++ u ∧ ctx.Dozes wake s ∧ Prog.Diverges again.run u := by
  rcases Task.diverges_bind h with checks | ⟨c, u, _, rfl, passes, dozes⟩
  · exact absurd checks ctx.check_not_diverges
  · have live : ctx.Passes c := check_yields_ok_iff.1 passes
    obtain ⟨(now : Instant), u, rfl, rest⟩ := Task.exists_diverges_request dozes
    split at rest
    · cases rest
    · next early =>
      obtain ⟨_, u, rfl, goesOn⟩ := Task.exists_diverges_request rest
      exact ⟨_, u, (List.append_assoc c [_, _] u).symm, .mk live (slice_iff.2 ⟨early, rfl⟩), goesOn⟩

/-- Where a round comes to sleep, it is for its slice, or it is over. -/
theorem reaches_round_sleeps {d : Duration}
    (h : Prog.Reaches ((ctx.check : Attempt Unit) >>= fun _ => doze wake again).run
      (t ++ [sleeps d])) :
    ctx.Dozes wake (t ++ [sleeps d]) ∨
      ∃ s u, t = s ++ u ∧ ctx.Dozes wake s ∧ Prog.Reaches again.run (u ++ [sleeps d]) := by
  obtain ⟨c, v, _, rfl, -, passes, dozes⟩ := Task.reaches_past ctx.check_looks not_looks_sleeps h
  have live : ctx.Passes c := check_yields_ok_iff.1 passes
  obtain ⟨(now : Instant), v, rfl, rest⟩ := Task.reaches_past_request dozes nofun
  split at rest
  · cases v <;> cases rest
  · next early =>
    have first : ctx.Dozes wake (c ++ [clockReads now, sleeps (min sleepSlice (wake - now))]) :=
      .mk live (slice_iff.2 ⟨early, rfl⟩)
    cases v with
    | nil =>
      obtain ⟨_, same, -⟩ := Task.reaches_request rest
      cases same
      exact .inl ((List.append_assoc c [_] [_]).symm ▸ first)
    | cons e v =>
      obtain ⟨_, rfl, goesOn⟩ := Task.reaches_request (t := v ++ [sleeps d]) rest
      exact .inr ⟨_, v, (List.append_assoc c [_, _] v).symm, first, goesOn⟩

end Round

/-! ## All rounds -/

/-- So many rounds that each end with a slice. -/
inductive Turns (ctx : Context) (wake : Instant) : Nat → Trace → Prop
  | none : Turns ctx wake 0 []
  | more {n : Nat} {s t : Trace} (first : ctx.Dozes wake s) (rest : Turns ctx wake n t) :
      Turns ctx wake (n + 1) (s ++ t)

namespace Turns

variable {n : Nat} {r : Except Error Unit}

/-- What is left after some rounds. -/
theorem leads (h : ctx.Turns wake n s) (left : Nat) :
    Prog.Leads (ctx.sleepUntil wake (left + n) : Attempt Unit).run s
      (ctx.sleepUntil wake left : Attempt Unit).run := by
  induction h with
  | none => exact .start _
  | more first _ ih => exact first.leads.trans ih

/-- The last of some rounds. -/
theorem last (h : ctx.Turns wake (n + 1) t) :
    ∃ s u, t = s ++ u ∧ ctx.Turns wake n s ∧ ctx.Dozes wake u := by
  induction n generalizing t with
  | zero =>
    obtain _ | ⟨first, ⟨⟩⟩ := h
    exact ⟨[], _, List.append_nil _, .none, first⟩
  | succ n ih =>
    cases h with
    | @more _ s _ first rest =>
      obtain ⟨s', u, rfl, turns, last⟩ := ih rest
      exact ⟨s ++ s', u, (List.append_assoc ..).symm, .more first turns, last⟩

theorem concat (h : ctx.Turns wake n s) (last : ctx.Dozes wake u) :
    ctx.Turns wake (n + 1) (s ++ u) := by
  induction h with
  | none => simpa using Turns.more last .none
  | more first _ ih =>
    rw [List.append_assoc]
    exact .more first ih

end Turns

theorem sleepUntil_yields_iff {r : Except Error Unit} :
    Prog.Yields (ctx.sleepUntil wake rounds : Attempt Unit).run t r ↔
      ∃ n < rounds, ∃ s u, t = s ++ u ∧ ctx.Turns wake n s ∧ ctx.Wakes wake u r := by
  constructor
  · intro h
    induction rounds generalizing t with
    | zero => cases h
    | succ rounds ih =>
      rw [sleepUntil_succ] at h
      rcases yields_round h with last | ⟨s, u, rfl, first, rest⟩
      · exact ⟨0, Nat.succ_pos _, [], t, rfl, .none, last⟩
      · obtain ⟨n, lt, s', u, rfl, turns, last⟩ := ih rest
        exact ⟨n + 1, Nat.succ_lt_succ lt, s ++ s', u, (List.append_assoc ..).symm,
          .more first turns, last⟩
  · rintro ⟨n, lt, s, u, rfl, turns, last⟩
    -- The last round is one of those that are left after `n` of them.
    obtain ⟨left, rfl⟩ : ∃ left, rounds = left + 1 + n := ⟨rounds - 1 - n, by omega⟩
    exact (turns.leads (left + 1)).yields_iff.2 last.yields

theorem sleepUntil_diverges_iff :
    Prog.Diverges (ctx.sleepUntil wake rounds : Attempt Unit).run t ↔ ctx.Turns wake rounds t := by
  constructor
  · intro h
    induction rounds generalizing t with
    | zero =>
      cases h
      exact .none
    | succ rounds ih =>
      rw [sleepUntil_succ] at h
      obtain ⟨s, u, rfl, first, rest⟩ := diverges_round h
      exact .more first (ih rest)
  · intro turns
    have rest : Prog.Diverges (ctx.sleepUntil wake 0 : Attempt Unit).run [] := .here
    simpa using (turns.leads 0).diverges_iff.2 rest

theorem sleepUntil_sleeps_iff {d : Duration} :
    Prog.Reaches (ctx.sleepUntil wake rounds : Attempt Unit).run (t ++ [sleeps d]) ↔
      ∃ n < rounds, ∃ s c now, t = s ++ (c ++ [clockReads now]) ∧ ctx.Turns wake n s ∧
        ctx.Passes c ∧ Slice wake now d := by
  constructor
  · intro h
    -- A slice is the end of a round, so there have been whole rounds up to this one.
    obtain ⟨n, lt, turns⟩ : ∃ n < rounds, ctx.Turns wake (n + 1) (t ++ [sleeps d]) := by
      induction rounds generalizing t with
      | zero => cases t <;> cases h
      | succ rounds ih =>
        rw [sleepUntil_succ] at h
        rcases reaches_round_sleeps h with last | ⟨s, u, rfl, first, rest⟩
        · exact ⟨0, Nat.succ_pos _, Turns.none.concat last⟩
        · obtain ⟨n, lt, turns⟩ := ih rest
          refine ⟨n + 1, Nat.succ_lt_succ lt, ?_⟩
          rw [List.append_assoc]
          exact .more first turns
    obtain ⟨s, _, eq, before, @⟨c, now, d', live, slice⟩⟩ := turns.last
    have eq : t ++ [sleeps d] = s ++ (c ++ [clockReads now]) ++ [sleeps d'] := by simpa using eq
    obtain ⟨rfl, same⟩ := List.append_inj' eq rfl
    cases same
    exact ⟨n, lt, s, c, now, rfl, before, live, slice⟩
  · rintro ⟨n, lt, s, c, now, rfl, turns, live, slice⟩
    obtain ⟨left, rfl⟩ : ∃ left, rounds = left + (n + 1) := ⟨rounds - (n + 1), by omega⟩
    simpa using ((turns.concat (.mk live slice)).leads left).reaches_iff.2 (.start _)

/-- The flag is asked for at the beginning of a round. -/
theorem sleepUntil_flag {e' : Prog.Event Engine.onSystem}
    (flag : e'.request = .inr (.isCancelled ctx.token))
    (h : Prog.Reaches (ctx.sleepUntil wake rounds : Attempt Unit).run (s ++ e' :: u)) :
    ∃ n < rounds, ctx.Turns wake n s := by
  induction rounds generalizing s with
  | zero => cases s <;> cases h
  | succ rounds ih =>
    cases s with
    | nil => exact ⟨0, Nat.succ_pos _, .none⟩
    | cons e s =>
      -- A round has begun, and it goes on until it has slept, before the next one asks.
      rw [sleepUntil_succ] at h
      obtain ⟨c, v, eq, live, dozes⟩ := reaches_past_check flag h
      obtain ⟨(now : Instant), v, rfl, rest⟩ :=
        Task.reaches_past_request dozes (by rw [flag]; nofun)
      split at rest
      · cases v <;> cases rest
      · next early =>
        obtain ⟨_, v, rfl, goesOn⟩ := Task.reaches_past_request rest (by rw [flag]; nofun)
        obtain ⟨n, lt, turns⟩ := ih goesOn
        refine ⟨n + 1, Nat.succ_lt_succ lt, ?_⟩
        have turns := Turns.more (.mk live (slice_iff.2 ⟨early, rfl⟩)) turns
        rw [List.append_assoc] at turns
        rw [eq]
        exact turns

/-- What a sleep does that may take so many rounds. -/
structure SleepsInSlices (ctx : Context) (duration : Duration) (rounds : Nat) : Prop where
  /-- At first it reads the clock. -/
  starts {e : Prog.Event Engine.onSystem} {t : Trace}
    (h : Prog.Reaches (ctx.sleep duration rounds : Attempt Unit).run (e :: t)) :
    ∃ start, e = clockReads start
  /-- After some rounds it finds its context done and fails with that, or it finds the context live
  and then the clock at or past its end. -/
  ends {start : Instant} {t : Trace} {r : Except Error Unit} :
    Prog.Yields (ctx.sleep duration rounds : Attempt Unit).run (clockReads start :: t) r ↔
      ∃ n < rounds, ∃ s u, t = s ++ u ∧ ctx.Turns (start + duration) n s ∧
        ctx.Wakes (start + duration) u r
  /-- It sleeps only for a slice of the time that is left, after its context was found live. -/
  slices {start : Instant} {t : Trace} {d : Duration} :
    Prog.Reaches (ctx.sleep duration rounds : Attempt Unit).run
        (clockReads start :: (t ++ [sleeps d])) ↔
      ∃ n < rounds, ∃ s c now, t = s ++ (c ++ [clockReads now]) ∧
        ctx.Turns (start + duration) n s ∧ ctx.Passes c ∧ Slice (start + duration) now d
  /-- Once its context is found done, nothing follows. -/
  final {start : Instant} {s c u : Trace} {e : Error} (fails : ctx.Fails c e)
    (h : Prog.Reaches (ctx.sleep duration rounds : Attempt Unit).run
      (clockReads start :: (s ++ c ++ u))) :
    u = [] ∧
      Prog.Yields (ctx.sleep duration rounds : Attempt Unit).run (clockReads start :: (s ++ c))
        (.error e)
  /-- It has no end only if none of its rounds is the last. -/
  unended {start : Instant} {t : Trace} :
    Prog.Diverges (ctx.sleep duration rounds : Attempt Unit).run (clockReads start :: t) ↔
      ctx.Turns (start + duration) rounds t

theorem Fails.flag {c : Trace} (h : ctx.Fails c e) :
    ∃ flagSet v, c = ⟨.inr (.isCancelled ctx.token), flagSet⟩ :: v := by
  cases h <;> exact ⟨_, _, rfl⟩

/-- Once a check fails, nothing follows. -/
theorem sleepUntil_final {c : Trace} (fails : ctx.Fails c e)
    (h : Prog.Reaches (ctx.sleepUntil wake rounds : Attempt Unit).run (s ++ c ++ u)) :
    u = [] ∧ ∃ n < rounds, ctx.Turns wake n s := by
  rw [List.append_assoc] at h
  -- A check that fails asks for the flag first, so it is at the beginning of a round.
  obtain ⟨n, lt, turns⟩ : ∃ n < rounds, ctx.Turns wake n s := by
    obtain ⟨flagSet, v, rfl⟩ := fails.flag
    exact sleepUntil_flag rfl h
  obtain ⟨left, rfl⟩ : ∃ left, rounds = left + 1 + n := ⟨rounds - 1 - n, by omega⟩
  have checks := (turns.leads (left + 1)).reaches_iff.1 h
  have ends := (check_yields_error_iff.2 fails).reaches_after checks
  cases ends
  exact ⟨rfl, n, lt, turns⟩

theorem sleep_leads (ctx : Context) (duration : Duration) (rounds : Nat) (start : Instant) :
    Prog.Leads (ctx.sleep duration rounds : Attempt Unit).run [clockReads start]
      (ctx.sleepUntil (start + duration) rounds : Attempt Unit).run :=
  .ask (I := Engine.onSystem) (r := .inr .now) start (.start _)

/-- Whatever a clock shows and whenever a context becomes done, a sleep goes in rounds. It looks at
its context and then at the clock. It succeeds only if the clock is at or past its end and the
context was found live just before, and as soon as the context is found done it fails with that,
however short the sleep. Each slice fits into the time that is left, and none follows once the
context is found done. -/
theorem sleep_goes_in_slices (ctx : Context) (duration : Duration) (rounds : Nat) :
    ctx.SleepsInSlices duration rounds := by
  have leads (start : Instant) := ctx.sleep_leads duration rounds start
  exact {
    starts := fun h => by
      obtain ⟨start, same, -⟩ := Task.reaches_request h
      exact ⟨start, same⟩
    ends := (leads _).yields_iff.trans sleepUntil_yields_iff
    slices := (leads _).reaches_iff.trans sleepUntil_sleeps_iff
    final := fun fails h => by
      obtain ⟨rfl, n, lt, turns⟩ := sleepUntil_final fails ((leads _).reaches_iff.1 h)
      have ends := sleepUntil_yields_iff.2 ⟨n, lt, _, _, rfl, turns, .done fails⟩
      exact ⟨rfl, (leads _).yields_iff.2 ends⟩
    unended := (leads _).diverges_iff.trans sleepUntil_diverges_iff }

/-- A context that nothing but its flag ends. -/
def unbounded : Context := ⟨⟨0⟩, none⟩

/-- The flag of this context is looked at. -/
def flagShows (flagSet : Bool) : Prog.Event Engine.onSystem :=
  ⟨.inr (.isCancelled unbounded.token), flagSet⟩

/-- Sixty milliseconds take two slices if nothing happens meanwhile. If the context is cancelled
during the first one, there is no second, and under a context that is cancelled already there is
none even if there is no time to sleep for. -/
theorem sixty_milliseconds_take_two_slices :
    Prog.Yields (unbounded.sleep (.ofMillis 60) 3 : Attempt Unit).run
      [clockReads ⟨0⟩, flagShows false, clockReads ⟨0⟩, sleeps (.ofMillis 50), flagShows false,
        clockReads ⟨50000000⟩, sleeps (.ofMillis 10), flagShows false, clockReads ⟨60000000⟩]
      (.ok ()) ∧
    Prog.Yields (unbounded.sleep (.ofMillis 60) 3 : Attempt Unit).run
      [clockReads ⟨0⟩, flagShows false, clockReads ⟨0⟩, sleeps (.ofMillis 50), flagShows true]
      (.error (.cancelled "context cancelled")) ∧
    ∀ u, Prog.Reaches (unbounded.sleep .zero 3 : Attempt Unit).run
      (clockReads ⟨0⟩ :: flagShows true :: u) → u = [] := by
  have live : unbounded.Passes [flagShows false] := .unbounded rfl
  have revoked : unbounded.Fails [flagShows true] Cause.cancelled.error := .cancelled
  have long : unbounded.Dozes ⟨60000000⟩
      [flagShows false, clockReads ⟨0⟩, sleeps (.ofMillis 50)] :=
    .mk live (slice_iff.2 ⟨by decide, rfl⟩)
  have short : unbounded.Dozes ⟨60000000⟩
      [flagShows false, clockReads ⟨50000000⟩, sleeps (.ofMillis 10)] :=
    .mk live (slice_iff.2 ⟨by decide, rfl⟩)
  have sixty := sleep_goes_in_slices unbounded (.ofMillis 60) 3
  refine ⟨sixty.ends.2 ⟨2, by decide, _, _, rfl, .more long (.more short .none), ?_⟩,
    sixty.ends.2 ⟨1, by decide, _, _, rfl, .more long .none, .done revoked⟩, fun u h => ?_⟩
  · exact .rested live (by decide)
  · exact ((sleep_goes_in_slices unbounded .zero 3).final (s := []) revoked h).1

end Context

end Testbed
