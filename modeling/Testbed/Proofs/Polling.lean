import Testbed.Proofs.Vigilance

/-!
# Polling

The port of a container and the master of a replica set are waited for in the same way: a question
is asked until it is answered as hoped, or with a failure, or until there is no time left after an
answer. Between two questions there is a pause, which ends by the deadline.
-/

namespace Testbed

/-! ## One task after another -/

theorem Prog.Yields.reaches_after {I : Interface} {α β : Type} {p : Prog I α} {f : α → Prog I β}
    {s u : List (Event I)} {a : α} (h : Yields p s a) (ht : Reaches (p >>= f) (s ++ u)) :
    Reaches (f a) u := by
  induction h with
  | done => exact ht
  | ask b _ ih =>
    cases ht with
    | ask _ rest => exact ih rest

/-- What has been asked may be replied to in any way. -/
theorem Prog.Reaches.reply {I : Interface} {α : Type} {p : Prog I α} {t : List (Event I)}
    {r : I.Request} {b : I.Reply r} (h : Reaches p (t ++ [⟨r, b⟩])) (b' : I.Reply r) :
    Reaches p (t ++ [⟨r, b'⟩]) := by
  induction t generalizing p with
  | nil =>
    cases h with
    | ask _ _ => exact .ask b' (.start _)
  | cons e t ih =>
    cases h with
    | ask b rest => exact .ask b (ih rest)

theorem Prog.yields_request {I : Interface} (r : I.Request) (b : I.Reply r) :
    Yields (request r) [⟨r, b⟩] b :=
  .ask b (.done b)

namespace Task

variable {I : Interface} {ε α β : Type} {task : ExceptT ε (Prog I) α}
  {f : α → ExceptT ε (Prog I) β} {s t u : List (Prog.Event I)} {P : I.Request → Prop}

theorem yields_seq {a : α} {r : Except ε β} (h : Prog.Yields task.run s (.ok a))
    (rest : Prog.Yields (f a).run u r) : Prog.Yields (task >>= f).run (s ++ u) r :=
  Prog.yields_bind.2 ⟨s, u, .ok a, rfl, h, rest⟩

theorem yields_error {e : ε} (h : Prog.Yields task.run s (.error e)) :
    Prog.Yields (task >>= f).run s (.error e) :=
  Prog.yields_bind.2 ⟨s, [], .error e, (List.append_nil s).symm, h, .done _⟩

theorem yields_bind_cases {r : Except ε β} (h : Prog.Yields (task >>= f).run t r) :
    (∃ e, r = .error e ∧ Prog.Yields task.run t (.error e)) ∨
      ∃ s u a, t = s ++ u ∧ Prog.Yields task.run s (.ok a) ∧ Prog.Yields (f a).run u r := by
  cases r with
  | ok b => exact .inr (yields_bind h)
  | error e =>
    rcases yields_bind_error h with failed | later
    · exact .inl ⟨e, rfl, failed⟩
    · exact .inr later

theorem reaches_bind (h : Prog.Reaches (task >>= f).run t) :
    Prog.Reaches task.run t ∨
      ∃ s u a, t = s ++ u ∧ Prog.Yields task.run s (.ok a) ∧ Prog.Reaches (f a).run u := by
  rcases Prog.reaches_bind.1 h with early | ⟨s, u, r, rfl, hs, hu⟩
  · exact .inl early
  · cases r with
    | ok a => exact .inr ⟨s, u, a, rfl, hs, hu⟩
    | error e =>
      cases hu
      rw [List.append_nil]
      exact .inl hs.reaches

theorem yields_request {r : I.Request} {f : I.Reply r → ExceptT ε (Prog I) β} {b : I.Reply r}
    {x : Except ε β} (h : Prog.Yields (f b).run t x) :
    Prog.Yields ((liftM (Prog.request r) : ExceptT ε (Prog I) (I.Reply r)) >>= f).run
      (⟨r, b⟩ :: t) x :=
  .ask b h

theorem reaches_request {r : I.Request} {f : I.Reply r → ExceptT ε (Prog I) β} {e : Prog.Event I}
    (h : Prog.Reaches ((liftM (Prog.request r) : ExceptT ε (Prog I) (I.Reply r)) >>= f).run
      (e :: t)) : ∃ b, e = ⟨r, b⟩ ∧ Prog.Reaches (f b).run t := by
  cases h with
  | ask b rest => exact ⟨b, rfl, rest⟩

/-- A request that is not the first one comes after it. -/
theorem reaches_past_request {r : I.Request} {f : I.Reply r → ExceptT ε (Prog I) β}
    {e : Prog.Event I}
    (h : Prog.Reaches ((liftM (Prog.request r) : ExceptT ε (Prog I) (I.Reply r)) >>= f).run
      (s ++ e :: u)) (other : e.request ≠ r) :
    ∃ b v, s = ⟨r, b⟩ :: v ∧ Prog.Reaches (f b).run (v ++ e :: u) := by
  cases s with
  | nil =>
    obtain ⟨b, rfl, -⟩ := reaches_request h
    exact absurd rfl other
  | cons e' v =>
    obtain ⟨b, rfl, rest⟩ := reaches_request h
    exact ⟨b, v, rfl, rest⟩

theorem exists_yields_request {r : I.Request} {f : I.Reply r → ExceptT ε (Prog I) β}
    {x : Except ε β}
    (h : Prog.Yields ((liftM (Prog.request r) : ExceptT ε (Prog I) (I.Reply r)) >>= f).run t x) :
    ∃ b u, t = ⟨r, b⟩ :: u ∧ Prog.Yields (f b).run u x := by
  cases h with
  | ask b rest => exact ⟨b, _, rfl, rest⟩

/-- A request that the first task does not make comes after it. -/
theorem reaches_past {e : Prog.Event I} (only : Only P task) (other : ¬ P e.request)
    (h : Prog.Reaches (task >>= f).run (s ++ e :: u)) :
    ∃ v w a, s = v ++ w ∧ (∀ e ∈ v, P e.request) ∧ Prog.Yields task.run v (.ok a) ∧
      Prog.Reaches (f a).run (w ++ e :: u) := by
  rcases reaches_bind h with early | ⟨v, y, a, eq, hv, hy⟩
  · exact absurd (Prog.Only.reaches only early e (by simp)) other
  · have made := Prog.Only.reaches only hv.reaches
    rcases List.append_eq_append_iff.1 eq with ⟨w, rfl, rest⟩ | ⟨w, rfl, rest⟩
    · -- The first task would have to make the request.
      cases w with
      | nil =>
        rw [List.append_nil] at hv made
        exact ⟨s, [], a, (List.append_nil s).symm, made, hv, rest ▸ hy⟩
      | cons e' w =>
        cases rest
        exact absurd (made e (by simp)) other
    · exact ⟨v, w, a, rfl, made, hv, rest ▸ hy⟩

end Task

/-! ## What is seen of a poll -/

/-- A reading of the clock. -/
def clockReads (now : Instant) : Prog.Event Engine.onSystem := ⟨Sum.inr .now, now⟩

def sleeps (d : Duration) : Prog.Event Engine.onSystem := ⟨Sum.inr (.sleep d), ()⟩

instance : DecidableEq Engine.onSystem.Request :=
  inferInstanceAs (DecidableEq (Engine.Request ⊕ System.Request))

/-- How often the engine was asked `r`. -/
def Trace.times (r : Engine.Request) (t : Trace) : Nat :=
  t.countP (·.request = .inl r)

/-- What the clock showed, in order. -/
def Trace.readings (t : Trace) : List Instant :=
  t.filterMap fun
    | ⟨.inr .now, now⟩ => some now
    | _ => none

/-- A pause is no longer than the interval, and than the time that is left. -/
structure Fits (timeout interval elapsed pause : Duration) : Prop where
  left : elapsed.nanos < timeout.nanos
  regular : pause ≤ interval
  inTime : elapsed.nanos + pause.nanos ≤ timeout.nanos

/-- How a poll ends: with an answer, for want of time after an answer, or because its context is
found done. `Answers` tells what an answer looks like, and `Late` what is reported of the last. -/
inductive Ended (ctx : Context) (timeout : Duration) (Answers : Trace → Except Error Bool → Prop)
    (Late : Trace → Trace → Error → Prop) : Trace → Except Error Unit → Prop
  | positive {s w : Trace} (answer : Answers w (.ok true)) :
      Ended ctx timeout Answers Late (s ++ w) (.ok ())
  | hopeless {s w : Trace} {e : Error} (answer : Answers w (.error e)) :
      Ended ctx timeout Answers Late (s ++ w) (.error e)
  | late {started now : Instant} {s w : Trace} {e : Error} (answer : Answers w (.ok false))
      (passed : timeout ≤ now - started) (reports : Late s w e) :
      Ended ctx timeout Answers Late (clockReads started :: (s ++ w ++ [clockReads now]))
        (.error e)
  | done {s c : Trace} {e : Error} (fails : ctx.Fails c e) :
      Ended ctx timeout Answers Late (s ++ c) (.error e)

/-- A poll reads the clock when it begins. A positive answer is its success and a hopeless one its
failure, at once. After any other answer it reads the clock again: if `timeout` has passed it fails
at once, and otherwise there is a pause that fits. It ends and sleeps in no other way. -/
structure PollsExactly (ctx : Context) (rounds : Nat) (timeout interval : Duration)
    (Answers : Trace → Except Error Bool → Prop) (Late : Trace → Trace → Error → Prop)
    (poll : Attempt Unit) : Prop where
  positive {s w u : Trace} (answer : Answers w (.ok true))
    (h : Prog.Reaches poll.run (s ++ w ++ u)) :
    u = [] ∧ Prog.Yields poll.run (s ++ w) (.ok ())
  hopeless {s w u : Trace} {e : Error} (answer : Answers w (.error e))
    (h : Prog.Reaches poll.run (s ++ w ++ u)) :
    u = [] ∧ Prog.Yields poll.run (s ++ w) (.error e)
  negative {s w u : Trace} (answer : Answers w (.ok false))
    (h : Prog.Reaches poll.run (s ++ w ++ u)) :
    (∀ now, Prog.Reaches poll.run (s ++ w ++ [clockReads now])) ∧
      ∀ e ∈ u.head?, ∃ now, e = clockReads now
  late {started now : Instant} {s w u : Trace} (answer : Answers w (.ok false))
    (passed : timeout ≤ now - started)
    (h : Prog.Reaches poll.run (clockReads started :: (s ++ w ++ clockReads now :: u))) :
    u = [] ∧ ∃ e, Late s w e ∧
      Prog.Yields poll.run (clockReads started :: (s ++ w ++ [clockReads now])) (.error e)
  early {started now : Instant} {s w u : Trace} (answer : Answers w (.ok false))
    (inTime : ¬ timeout ≤ now - started)
    (h : Prog.Reaches poll.run (clockReads started :: (s ++ w ++ clockReads now :: u))) :
    ∃ pause, Fits timeout interval (now - started) pause ∧
      (Prog.Reaches (ctx.sleep pause rounds : Attempt Unit).run u ∨
        ∃ v u', u = v ++ u' ∧ Prog.Yields (ctx.sleep pause rounds : Attempt Unit).run v (.ok ()))
  ends {t : Trace} {r : Except Error Unit} (h : Prog.Yields poll.run t r) :
    Ended ctx timeout Answers Late t r
  rests {t : Trace} {d : Duration} (h : Prog.Reaches poll.run (t ++ [sleeps d])) :
    ∃ started now s w v pause, t = clockReads started :: (s ++ w ++ clockReads now :: v) ∧
      Answers w (.ok false) ∧ Fits timeout interval (now - started) pause ∧
      Prog.Reaches (ctx.sleep pause rounds : Attempt Unit).run (v ++ [sleeps d]) ∧
      (t.readings.Pairwise (· ≤ ·) → d ≤ pause)

/-! ## Polls -/

/-- A question that is asked of an engine for some time. -/
structure Poll where
  /-- What is done before it is asked. -/
  before : Attempt Unit
  question : Engine.Request
  /-- Whether an answer is as hoped. -/
  verdict : Engine.Reply question → Attempt Bool
  timeout : Duration
  interval : Duration
  /-- What is reported when there is no time left after so many answers. -/
  late : Nat → Engine.Reply question → Error

namespace Poll

variable (P : Poll) (ctx : Context) (rounds : Nat) (started : Instant)

/-- What is done after a negative answer. -/
def settle (asked : Nat) (b : Engine.Reply P.question) (again : Attempt Unit) : Attempt Unit := do
  let now ← (System.now : Action Instant)
  if P.timeout ≤ now - started then throw (P.late asked b)
  else do
    ctx.sleep (min P.interval (P.timeout - (now - started))) rounds
    again

/-- What is done after an answer. -/
def judge (asked : Nat) (b : Engine.Reply P.question) (again : Attempt Unit) : Attempt Unit := do
  let positive ← P.verdict b
  if positive then return () else P.settle ctx rounds started asked b again

/-- What is done once it is known how an answer is. -/
def conclude (asked : Nat) (b : Engine.Reply P.question) (again : Attempt Unit) :
    Except Error Bool → Attempt Unit
  | .ok true => return ()
  | .ok false => P.settle ctx rounds started asked b again
  | .error e => throw e

/-- Asks until the answer is as hoped or the time has passed; so many answers came before. -/
def run (asked : Nat) : Nat → Attempt Unit
  | 0 => .mk .diverge
  | left + 1 => do
    P.before
    let b ← (Engine.ask P.question : Action (Engine.Reply P.question))
    P.judge ctx rounds started (asked + 1) b (run (asked + 1) left)

def wait : Attempt Unit := do
  let started ← (System.now : Action Instant)
  P.run ctx rounds started 0 rounds

/-- What is requested besides the question. -/
def Aside (r : Engine.onSystem.Request) : Prop :=
  r ≠ .inl P.question

/-- What is requested besides the question and the pauses. -/
def Awake (r : Engine.onSystem.Request) : Prop :=
  P.Aside r ∧ ∀ d, r ≠ .inr (.sleep d)

/-- Nothing but `run` asks the question or sleeps, and before a question nothing but the context
fails. -/
structure Sound : Prop where
  before : Task.Only P.Awake P.before
  verdict : ∀ b, Task.Only P.Awake (P.verdict b)
  fails : ∀ t e, Prog.Yields P.before.run t (.error e) → ctx.Fails t e

def Answers (w : Trace) (r : Except Error Bool) : Prop :=
  ∃ (b : Engine.Reply P.question) (v : Trace),
    w = ⟨.inl P.question, b⟩ :: v ∧ Prog.Yields (P.verdict b).run v r

def Late (s w : Trace) (e : Error) : Prop :=
  ∃ (b : Engine.Reply P.question) (v : Trace),
    w = ⟨.inl P.question, b⟩ :: v ∧ e = P.late (s.times P.question + 1) b

variable {P ctx rounds started} {asked left : Nat} {b : Engine.Reply P.question}
  {again : Attempt Unit} {s t u v w : Trace}

theorem now_aside : Task.Only P.Aside (liftM (System.now : Action Instant) : Attempt Instant) :=
  ⟨nofun, fun _ => trivial⟩

theorem sleep_aside (pause : Duration) :
    Task.Only P.Aside (ctx.sleep pause rounds : Attempt Unit) :=
  (ctx.sleep_waits pause rounds).mono fun r waits eq => by rw [eq] at waits; exact waits

theorem times_append (s t : Trace) :
    (s ++ t).times P.question = s.times P.question + t.times P.question :=
  List.countP_append

theorem times_aside (aside : ∀ e ∈ s, P.Aside e.request) : s.times P.question = 0 :=
  List.countP_eq_zero.2 fun e mem => by rw [decide_eq_true_iff]; exact aside e mem

theorem times_question (b : Engine.Reply P.question) (t : Trace) :
    Trace.times P.question (⟨.inl P.question, b⟩ :: t) = t.times P.question + 1 :=
  List.countP_cons_of_pos (by simp)

theorem Sound.aside_before (sound : P.Sound ctx) {r : Except Error Unit}
    (h : Prog.Yields P.before.run t r) : ∀ e ∈ t, P.Aside e.request :=
  fun e mem => (Prog.Only.reaches sound.before h.reaches e mem).1

theorem Sound.aside_verdict (sound : P.Sound ctx) {r : Except Error Bool}
    (h : Prog.Yields (P.verdict b).run t r) : ∀ e ∈ t, P.Aside e.request :=
  fun e mem => (Prog.Only.reaches (sound.verdict b) h.reaches e mem).1

theorem question_not_aside : ¬ P.Aside (.inl P.question) :=
  fun h => h rfl

theorem reaches_ask {f : Engine.Reply P.question → Attempt Unit} {e : Prog.Event Engine.onSystem}
    (h : Prog.Reaches ((liftM (Engine.ask P.question : Action (Engine.Reply P.question)) :
      Attempt (Engine.Reply P.question)) >>= f).run (e :: t)) :
    ∃ b : Engine.Reply P.question, e = ⟨.inl P.question, b⟩ ∧ Prog.Reaches (f b).run t :=
  Task.reaches_request h

theorem yields_ask {f : Engine.Reply P.question → Attempt Unit} {r : Except Error Unit}
    (h : Prog.Yields ((liftM (Engine.ask P.question : Action (Engine.Reply P.question)) :
      Attempt (Engine.Reply P.question)) >>= f).run t r) :
    ∃ (b : Engine.Reply P.question) (u : Trace), t = ⟨.inl P.question, b⟩ :: u ∧
      Prog.Yields (f b).run u r :=
  Task.exists_yields_request h

/-- After an answer the question comes up again only in the next round. -/
theorem reaches_judge_question (sound : P.Sound ctx) {b' : Engine.Reply P.question}
    (h : Prog.Reaches (P.judge ctx rounds started asked b again).run
      (s ++ ⟨.inl P.question, b'⟩ :: u)) :
    ∃ v w, s = v ++ w ∧ (∀ e ∈ v, P.Aside e.request) ∧
      Prog.Reaches again.run (w ++ ⟨.inl P.question, b'⟩ :: u) ∧
      ∀ t r, Prog.Yields again.run t r →
        Prog.Yields (P.judge ctx rounds started asked b again).run (v ++ t) r := by
  have verdict : Task.Only P.Aside (P.verdict b) := (sound.verdict b).mono fun _ => And.left
  obtain ⟨v₁, w₁, positive, rfl, aside₁, judged, rest⟩ :=
    Task.reaches_past verdict question_not_aside h
  cases positive with
  -- The poll ends at a positive answer, and nothing is asked any more.
  | true => cases w₁ <;> cases rest
  | false =>
    obtain ⟨v₂, w₂, now, rfl, aside₂, read, rest⟩ :=
      Task.reaches_past (P := P.Aside) now_aside question_not_aside rest
    by_cases passed : P.timeout ≤ now - started
    · rw [if_pos passed] at rest
      cases w₂ <;> cases rest
    · rw [if_neg passed] at rest
      obtain ⟨v₃, w₃, _, rfl, aside₃, slept, rest⟩ :=
        Task.reaches_past (P := P.Aside) (sleep_aside _) question_not_aside rest
      refine ⟨v₁ ++ (v₂ ++ v₃), w₃, by simp, ?_, rest, fun t r ht => ?_⟩
      · simpa only [List.forall_mem_append] using ⟨aside₁, aside₂, aside₃⟩
      · have settled : Prog.Yields (P.settle ctx rounds started asked b again).run
            (v₂ ++ (v₃ ++ t)) r :=
          Task.yields_seq read (by rw [if_neg passed]; exact Task.yields_seq slept ht)
        rw [List.append_assoc, List.append_assoc]
        exact Task.yields_seq judged settled

/-- Where the question is asked, the poll goes on with what is done after the answer. -/
theorem reaches_run_question (sound : P.Sound ctx)
    (h : Prog.Reaches (P.run ctx rounds started asked left).run
      (s ++ ⟨.inl P.question, b⟩ :: u)) :
    ∃ again : Attempt Unit,
      Prog.Reaches (P.judge ctx rounds started (asked + s.times P.question + 1) b again).run u ∧
      ∀ t r,
        Prog.Yields (P.judge ctx rounds started (asked + s.times P.question + 1) b again).run t r →
        Prog.Yields (P.run ctx rounds started asked left).run
          (s ++ ⟨.inl P.question, b⟩ :: t) r := by
  induction left generalizing asked s with
  | zero => cases s <;> cases h
  | succ left ih =>
    have before : Task.Only P.Aside P.before := sound.before.mono fun _ => And.left
    obtain ⟨v, w, _, rfl, aside, prepared, rest⟩ :=
      Task.reaches_past before question_not_aside h
    simp only [times_append, times_aside aside, Nat.zero_add, List.append_assoc]
    cases w with
    -- The question is the one of this round.
    | nil =>
      obtain ⟨_, same, rest⟩ := reaches_ask rest
      cases same
      exact ⟨_, rest, fun t r ht => Task.yields_seq prepared (Task.yields_request ht)⟩
    -- This round is over before the question, so it is the one of a later round.
    | cons e w =>
      obtain ⟨b', rfl, judges⟩ := reaches_ask rest
      obtain ⟨v', w, rfl, aside', repeats, judged⟩ := reaches_judge_question sound (s := w) judges
      obtain ⟨again, rest, goesOn⟩ := ih repeats
      rw [times_question, times_append, times_aside aside', Nat.zero_add,
        ← Nat.add_right_comm asked 1]
      refine ⟨again, rest, fun t r ht => Task.yields_seq prepared (Task.yields_request ?_)⟩
      have goesOn := judged _ r (goesOn t r ht)
      rwa [← List.append_assoc] at goesOn

/-- The answers of a poll come after its first reading of the clock. -/
theorem reaches_wait (h : Prog.Reaches (P.wait ctx rounds).run
      (s ++ ⟨.inl P.question, b⟩ :: u)) :
    ∃ (started : Instant) (s' : Trace), s = clockReads started :: s' ∧
      Prog.Reaches (P.run ctx rounds started 0 rounds).run (s' ++ ⟨.inl P.question, b⟩ :: u) := by
  obtain ⟨started, s', rfl, rest⟩ := Task.reaches_past_request h nofun
  exact ⟨started, s', rfl, rest⟩

theorem settle_eq (asked : Nat) (b : Engine.Reply P.question) (again : Attempt Unit) :
    P.settle ctx rounds started asked b again = (do
      let elapsed := (← (System.now : Action Instant)) - started
      if P.timeout ≤ elapsed then throw (P.late asked b)
      ctx.sleep (min P.interval (P.timeout - elapsed)) rounds
      again) := by
  refine congrArg (_ >>= ·) (funext fun now : Instant => ?_)
  by_cases passed : P.timeout ≤ now - started
  · rw [if_pos passed, if_pos passed]
    rfl
  · rw [if_neg passed, if_neg passed]

theorem judge_run (asked : Nat) (b : Engine.Reply P.question) (again : Attempt Unit) :
    (P.judge ctx rounds started asked b again).run =
      (P.verdict b).run >>= fun r => (P.conclude ctx rounds started asked b again r).run := by
  refine congrArg ((P.verdict b).run >>= ·) (funext fun r => ?_)
  match r with
  | .ok true | .ok false | .error e => rfl

/-- Once the answer is in, a poll does what that answer calls for. -/
theorem reaches_answer (sound : P.Sound ctx) {r : Except Error Bool} (answer : P.Answers w r)
    (h : Prog.Reaches (P.wait ctx rounds).run (s ++ w ++ u)) :
    ∃ (started : Instant) (s' : Trace) (b : Engine.Reply P.question) (v : Trace)
        (again : Attempt Unit), s = clockReads started :: s' ∧ w = ⟨.inl P.question, b⟩ :: v ∧
      Prog.Reaches (P.conclude ctx rounds started (s'.times P.question + 1) b again r).run u ∧
      ∀ t x,
        Prog.Yields (P.conclude ctx rounds started (s'.times P.question + 1) b again r).run t x →
        Prog.Yields (P.wait ctx rounds).run (s ++ w ++ t) x := by
  obtain ⟨b, v, rfl, judged⟩ := answer
  rw [List.append_assoc, List.cons_append] at h
  obtain ⟨started, s, rfl, runs⟩ := reaches_wait h
  obtain ⟨again, rest, goesOn⟩ := reaches_run_question sound runs
  rw [Nat.zero_add, judge_run] at rest
  refine ⟨started, s, b, v, again, rfl, rfl, judged.reaches_after rest, fun t x ht => ?_⟩
  rw [Nat.zero_add, judge_run] at goesOn
  have whole := goesOn _ x (Prog.yields_bind.2 ⟨v, t, r, rfl, judged, ht⟩)
  rw [List.append_assoc]
  exact Task.yields_request whole

/-- After a negative answer the clock is read. -/
theorem reaches_settle {e : Prog.Event Engine.onSystem}
    (h : Prog.Reaches (P.settle ctx rounds started asked b again).run (e :: u)) :
    ∃ now, e = clockReads now ∧
      (P.timeout ≤ now - started → u = []) ∧
      (¬ P.timeout ≤ now - started →
        Prog.Reaches (ctx.sleep (min P.interval (P.timeout - (now - started))) rounds
            >>= fun _ => again : Attempt Unit).run u) := by
  obtain ⟨now, rfl, rest⟩ := Task.reaches_request h
  refine ⟨now, rfl, fun passed => ?_, fun inTime => ?_⟩
  · rw [if_pos passed] at rest
    cases rest
    rfl
  · rwa [if_neg inTime] at rest

theorem yields_settle {r : Except Error Unit}
    (h : Prog.Yields (P.settle ctx rounds started asked b again).run t r) :
    ∃ (now : Instant) (u : Trace), t = clockReads now :: u ∧
      (P.timeout ≤ now - started ∧ u = [] ∧ r = .error (P.late asked b) ∨
        ¬ P.timeout ≤ now - started ∧
          Prog.Yields (ctx.sleep (min P.interval (P.timeout - (now - started))) rounds
            >>= fun _ => again : Attempt Unit).run u r) := by
  obtain ⟨(now : Instant), u, rfl, rest⟩ := Task.exists_yields_request h
  refine ⟨now, u, rfl, ?_⟩
  by_cases passed : P.timeout ≤ now - started
  · rw [if_pos passed] at rest
    cases rest
    exact .inl ⟨passed, rfl, rfl⟩
  · rw [if_neg passed] at rest
    exact .inr ⟨passed, rest⟩

theorem yields_settle_late {now : Instant} (passed : P.timeout ≤ now - started) :
    Prog.Yields (P.settle ctx rounds started asked b again).run [clockReads now]
      (.error (P.late asked b)) := by
  refine Task.yields_request ?_
  rw [if_pos passed]
  exact .done _

/-- What is left of the time, and no more than the interval, fits. -/
theorem fits {elapsed : Duration} (inTime : ¬ P.timeout ≤ elapsed) :
    Fits P.timeout P.interval elapsed (min P.interval (P.timeout - elapsed)) where
  left := Nat.not_le.1 inTime
  regular := Nat.min_le_left _ _
  inTime := by
    have left : elapsed.nanos < P.timeout.nanos := Nat.not_le.1 inTime
    simp only [Duration.nanos_min, Duration.nanos_sub]
    omega

/-! ### Ends -/

/-- A round ends with a failure of the context before the question, or an answer is judged and the
poll does what it calls for. -/
theorem yields_round (sound : P.Sound ctx) {r : Except Error Unit}
    (h : Prog.Yields (P.run ctx rounds started asked (left + 1)).run t r) :
    (∃ e, r = .error e ∧ ctx.Fails t e) ∨
      ∃ (v x y : Trace) (b : Engine.Reply P.question) (judgement : Except Error Bool),
        t = v ++ ⟨.inl P.question, b⟩ :: (x ++ y) ∧ (∀ e ∈ v, P.Aside e.request) ∧
        (∀ e ∈ x, P.Aside e.request) ∧ Prog.Yields (P.verdict b).run x judgement ∧
        Prog.Yields (P.conclude ctx rounds started (asked + 1) b
          (P.run ctx rounds started (asked + 1) left) judgement).run y r := by
  rcases Task.yields_bind_cases h with ⟨e, rfl, failed⟩ | ⟨v, _, _, rfl, prepared, asks⟩
  · exact .inl ⟨e, rfl, sound.fails t e failed⟩
  · obtain ⟨b, u, rfl, judges⟩ := yields_ask asks
    rw [judge_run] at judges
    obtain ⟨x, y, judgement, rfl, judged, concludes⟩ := Prog.yields_bind.1 judges
    exact .inr ⟨v, x, y, b, judgement, rfl, sound.aside_before prepared,
      sound.aside_verdict judged, judged, concludes⟩

/-- What follows a negative answer: the time has passed, or the context ends the pause, or the
pause comes to its end and the poll goes on. -/
theorem yields_settle_cases {r : Except Error Unit}
    (h : Prog.Yields (P.settle ctx rounds started asked b again).run t r) :
    (∃ now, t = [clockReads now] ∧ P.timeout ≤ now - started ∧ r = .error (P.late asked b)) ∨
      (∃ y c e, t = y ++ c ∧ r = .error e ∧ ctx.Fails c e) ∨
      ∃ y z, t = y ++ z ∧ (∀ e ∈ y, P.Aside e.request) ∧ Prog.Yields again.run z r := by
  obtain ⟨now, u, rfl, ⟨passed, rfl, rfl⟩ | ⟨-, pauses⟩⟩ := yields_settle h
  · exact .inl ⟨now, rfl, passed, rfl⟩
  · rcases Task.yields_bind_cases pauses with ⟨e, rfl, failed⟩ | ⟨y, z, _, rfl, slept, goesOn⟩
    · obtain ⟨y, c, rfl, checked⟩ := Context.sleep_fails failed
      exact .inr (.inl ⟨clockReads now :: y, c, e, rfl, rfl, Context.check_fails checked⟩)
    · have aside : ∀ e ∈ clockReads now :: y, P.Aside e.request :=
        List.forall_mem_cons.2 ⟨nofun, Prog.Only.reaches (sleep_aside _) slept.reaches⟩
      exact .inr (.inr ⟨clockReads now :: y, z, rfl, aside, goesOn⟩)

/-- The invariant of the rounds: as many have been asked as there are questions in what came before,
which is `s`. -/
theorem ends_run (sound : P.Sound ctx) {r : Except Error Unit}
    (h : Prog.Yields (P.run ctx rounds started (s.times P.question) left).run t r) :
    Ended ctx P.timeout P.Answers P.Late (clockReads started :: (s ++ t)) r := by
  induction left generalizing s t with
  | zero => cases h
  | succ left ih =>
    rcases yields_round sound h with ⟨e, rfl, failed⟩ |
      ⟨v, x, y, b, judgement, rfl, before, after, judged, concludes⟩
    · exact .done (s := clockReads started :: s) failed
    have answer : P.Answers (⟨.inl P.question, b⟩ :: x) judgement := ⟨b, x, rfl, judged⟩
    match judgement with
    | .ok true =>
      cases concludes
      simpa using Ended.positive (s := clockReads started :: (s ++ v)) answer
    | .error e =>
      cases concludes
      simpa using Ended.hopeless (s := clockReads started :: (s ++ v)) answer
    | .ok false =>
      have count : (s ++ v).times P.question = s.times P.question := by
        rw [times_append, times_aside before, Nat.add_zero]
      rcases yields_settle_cases concludes with
        ⟨now, rfl, passed, rfl⟩ | ⟨y, c, e, rfl, rfl, failed⟩ | ⟨y, z, rfl, paused, repeats⟩
      · have late : P.Late (s ++ v) (⟨.inl P.question, b⟩ :: x)
            (P.late (s.times P.question + 1) b) := ⟨b, x, rfl, by rw [count]⟩
        have ended : Ended ctx P.timeout P.Answers P.Late (clockReads started ::
            (s ++ v ++ (⟨.inl P.question, b⟩ :: x) ++ [clockReads now])) _ :=
          .late answer passed late
        simpa using ended
      · have ended : Ended ctx P.timeout P.Answers P.Late (clockReads started ::
            (s ++ (v ++ ⟨.inl P.question, b⟩ :: (x ++ y))) ++ c) (.error e) := .done failed
        simpa using ended
      · -- With this round there is one question more.
        have more : (s ++ v ++ ⟨.inl P.question, b⟩ :: (x ++ y)).times P.question
            = s.times P.question + 1 := by
          rw [times_append, count, times_question, times_append, times_aside after,
            times_aside paused]
        rw [← more] at repeats
        simpa using ih repeats

/-! ### Pauses -/

theorem awake_sleeps {d : Duration} : ¬ P.Awake (sleeps d).request :=
  fun h => h.2 d rfl

/-- Where a round comes to sleep, the time had not passed after its negative answer: the sleep is
part of the pause, or it comes in a later round. -/
theorem reaches_round_sleeps (sound : P.Sound ctx) {d : Duration}
    (h : Prog.Reaches (P.run ctx rounds started asked (left + 1)).run (t ++ [sleeps d])) :
    ∃ (now : Instant) (s w v : Trace), t = s ++ w ++ clockReads now :: v ∧
      P.Answers w (.ok false) ∧ ¬ P.timeout ≤ now - started ∧
      (Prog.Reaches (ctx.sleep (min P.interval (P.timeout - (now - started))) rounds :
          Attempt Unit).run (v ++ [sleeps d]) ∨
        ∃ y z, v = y ++ z ∧
          Prog.Reaches (P.run ctx rounds started (asked + 1) left).run (z ++ [sleeps d])) := by
  obtain ⟨s, t, _, rfl, -, -, asks⟩ := Task.reaches_past sound.before awake_sleeps h
  obtain ⟨b, t, rfl, judges⟩ := Task.reaches_past_request asks nofun
  obtain ⟨x, t, positive, rfl, -, judged, concludes⟩ :=
    Task.reaches_past (sound.verdict b) awake_sleeps judges
  cases positive with
  | true => cases t <;> cases concludes
  | false =>
    obtain ⟨(now : Instant), v, rfl, settles⟩ := Task.reaches_past_request concludes nofun
    refine ⟨now, s, ⟨.inl P.question, b⟩ :: x, v, by simp [clockReads], ⟨b, x, rfl, judged⟩, ?_⟩
    by_cases passed : P.timeout ≤ now - started
    · rw [if_pos passed] at settles
      cases v <;> cases settles
    · rw [if_neg passed] at settles
      refine ⟨passed, ?_⟩
      rcases Prog.reaches_bind_last settles with pauses | ⟨y, z, paused, rfl, -, goesOn⟩
      · exact .inl pauses
      · cases paused with
        | error e => cases z <;> cases goesOn
        | ok _ => exact .inr ⟨y, z, rfl, goesOn⟩

/-- The poll sleeps only in the pause after a negative answer. -/
theorem rests_run (sound : P.Sound ctx) {d : Duration}
    (h : Prog.Reaches (P.run ctx rounds started asked left).run (t ++ [sleeps d])) :
    ∃ (now : Instant) (s w v : Trace) (pause : Duration),
      t = s ++ w ++ clockReads now :: v ∧ P.Answers w (.ok false) ∧
      Fits P.timeout P.interval (now - started) pause ∧
      Prog.Reaches (ctx.sleep pause rounds : Attempt Unit).run (v ++ [sleeps d]) := by
  induction left generalizing asked t with
  | zero => cases t <;> cases h
  | succ left ih =>
    obtain ⟨now, s, w, v, rfl, answer, inTime, pauses | ⟨y, z, rfl, goesOn⟩⟩ :=
      reaches_round_sleeps sound h
    · exact ⟨now, s, w, v, _, rfl, answer, fits inTime, pauses⟩
    · obtain ⟨now', s', w', v, pause, rfl, answer', fits, pauses⟩ := ih goesOn
      exact ⟨now', s ++ w ++ clockReads now :: (y ++ s'), w', v, pause, by simp, answer', fits,
        pauses⟩

end Poll

namespace Context

variable {ctx : Context} {rounds : Nat} {v : Trace} {d : Duration}

/-- What a look at a context requests. -/
def Looks (ctx : Context) (r : Engine.onSystem.Request) : Prop :=
  r = .inr .now ∨ r = .inr (.isCancelled ctx.token)

theorem check_looks (ctx : Context) : Task.Only ctx.Looks (ctx.check : Attempt Unit) := by
  have status : Prog.Only ctx.Looks (ctx.status : Action (Option Cause)) := by
    refine Prog.Only.bind ⟨.inr rfl, fun _ => trivial⟩ fun flagSet => ?_
    cases flagSet with
    | true => trivial
    | false =>
      cases ctx.deadline with
      | none => trivial
      | some deadline => exact Prog.Only.bind ⟨.inl rfl, fun _ => trivial⟩ fun _ => trivial
  refine Task.Only.bind (Task.Only.lift status) fun cause => ?_
  cases cause <;> trivial

theorem not_looks_sleeps : ¬ ctx.Looks (sleeps d).request := by
  rintro (same | same) <;> cases same

/-- No slice of a sleep goes beyond its end. -/
theorem sleepUntil_slice {wake : Instant}
    (h : Prog.Reaches (ctx.sleepUntil wake rounds : Attempt Unit).run (v ++ [sleeps d])) :
    ∃ now ∈ Trace.readings v, d.nanos ≤ wake.nanos - now.nanos := by
  induction rounds generalizing v with
  | zero => cases v <;> cases h
  | succ rounds ih =>
    obtain ⟨s, t, _, rfl, -, -, reads⟩ :=
      Task.reaches_past ctx.check_looks not_looks_sleeps h
    obtain ⟨(now : Instant), t, rfl, rest⟩ :=
      Task.reaches_past_request reads nofun
    have later {now' : Instant} (mem : now' ∈ now :: Trace.readings t) :
        now' ∈ Trace.readings (s ++ clockReads now :: t) := by
      rw [Trace.readings, List.filterMap_append]
      exact List.mem_append_right _ mem
    split at rest
    · cases t <;> cases rest
    · cases t with
      | nil =>
        obtain ⟨_, same, -⟩ := Task.reaches_request rest
        cases same
        exact ⟨now, later List.mem_cons_self, Nat.min_le_right _ _⟩
      | cons e t =>
        obtain ⟨_, rfl, again⟩ := Task.reaches_request (t := t ++ [sleeps d]) rest
        obtain ⟨now', mem, le⟩ := ih again
        exact ⟨now', later (List.mem_cons_of_mem _ mem), le⟩

/-- With a clock that never goes back, no slice of a sleep is longer than the sleep. -/
theorem sleep_slice {pause : Duration}
    (h : Prog.Reaches (ctx.sleep pause rounds : Attempt Unit).run (v ++ [sleeps d]))
    (ordered : (Trace.readings v).Pairwise (· ≤ ·)) : d ≤ pause := by
  obtain ⟨(start : Instant), v, rfl, rest⟩ := Task.reaches_past_request h nofun
  obtain ⟨now, mem, le⟩ := sleepUntil_slice rest
  have since : start ≤ now := (List.pairwise_cons.1 ordered).1 now mem
  rw [Instant.nanos_add] at le
  rw [Instant.le_iff] at since
  rw [Duration.le_iff]
  omega

end Context

theorem Context.Looks.awake {P : Poll} {ctx : Context} {r : Engine.onSystem.Request}
    (h : ctx.Looks r) : P.Awake r := by
  rcases h with rfl | rfl <;> exact ⟨nofun, nofun⟩

/-- A sound poll is exact. -/
theorem Poll.pollsExactly {P : Poll} {ctx : Context} {rounds : Nat} (sound : P.Sound ctx) :
    PollsExactly ctx rounds P.timeout P.interval P.Answers P.Late (P.wait ctx rounds) where
  positive answer h := by
    obtain ⟨started, s, b, v, again, rfl, rfl, concludes, goesOn⟩ := reaches_answer sound answer h
    cases concludes
    exact ⟨rfl, by simpa using goesOn [] _ (.done _)⟩
  hopeless answer h := by
    obtain ⟨started, s, b, v, again, rfl, rfl, concludes, goesOn⟩ := reaches_answer sound answer h
    cases concludes
    exact ⟨rfl, by simpa using goesOn [] _ (.done _)⟩
  negative {s w u} answer h := by
    obtain ⟨started, s, b, v, again, rfl, rfl, settles, goesOn⟩ :=
      reaches_answer sound answer h
    -- A clock that shows the end of the time ends the poll, so the clock is what is asked.
    have passed : P.timeout ≤ (started + P.timeout) - started := by
      rw [Duration.le_iff, Instant.nanos_sub, Instant.nanos_add]
      omega
    have read := (goesOn _ _ (yields_settle_late passed)).reaches
    refine ⟨read.reply, fun e mem => ?_⟩
    cases u with
    | nil => cases mem
    | cons e' u =>
      obtain ⟨now, rfl, -⟩ := reaches_settle settles
      cases mem
      exact ⟨now, rfl⟩
  late {started now s w u} answer passed h := by
    obtain ⟨_, _, b, v, again, same, rfl, settles, goesOn⟩ :=
      reaches_answer sound (s := clockReads started :: s) answer h
    cases same
    obtain ⟨_, same, ends, -⟩ := reaches_settle settles
    cases same
    exact ⟨ends passed, _, ⟨b, v, rfl, rfl⟩, goesOn _ _ (yields_settle_late passed)⟩
  early {started now s w u} answer inTime h := by
    obtain ⟨_, _, b, v, again, same, rfl, settles, -⟩ :=
      reaches_answer sound (s := clockReads started :: s) answer h
    cases same
    obtain ⟨_, same, -, goesOn⟩ := reaches_settle settles
    cases same
    refine ⟨_, fits inTime, ?_⟩
    rcases Task.reaches_bind (goesOn inTime) with pauses | ⟨v, u, _, rfl, pauses, -⟩
    · exact .inl pauses
    · exact .inr ⟨v, u, rfl, pauses⟩
  ends {t r} h := by
    obtain ⟨started, u, rfl, runs⟩ := Task.exists_yields_request h
    exact ends_run (s := []) sound runs
  rests {t d} h := by
    obtain ⟨(started : Instant), t, rfl, runs⟩ :=
      Task.reaches_past_request h nofun
    obtain ⟨now, s, w, v, pause, rfl, answer, fits, pauses⟩ := rests_run sound runs
    refine ⟨started, now, s, w, v, pause, rfl, answer, fits, pauses, fun ordered => ?_⟩
    -- The clock is read in order during the whole poll, and so it is during the pause.
    refine Context.sleep_slice pauses (ordered.sublist ?_)
    exact (((List.sublist_cons_self _ v).trans (List.sublist_append_right _ _)).trans
      (List.sublist_cons_self _ _)).filterMap _

theorem Ended.imp {ctx : Context} {timeout : Duration}
    {Answers : Trace → Except Error Bool → Prop} {Late Late' : Trace → Trace → Error → Prop}
    {t : Trace} {r : Except Error Unit} (h : Ended ctx timeout Answers Late t r)
    (late : ∀ s w e, Answers w (.ok false) → Late s w e → Late' s w e) :
    Ended ctx timeout Answers Late' t r := by
  cases h with
  | positive answer => exact .positive answer
  | hopeless answer => exact .hopeless answer
  | late answer passed reports => exact .late answer passed (late _ _ _ answer reports)
  | done fails => exact .done fails

theorem PollsExactly.imp {ctx : Context} {rounds : Nat} {timeout interval : Duration}
    {Answers : Trace → Except Error Bool → Prop} {Late Late' : Trace → Trace → Error → Prop}
    {poll : Attempt Unit} (h : PollsExactly ctx rounds timeout interval Answers Late poll)
    (late : ∀ s w e, Answers w (.ok false) → Late s w e → Late' s w e) :
    PollsExactly ctx rounds timeout interval Answers Late' poll where
  positive := h.positive
  hopeless := h.hopeless
  negative := h.negative
  late answer passed reaches := by
    obtain ⟨last, e, reports, yields⟩ := h.late answer passed reaches
    exact ⟨last, e, late _ _ _ answer reports, yields⟩
  early := h.early
  ends yields := (h.ends yields).imp late
  rests := h.rests

/-! ## The port of a container -/

namespace Launch

variable {pacing : Pacing} {ctx : Context} {name host : String} {hostPort containerPort : Port}
  {timeout : Duration}

/-- What looking at a port shows: it is open, or it is closed and the container runs, or the
container does not run, or nothing is known of it. -/
inductive PortAnswer (name host : String) (hostPort containerPort : Port) :
    Trace → Except Error Bool → Prop
  | opened : PortAnswer name host hostPort containerPort
      [⟨Sum.inl (.isPortReady name host hostPort containerPort), true⟩] (.ok true)
  | closed : PortAnswer name host hostPort containerPort
      [⟨Sum.inl (.isPortReady name host hostPort containerPort), false⟩,
        ⟨Sum.inl (.isRunning name), .ok true⟩] (.ok false)
  | stopped : PortAnswer name host hostPort containerPort
      [⟨Sum.inl (.isPortReady name host hostPort containerPort), false⟩,
        ⟨Sum.inl (.isRunning name), .ok false⟩]
      (.error (.commandFailed s!"start {name}"
        s!"container stopped before port {containerPort} opened" false))
  | unknown (e : Error) : PortAnswer name host hostPort containerPort
      [⟨Sum.inl (.isPortReady name host hostPort containerPort), false⟩,
        ⟨Sum.inl (.isRunning name), .error e⟩] (.error e)

def portPoll (pacing : Pacing) (ctx : Context) (name host : String)
    (hostPort containerPort : Port) (timeout : Duration) : Poll where
  before := ctx.check
  question := .isPortReady name host hostPort containerPort
  verdict := fun isOpen : Bool =>
    if isOpen then pure true
    else do
      let runs ← Engine.isRunning name
      if runs then pure false
      else throw (.commandFailed s!"start {name}"
        s!"container stopped before port {containerPort} opened" false)
  timeout := timeout
  interval := pacing.pollInterval
  late := fun _ _ => .startupTimeout name hostPort timeout

theorem pollPort_eq (started : Instant) (asked left : Nat) :
    pollPort pacing ctx name host hostPort containerPort timeout started left
      = (portPoll pacing ctx name host hostPort containerPort timeout).run ctx pacing.rounds
        started asked left := by
  induction left generalizing asked with
  | zero => rfl
  | succ left ih =>
    rw [pollPort, Poll.run]
    refine congrArg (ctx.check >>= ·) (funext fun _ => ?_)
    refine congrArg (_ >>= ·) (funext fun isOpen : Bool => ?_)
    cases isOpen with
    | true => rfl
    | false =>
      refine Eq.trans ?_ (bind_assoc (Engine.isRunning name) _ _).symm
      refine congrArg (Engine.isRunning name >>= ·) (funext fun runs => ?_)
      cases runs with
      | false => rfl
      | true =>
        rw [ih (asked + 1)]
        exact (Poll.settle_eq (P := portPoll pacing ctx name host hostPort containerPort timeout)
          (asked + 1) false _).symm

theorem waitForPort_eq :
    waitForPort pacing ctx name host hostPort containerPort timeout
      = (portPoll pacing ctx name host hostPort containerPort timeout).wait ctx pacing.rounds :=
  congrArg (_ >>= ·) (funext fun started => pollPort_eq started 0 pacing.rounds)

theorem portPoll_sound :
    (portPoll pacing ctx name host hostPort containerPort timeout).Sound ctx where
  before := ctx.check_looks.mono fun _ looks => looks.awake
  verdict := by
    rintro (_ | _)
    · refine ⟨⟨nofun, nofun⟩, fun runs => ?_⟩
      match runs with
      | .ok true | .ok false | .error _ => trivial
    · trivial
  fails _ _ h := Context.check_fails h

theorem portPoll_answers :
    (portPoll pacing ctx name host hostPort containerPort timeout).Answers
      = PortAnswer name host hostPort containerPort := by
  funext w r
  refine propext ⟨?_, fun answer => ?_⟩
  · rintro ⟨_ | _, v, rfl, judged⟩
    · cases judged with
      | ask runs rest =>
        match runs with
        | .ok true =>
          cases rest
          exact .closed
        | .ok false =>
          cases rest
          exact .stopped
        | .error e =>
          cases rest
          exact .unknown e
    · cases judged
      exact .opened
  · have asks (reply : Except Error Bool) :
        Prog.Yields (Engine.isRunning name).run [⟨Sum.inl (.isRunning name), reply⟩] reply :=
      Prog.yields_request (I := Engine.onSystem) (.inl (.isRunning name)) reply
    cases answer with
    | opened => exact ⟨true, _, rfl, .done _⟩
    | closed => exact ⟨false, _, rfl, Task.yields_seq (asks (.ok true)) (.done _)⟩
    | stopped => exact ⟨false, _, rfl, Task.yields_seq (asks (.ok false)) (.done _)⟩
    | unknown e => exact ⟨false, _, rfl, Task.yields_error (asks (.error e))⟩

theorem waitForPort_pollsExactly :
    PollsExactly ctx pacing.rounds timeout pacing.pollInterval
      (PortAnswer name host hostPort containerPort)
      (fun _ _ e => e = .startupTimeout name hostPort timeout)
      (waitForPort pacing ctx name host hostPort containerPort timeout) := by
  rw [waitForPort_eq, ← @portPoll_answers pacing ctx name host hostPort containerPort timeout]
  refine (Poll.pollsExactly portPoll_sound).imp fun s w e _ late => ?_
  obtain ⟨_, _, -, rfl⟩ := late
  rfl

/-- A closed port is followed by the question whether the container runs. -/
theorem closed_isRunning {s u : Trace} {e : Prog.Event Engine.onSystem}
    (h : Prog.Reaches (waitForPort pacing ctx name host hostPort containerPort timeout).run
      (s ++ ⟨Sum.inl (.isPortReady name host hostPort containerPort), false⟩ :: e :: u)) :
    e.request = Sum.inl (.isRunning name) := by
  rw [waitForPort_eq] at h
  obtain ⟨started, s, rfl, runs⟩ := Poll.reaches_wait
    (P := portPoll pacing ctx name host hostPort containerPort timeout) (b := false) h
  obtain ⟨again, rest, -⟩ := Poll.reaches_run_question portPoll_sound runs
  cases rest
  rfl

end Launch

/-! ## The master of a replica set -/

namespace ReplicaSet

variable {pacing : Pacing} {ctx : Context} {master : String}

def masterQuestion (ctx : Context) (master : String) : Engine.Request :=
  .exec ctx master ["mongosh", "--quiet", "--eval", masterScript]

/-- What a database says when asked for its role: it is the master, or it is not, or it says
nothing. -/
inductive MasterAnswer (ctx : Context) (master : String) : Trace → Except Error Bool → Prop
  | primary {out : ExecOutput} (marked : isMaster out = true) :
      MasterAnswer ctx master [⟨Sum.inl (masterQuestion ctx master), .ok out⟩] (.ok true)
  | other {out : ExecOutput} (unmarked : isMaster out = false) :
      MasterAnswer ctx master [⟨Sum.inl (masterQuestion ctx master), .ok out⟩] (.ok false)
  | failed (e : Error) :
      MasterAnswer ctx master [⟨Sum.inl (masterQuestion ctx master), .error e⟩]
        (.error (unlessCancelled (.masterVerification master) e))

/-- The last answer is reported, and how many there were. -/
def MasterLate (timeout : Duration) (ctx : Context) (master : String) (s w : Trace) (e : Error) :
    Prop :=
  ∃ out : ExecOutput, w = [⟨Sum.inl (masterQuestion ctx master), .ok out⟩] ∧
    e = .masterVerification master
      (notMasterReason timeout (s.times (masterQuestion ctx master) + 1) out)

def masterPoll (pacing : Pacing) (ctx : Context) (master : String) : Poll where
  before := pure ()
  question := masterQuestion ctx master
  verdict
    | .ok out => pure (isMaster out)
    | .error e => throw (unlessCancelled (.masterVerification master) e)
  timeout := pacing.masterTimeout
  interval := pacing.masterInterval
  late
    | attempts, .ok out =>
      .masterVerification master (notMasterReason pacing.masterTimeout attempts out)
    | _, .error e => e

theorem pollMaster_eq (started : Instant) (asked left : Nat) :
    pollMaster pacing ctx master started asked left
      = (masterPoll pacing ctx master).run ctx pacing.rounds started asked left := by
  induction left generalizing asked with
  | zero => rfl
  | succ left ih =>
    rw [pollMaster, Poll.run]
    refine congrArg (Prog.ask (I := Engine.onSystem) (.inl (masterQuestion ctx master)))
      (funext fun reply : Except Error ExecOutput => ?_)
    cases reply with
    | error e => rfl
    | ok out =>
      refine congrArg (fun rest : Attempt Unit =>
        (if isMaster out = true then pure () else rest : Attempt Unit)) ?_
      rw [ih (asked + 1)]
      exact (Poll.settle_eq (P := masterPoll pacing ctx master) (asked + 1) (.ok out) _).symm

theorem verifyMaster_eq :
    verifyMaster pacing ctx master = (masterPoll pacing ctx master).wait ctx pacing.rounds :=
  congrArg (_ >>= ·) (funext fun started => pollMaster_eq started 0 pacing.rounds)

theorem masterPoll_sound : (masterPoll pacing ctx master).Sound ctx where
  before := trivial
  verdict := by rintro (_ | _) <;> trivial
  fails _ _ h := by cases h

theorem masterPoll_answers :
    (masterPoll pacing ctx master).Answers = MasterAnswer ctx master := by
  funext w r
  refine propext ⟨?_, fun answer => ?_⟩
  · rintro ⟨e | out, v, rfl, judged⟩
    · cases judged
      exact .failed e
    · cases judged
      cases marked : isMaster out with
      | true => exact .primary marked
      | false => exact .other marked
  · cases answer with
    | @primary out marked => exact ⟨.ok out, [], rfl, marked ▸ .done _⟩
    | @other out unmarked => exact ⟨.ok out, [], rfl, unmarked ▸ .done _⟩
    | failed e => exact ⟨.error e, [], rfl, .done _⟩

theorem masterPoll_late {s w : Trace} {e : Error} (answer : MasterAnswer ctx master w (.ok false))
    (h : (masterPoll pacing ctx master).Late s w e) :
    MasterLate pacing.masterTimeout ctx master s w e := by
  cases answer with
  | @other out unmarked =>
    obtain ⟨b, v, same, rfl⟩ := h
    cases same
    exact ⟨out, rfl, rfl⟩

theorem verifyMaster_pollsExactly :
    PollsExactly ctx pacing.rounds pacing.masterTimeout pacing.masterInterval
      (MasterAnswer ctx master) (MasterLate pacing.masterTimeout ctx master)
      (verifyMaster pacing ctx master) := by
  rw [verifyMaster_eq, ← @masterPoll_answers pacing ctx master]
  refine (Poll.pollsExactly masterPoll_sound).imp fun s w e answer => ?_
  rw [masterPoll_answers] at answer
  exact masterPoll_late answer

end ReplicaSet

/-- Surroundings in which no port opens. -/
def neverOpen : (r : Engine.onSystem.Request) → Engine.onSystem.Reply r
  | .inl (.isPortReady _ _ _ _) => false
  | r => Engine.obliging r

def expiringPort : Attempt Unit :=
  Launch.waitForPort { rounds := 2 } ⟨⟨0⟩, none⟩ "redis" "localhost" 6379 6379 .zero

def promptMaster : Attempt Unit :=
  ReplicaSet.verifyMaster { rounds := 2 } ⟨⟨0⟩, none⟩ "orders-m1"

end Testbed
