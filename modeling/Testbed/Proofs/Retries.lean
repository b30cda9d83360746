import Mathlib.Data.ENat.Lattice
import Testbed.Proofs.Polling
import Testbed.Proofs.Resistance

/-!
# Retries

Whatever an engine replies to the removals of a container, only one thing can happen. It is tried
again until the container is gone or the policy allows no more, with a pause between each two tries,
and it is given up only if no try has helped.
-/

namespace Testbed

open Watch (gone)

/-! ## Replies -/

section Replies

variable {replies : Nat → Except Error Unit}

/-- The replies after the first one. -/
def laterReplies (replies : Nat → Except Error Unit) (k : Nat) : Except Error Unit :=
  replies (k + 1)

/-- How many removals it takes until the container is gone; there is no end to them if no reply
says so. -/
noncomputable def triesNeeded (replies : Nat → Except Error Unit) : ENat :=
  ⨅ k, if gone (replies k) then (k + 1 : ENat) else ⊤

theorem triesNeeded_of_gone (h : gone (replies 0) = true) : triesNeeded replies = 1 := by
  refine le_antisymm ?_ (le_iInf fun k => ?_)
  · refine (iInf_le _ 0).trans ?_
    simp [h]
  · split
    · exact le_add_self
    · exact le_top

theorem triesNeeded_of_not_gone (h : gone (replies 0) = false) :
    triesNeeded replies = triesNeeded (laterReplies replies) + 1 := by
  have later (k : Nat) : (if gone (replies (k + 1)) then ((k + 1 : Nat) + 1 : ENat) else ⊤) =
      (if gone (laterReplies replies k) then (k + 1 : ENat) else ⊤) + 1 := by
    unfold laterReplies
    split <;> simp
  rw [triesNeeded, ← inf_iInf_nat_succ, h]
  simp only [later, ← ENat.iInf_add, Bool.false_eq_true, if_false, top_inf_eq]
  rfl

end Replies

/-! ## Traces -/

def tells (notice : Notice) : Prog.Event Engine.onSystem := ⟨Sum.inr (.notify notice), ()⟩

namespace Trace

/-- What the engine replied to the removals, in order. -/
def removalReplies (t : Trace) : List (Except Error Unit) :=
  t.filterMap fun
    | ⟨.inl (.remove _), b⟩ => some b
    | _ => none

/-- What the operator was told, in order. -/
def notices (t : Trace) : List Notice :=
  t.filterMap fun
    | ⟨.inr (.notify notice), _⟩ => some notice
    | _ => none

/-- Everything but what the operator was told. -/
def silent (t : Trace) : Trace :=
  t.filter fun
    | ⟨.inr (.notify _), _⟩ => false
    | _ => true

/-- The removals got the first of these replies. -/
def AnsweredBy (replies : Nat → Except Error Unit) (t : Trace) : Prop :=
  ∀ k, ∀ b ∈ t.removalReplies[k]?, b = replies k

theorem answeredBy_remove {replies : Nat → Except Error Unit} {name : String}
    {b : Except Error Unit} {t : Trace} :
    AnsweredBy replies (Engine.event (.remove name) b :: t) ↔
      b = replies 0 ∧ t.AnsweredBy (laterReplies replies) := by
  refine Nat.and_forall_add_one.symm.trans (and_congr ?_ .rfl)
  exact ⟨fun h => h b rfl, by rintro rfl _ ⟨⟩; rfl⟩

end Trace

/-- So many removals of a container, with the first of these replies. -/
def removals (name : String) (replies : Nat → Except Error Unit) (tries : Nat) : Trace :=
  (List.range tries).map fun k => Engine.event (.remove name) (replies k)

/-- The policy is followed when an engine replies in this way. -/
structure Persists (retry : RetryPolicy) (name : String) (replies : Nat → Except Error Unit)
    (t : Trace) : Prop where
  /-- There are as many removals as are needed, but no more than the policy allows. One is allowed
  at least. -/
  enough : (t.removalReplies.length : ENat) = min (triesNeeded replies) (max retry.attempts 1 : Nat)
  /-- Nothing is done but removing the container, with a pause between each two removals. -/
  paced : t.silent =
    (removals name replies t.removalReplies.length).intersperse (sleeps retry.backoff)
  /-- Once the container is gone, nothing follows. -/
  final : ∀ (s u : Trace) b, t = s ++ Engine.event (.remove name) b :: u → gone b = true → u = []
  /-- It is given up if none of the removals that are allowed helps. -/
  abandons : Notice.removalAbandoned name ∈ t.notices ↔
    ∀ k < max retry.attempts 1, gone (replies k) = false

/-! ## The only run -/

section Run

variable {backoff : Duration} {name : String} {replies : Nat → Except Error Unit} {tries : Nat}

/-- The pause before another try, if one is allowed. -/
def pause (backoff : Duration) (tries : Nat) : Trace :=
  if 0 < tries then [sleeps backoff] else []

/-- What happens when so many tries are allowed. -/
def attempted (backoff : Duration) (name : String) : Nat → (Nat → Except Error Unit) → Trace
  | 0, _ => [tells (.removalAbandoned name)]
  | tries + 1, replies =>
    Engine.event (.remove name) (replies 0) ::
      if gone (replies 0) then []
      else tells (.removalFailed name) ::
        (pause backoff tries ++ attempted backoff name tries (laterReplies replies))

/-- What is done after a try that has not helped. -/
def tryAgain (backoff : Duration) (name : String) (tries : Nat) : Action Unit := do
  notify (.removalFailed name)
  if 0 < tries then System.sleep backoff
  removeWithin backoff name tries

/-- One try, and what its reply leads to. -/
theorem removeWithin_succ (backoff : Duration) (name : String) (tries : Nat) :
    removeWithin backoff name (tries + 1) =
      Prog.ask (I := Engine.onSystem) (.inl (.remove name)) fun b =>
        if gone b then .done () else tryAgain backoff name tries := by
  refine congrArg (Prog.ask (I := Engine.onSystem) (.inl (.remove name))) (funext fun b => ?_)
  cases b <;> rfl

theorem tryAgain_yields {t : Trace} (h : Prog.Yields (removeWithin backoff name tries) t ()) :
    Prog.Yields (tryAgain backoff name tries)
      (tells (.removalFailed name) :: (pause backoff tries ++ t)) () := by
  refine .ask (I := Engine.onSystem) (r := .inr (.notify _)) () ?_
  unfold pause
  split
  · exact .ask (I := Engine.onSystem) (r := .inr (.sleep _)) () h
  · exact h

/-- Telling of a try and pausing leave no choice, and get no reply to a removal. -/
theorem tryAgain_reaches {t u : Trace} (h : Prog.Reaches (tryAgain backoff name tries) u)
    (rest : ∀ v : Trace, Prog.Reaches (removeWithin backoff name tries) v →
      v.removalReplies = u.removalReplies → v <+: t) :
    u <+: tells (.removalFailed name) :: (pause backoff tries ++ t) := by
  cases h with
  | start => exact List.nil_prefix
  | ask _ h =>
    refine (List.prefix_cons_inj _).2 ?_
    dsimp only at h
    unfold pause
    split at h
    · next more =>
      rw [if_pos more]
      cases h with
      | start => exact List.nil_prefix
      | ask _ h => exact (List.prefix_cons_inj _).2 (rest _ h rfl)
    · next last =>
      rw [if_neg last]
      exact rest _ h rfl

theorem removeWithin_yields (tries : Nat) (replies : Nat → Except Error Unit) :
    Prog.Yields (removeWithin backoff name tries) (attempted backoff name tries replies) () := by
  induction tries generalizing replies with
  | zero => exact .ask (I := Engine.onSystem) (r := .inr (.notify _)) () (.done ())
  | succ tries ih =>
    rw [removeWithin_succ, attempted]
    refine .ask (I := Engine.onSystem) (r := .inl (.remove name)) (replies 0) ?_
    cases gone (replies 0) with
    | true => exact .done ()
    | false => exact tryAgain_yields (ih _)

theorem removeWithin_reaches {u : Trace} (h : Prog.Reaches (removeWithin backoff name tries) u)
    (answered : u.AnsweredBy replies) : u <+: attempted backoff name tries replies := by
  induction tries generalizing replies u with
  | zero =>
    cases h with
    | start => exact List.nil_prefix
    | ask _ h =>
      cases h
      exact List.prefix_rfl
  | succ tries ih =>
    rw [removeWithin_succ] at h
    cases h with
    | start => exact List.nil_prefix
    | @ask _ _ u b h =>
      obtain ⟨rfl, later⟩ := Trace.answeredBy_remove.1 answered
      rw [attempted]
      refine (List.prefix_cons_inj _).2 ?_
      dsimp only at h
      split at h
      · cases h
        exact List.nil_prefix
      · next failed =>
        rw [if_neg failed]
        refine tryAgain_reaches h fun v reaches same => ih reaches ?_
        rwa [Trace.AnsweredBy, same]

end Run

/-! ## What happens in it -/

section Attempted

variable {backoff : Duration} {name : String} {replies : Nat → Except Error Unit} {tries : Nat}

theorem attempted_of_gone (h : gone (replies 0) = true) :
    attempted backoff name (tries + 1) replies = [Engine.event (.remove name) (replies 0)] := by
  rw [attempted, if_pos h]

theorem attempted_of_not_gone (h : gone (replies 0) = false) :
    attempted backoff name (tries + 1) replies =
      Engine.event (.remove name) (replies 0) :: tells (.removalFailed name) ::
        (pause backoff tries ++ attempted backoff name tries (laterReplies replies)) := by
  rw [attempted, if_neg (by simp [h])]

theorem removalReplies_after_pause (backoff : Duration) (name : String) (tries : Nat) (t : Trace) :
    Trace.removalReplies (tells (.removalFailed name) :: (pause backoff tries ++ t)) =
      t.removalReplies := by
  unfold pause
  split <;> rfl

theorem notices_after_pause (backoff : Duration) (name : String) (tries : Nat) (t : Trace) :
    Trace.notices (tells (.removalFailed name) :: (pause backoff tries ++ t)) =
      .removalFailed name :: t.notices := by
  unfold pause
  split <;> rfl

theorem answeredBy_attempted (tries : Nat) (replies : Nat → Except Error Unit) :
    Trace.AnsweredBy replies (attempted backoff name tries replies) := by
  induction tries generalizing replies with
  | zero => exact fun _ => nofun
  | succ tries ih =>
    refine Trace.answeredBy_remove.2 ⟨rfl, ?_⟩
    split
    · exact fun _ => nofun
    · rw [Trace.AnsweredBy, removalReplies_after_pause]
      exact ih _

theorem length_attempted (tries : Nat) (replies : Nat → Except Error Unit) :
    ((attempted backoff name tries replies).removalReplies.length : ENat) =
      min (triesNeeded replies) tries := by
  induction tries generalizing replies with
  | zero => simp [attempted, tells, Trace.removalReplies]
  | succ tries ih =>
    cases h : gone (replies 0) with
    | true =>
      rw [attempted_of_gone h, triesNeeded_of_gone h]
      simp [Trace.removalReplies]
    | false =>
      have one : ((attempted backoff name (tries + 1) replies).removalReplies.length : ENat) =
          (attempted backoff name tries (laterReplies replies)).removalReplies.length + 1 := by
        rw [attempted_of_not_gone h,
          ← removalReplies_after_pause backoff name tries (attempted ..)]
        rfl
      rw [one, ih, triesNeeded_of_not_gone h, Nat.cast_succ, min_add_add_right]

theorem removals_succ (name : String) (replies : Nat → Except Error Unit) (tries : Nat) :
    removals name replies (tries + 1) =
      Engine.event (.remove name) (replies 0) :: removals name (laterReplies replies) tries := by
  simp [removals, List.range_succ_eq_map, laterReplies, Function.comp_def]

/-- Each try but the last is followed by a pause. -/
theorem silent_attempted (tries : Nat) (replies : Nat → Except Error Unit) :
    (attempted backoff name tries replies).silent =
      (removals name replies (attempted backoff name tries replies).removalReplies.length
        ).intersperse (sleeps backoff) := by
  induction tries generalizing replies with
  | zero => rfl
  | succ tries ih =>
    cases h : gone (replies 0) with
    | true =>
      rw [attempted_of_gone h]
      rfl
    | false =>
      rw [attempted_of_not_gone h]
      cases tries with
      | zero => rfl
      | succ tries =>
        -- Another try follows, so there is a removal after the pause.
        obtain ⟨n, length⟩ : ∃ n, (attempted backoff name (tries + 1)
            (laterReplies replies)).removalReplies.length = n + 1 := ⟨_, rfl⟩
        have first : (Trace.removalReplies (Engine.event (.remove name) (replies 0) ::
            tells (.removalFailed name) :: (pause backoff (tries + 1) ++
              attempted backoff name (tries + 1) (laterReplies replies)))).length = n + 1 + 1 :=
          congrArg (· + 1) length
        have later := ih (laterReplies replies)
        rw [length] at later
        rw [first, removals_succ, removals_succ, List.intersperse_cons_cons, ← removals_succ,
          ← later]
        rfl

theorem abandoned_mem_attempted (tries : Nat) (replies : Nat → Except Error Unit) :
    Notice.removalAbandoned name ∈ (attempted backoff name tries replies).notices ↔
      ∀ k < tries, gone (replies k) = false := by
  induction tries generalizing replies with
  | zero => simp [attempted, tells, Trace.notices]
  | succ tries ih =>
    rw [Nat.forall_lt_succ_left]
    cases h : gone (replies 0) with
    | true =>
      rw [attempted_of_gone h]
      simp [Trace.notices]
    | false =>
      have told : (attempted backoff name (tries + 1) replies).notices =
          .removalFailed name ::
            (attempted backoff name tries (laterReplies replies)).notices := by
        rw [attempted_of_not_gone h, ← notices_after_pause backoff name tries]
        rfl
      rw [told, List.mem_cons, ih]
      simp [laterReplies]

theorem final_attempted (tries : Nat) (replies : Nat → Except Error Unit) {s u : Trace}
    {b : Except Error Unit}
    (h : attempted backoff name tries replies = s ++ Engine.event (.remove name) b :: u)
    (helps : gone b = true) : u = [] := by
  induction tries generalizing replies s with
  | zero =>
    rcases s with _ | ⟨_, _ | _⟩ <;> cases h
  | succ tries ih =>
    cases gone₀ : gone (replies 0) with
    | true =>
      rw [attempted_of_gone gone₀] at h
      rcases s with _ | ⟨_, _ | _⟩ <;> cases h
      rfl
    | false =>
      rw [attempted_of_not_gone gone₀] at h
      -- The removal is a later one, as the first has not helped.
      rcases s with _ | ⟨_, _ | ⟨_, s⟩⟩
      · cases h
        simp [gone₀] at helps
      · cases h
      · obtain ⟨-, h⟩ := List.cons.inj h
        obtain ⟨-, h⟩ := List.cons.inj h
        unfold pause at h
        split at h
        · rcases s with _ | ⟨_, s⟩
          · cases h
          · exact ih _ (List.cons.inj h).2
        · exact ih _ h

end Attempted

/-- Whatever an engine replies to the removals of a container, only one run is possible. In it the
container is removed as often as is needed and as the policy allows, and once at least; there is a
pause between each two removals and nowhere else; nothing follows once the container is gone, and it
is given up exactly if none of the removals has helped. -/
theorem removal_uses_its_budget (retry : RetryPolicy) (name : String)
    (replies : Nat → Except Error Unit) :
    ∃ t : Trace, Prog.Yields (removeForced retry name) t () ∧ t.AnsweredBy replies ∧
      Persists retry name replies t ∧
      ∀ u : Trace, Prog.Reaches (removeForced retry name) u → u.AnsweredBy replies → u <+: t := by
  refine ⟨attempted retry.backoff name retry.budget replies, removeWithin_yields _ _,
    answeredBy_attempted _ _, ?_, fun u => removeWithin_reaches⟩
  exact {
    enough := length_attempted _ _
    paced := silent_attempted _ _
    final := fun s u b => final_attempted _ _
    abandons := abandoned_mem_attempted _ _ }

/-- An engine that fails to remove a container, which goes away meanwhile. -/
def goneMeanwhile : Nat → Except Error Unit
  | 0 => .error (.commandFailed "docker rm -f redis" "timeout" false)
  | _ => .error (.commandFailed "docker rm -f redis" "No such container: redis" true)

theorem triesNeeded_goneMeanwhile : triesNeeded goneMeanwhile = (2 : Nat) := by
  rw [triesNeeded_of_not_gone rfl, triesNeeded_of_gone rfl]
  rfl

theorem Persists.length_goneMeanwhile {retry : RetryPolicy} {name : String} {t : Trace}
    (h : Persists retry name goneMeanwhile t) :
    t.removalReplies.length = min 2 (max retry.attempts 1) := by
  have enough := h.enough
  rw [triesNeeded_goneMeanwhile, ← Nat.mono_cast.map_min] at enough
  exact Nat.cast_inj.1 enough

/-- Of three tries the second one is the last, and a single try is not enough. A policy without any
tries allows this one all the same. -/
theorem second_try_is_enough :
    (∃ t : Trace, Prog.Yields (removeForced .standard "redis") t () ∧ t.AnsweredBy goneMeanwhile ∧
      t.removalReplies.length = 2 ∧ Notice.removalAbandoned "redis" ∉ t.notices) ∧
    ∃ t : Trace, Prog.Yields (removeForced ⟨0, .zero⟩ "redis") t () ∧ t.AnsweredBy goneMeanwhile ∧
      t.removalReplies.length = 1 ∧ Notice.removalAbandoned "redis" ∈ t.notices := by
  constructor
  · obtain ⟨t, yields, answered, persists, -⟩ :=
      removal_uses_its_budget .standard "redis" goneMeanwhile
    refine ⟨t, yields, answered, persists.length_goneMeanwhile, fun abandoned => ?_⟩
    cases persists.abandons.1 abandoned 1 (by decide)
  · obtain ⟨t, yields, answered, persists, -⟩ :=
      removal_uses_its_budget ⟨0, .zero⟩ "redis" goneMeanwhile
    refine ⟨t, yields, answered, persists.length_goneMeanwhile,
      persists.abandons.2 fun k only => ?_⟩
    obtain rfl : k = 0 := Nat.lt_one_iff.1 only
    rfl

end Testbed
