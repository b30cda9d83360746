import Testbed.Proofs.Provision

/-!
# Containers that resist

The removals of a container may fail a number of times before one succeeds. The watch on a container
knows how often it still resists, and counts the removals that are asked for. One removal of the
program is a round of tries. A set that is closed goes through one round for each container when its
fixtures are terminated, and through another when it sweeps up what is left.
-/

namespace Testbed

/-! ## Watches -/

/-- What is known of a container. -/
structure Watch where
  there : Bool
  /-- So many of the next removals fail. -/
  resists : Nat
  /-- So many removals have been asked for. -/
  asked : Nat := 0
  /-- At times it could not be told whether the container is there. -/
  doubted : Bool := false

namespace Watch

/-- After one more removal. -/
def tried (w : Watch) : Watch :=
  if w.resists = 0 then { w with there := false, asked := w.asked + 1 }
  else { w with resists := w.resists - 1, asked := w.asked + 1 }

theorem asked_tried (w : Watch) : w.tried.asked = w.asked + 1 := by
  unfold tried
  split <;> rfl

theorem doubted_tried (w : Watch) : w.tried.doubted = w.doubted := by
  unfold tried
  split <;> rfl

/-- After a round of at most `tries` removals: the first that does not fail is the last. -/
def round : Nat → Watch → Watch
  | 0, w => w
  | tries + 1, w => if w.resists = 0 then w.tried else w.tried.round tries

/-- The container is still there if it resists all tries. Otherwise it is removed once more than it
resists. -/
@[simp] theorem round_eq (tries : Nat) (w : Watch) :
    w.round tries =
      { there := w.there && decide (tries ≤ w.resists)
        resists := w.resists - tries
        asked := w.asked + min (w.resists + 1) tries
        doubted := w.doubted } := by
  induction tries generalizing w with
  | zero => simp [round]
  | succ tries ih =>
    obtain ⟨there, resists, asked, doubted⟩ := w
    cases resists with
    | zero => simp [round, tried]
    | succ left =>
      -- The first try fails, and the others make a round of what it leaves.
      change round tries ⟨there, left, asked + 1, doubted⟩ = _
      have asks : asked + 1 + min (left + 1) tries = asked + min (left + 1 + 1) (tries + 1) := by
        omega
      rw [ih, asks]
      simp

/-! ### Replies -/

/-- Whether the container is gone, as far as the reply to a removal tells. -/
def gone : Except Error Unit → Bool
  | .ok () => true
  | .error e => e.isNotFound

/-- After a removal; there is no watch any more when the reply is not to be expected. -/
def afterRemove (w : Watch) (reply : Except Error Unit) : Option Watch :=
  if gone reply = decide (w.resists = 0) then some w.tried else none

/-- After a look at the container. -/
def afterInspect (name : String) (w : Watch) : Except Error String → Option Watch
  | .ok raw => if w.there ∧ raw = s!"\"/{name}\"\n" then some w else none
  | .error e =>
    if e.isNotFound then if w.there then none else some w
    else some { w with doubted := true }

def step (name : String) : Option Watch → Prog.Event Engine.onSystem → Option Watch
  | some w, ⟨.inl (.remove other), b⟩ => if other = name then w.afterRemove b else some w
  | some w, ⟨.inl (.inspect other), b⟩ => if other = name then w.afterInspect name b else some w
  | w, _ => w

/-- Any request may be made. -/
def monitor (name : String) : Monitor Engine.onSystem (Option Watch) where
  step := step name
  allows _ _ := True

/-- Requests that are not about the container. -/
def Spares (name : String) (r : Engine.onSystem.Request) : Prop :=
  r ≠ .inl (.remove name) ∧ r ≠ .inl (.inspect name)

variable {α : Type} {x name : String} {w w' : Watch} {s : Option Watch}

theorem spares_of_aside {r : Engine.onSystem.Request} (h : Engine.Aside r) : Spares x r := by
  constructor <;> rintro rfl <;> exact h

theorem monitor_ignores : (monitor x).Ignores (Spares x) := by
  intro r h s
  refine ⟨trivial, fun b => ?_⟩
  cases s with
  | none => rfl
  | some w =>
    obtain r | r := r
    · cases r with
      | remove name => exact if_neg fun same => h.1 (by rw [same])
      | inspect name => exact if_neg fun same => h.2 (by rw [same])
      | _ => rfl
    · rfl

theorem monitor_ignores_aside : (monitor x).Ignores Engine.Aside :=
  monitor_ignores.mono fun _ => spares_of_aside

/-- Once a reply was not to be expected, nothing more is said. -/
theorem wp_none (p : Action α) {Q : α → Option Watch → Prop} (h : ∀ a, Q a none) :
    p.wp (monitor x) Q none := by
  induction p with
  | done a => exact h a
  | ask r next ih => exact ⟨trivial, fun b => ih b⟩
  | diverge => trivial

/-! ### What a trace tells -/

/-- What can have happened in a step. -/
theorem step_cases {e : Prog.Event Engine.onSystem} (h : w' ∈ step x (some w) e) :
    (∃ b, e = Engine.event (.remove x) b ∧ w' = w.tried) ∨
      (∃ b, e = Engine.event (.inspect x) b ∧ w' = w) ∨
      (∃ error, e = Engine.event (.inspect x) (.error error) ∧ error.isNotFound = false ∧
        w' = { w with doubted := true }) ∨
      Spares x e.request ∧ w' = w := by
  obtain ⟨r, b⟩ := e
  by_cases spares : Spares x r
  · have same := (monitor_ignores r spares (some w)).2 b
    exact .inr (.inr (.inr ⟨spares, Option.some.inj (h.symm.trans same)⟩))
  · obtain rfl | rfl : r = .inl (.remove x) ∨ r = .inl (.inspect x) := by
      by_contra other
      exact spares (not_or.1 other)
    · have removed : w.afterRemove b = some w' := (if_pos rfl).symm.trans h
      unfold afterRemove at removed
      split at removed
      · exact .inl ⟨b, rfl, (Option.some.inj removed).symm⟩
      · cases removed
    · have inspected : w.afterInspect x b = some w' := (if_pos rfl).symm.trans h
      unfold afterInspect at inspected
      split at inspected
      · split at inspected
        · exact .inr (.inl ⟨_, rfl, (Option.some.inj inspected).symm⟩)
        · cases inspected
      · split at inspected
        · split at inspected
          · cases inspected
          · exact .inr (.inl ⟨_, rfl, (Option.some.inj inspected).symm⟩)
        · next error told =>
          exact .inr (.inr (.inl ⟨error, rfl, by simpa using told,
            (Option.some.inj inspected).symm⟩))

theorem after_none (t : Trace) : (monitor x).after none t = none := by
  induction t with
  | nil => rfl
  | cons e t ih => exact ih

/-- A watch that is still kept in the end has been kept all the time. -/
theorem exists_of_mem_after {e : Prog.Event Engine.onSystem} {t : Trace}
    (h : w' ∈ (monitor x).after (some w) (e :: t)) :
    ∃ w₁, w₁ ∈ step x (some w) e ∧ w' ∈ (monitor x).after (some w₁) t := by
  change w' ∈ (monitor x).after (step x (some w) e) t at h
  cases stepped : step x (some w) e with
  | none =>
    rw [stepped, after_none] at h
    cases h
  | some w₁ => exact ⟨w₁, rfl, stepped ▸ h⟩

theorem not_mem_removed {e : Prog.Event Engine.onSystem} (h : Spares x e.request) :
    x ∉ Trace.removed [e] := by
  obtain ⟨r | r, b⟩ := e
  · cases r with
    | remove name =>
      change x ∉ [name]
      rw [List.mem_singleton]
      rintro rfl
      exact h.1 rfl
    | run ctx spec => cases b <;> exact List.not_mem_nil
    | createNetwork ctx spec => cases b <;> exact List.not_mem_nil
    | networkExists name => rcases b with _ | _ | _ <;> exact List.not_mem_nil
    | _ => exact List.not_mem_nil
  · exact List.not_mem_nil

/-- A watch counts the removals of a trace. -/
theorem asked_after {t : Trace} (h : w' ∈ (monitor x).after (some w) t) :
    w'.asked = w.asked + t.removed.count x := by
  induction t generalizing w with
  | nil =>
    cases h
    rfl
  | cons e t ih =>
    -- Only a removal of the container is counted, on both sides.
    obtain ⟨w₁, stepped, rest⟩ := exists_of_mem_after h
    rw [ih rest, ← List.singleton_append, Trace.removed_append, List.count_append]
    obtain ⟨b, rfl, rfl⟩ | ⟨b, rfl, rfl⟩ | ⟨error, rfl, -, rfl⟩ | ⟨spares, rfl⟩ :=
      step_cases stepped
    · have counted : (Trace.removed [Engine.event (.remove x) b]).count x = 1 :=
        List.count_singleton_self
      rw [asked_tried, counted, Nat.add_assoc]
    · exact congrArg (w₁.asked + ·) (Nat.zero_add _).symm
    · exact congrArg (w.asked + ·) (Nat.zero_add _).symm
    · rw [List.count_eq_zero.2 (not_mem_removed spares), Nat.zero_add]

end Watch

/-- Whether a container is there can be told whenever it is looked at. -/
def Trace.Discerns (name : String) (t : Trace) : Prop :=
  ∀ error, Engine.event (.inspect name) (.error error) ∈ t → error.isNotFound = true

/-- The reply does not leave open whether the container is there. -/
def Engine.answers : Prog.Event Engine.onSystem → Bool
  | ⟨.inl (.inspect _), .error error⟩ => error.isNotFound
  | _ => true

theorem Trace.discerns_of_all {name : String} {t : Trace} (h : t.all Engine.answers = true) :
    t.Discerns name :=
  fun _ hmem => List.all_eq_true.1 h _ hmem

namespace Watch

variable {x : String} {w w' : Watch}

theorem doubted_after {t : Trace} (discerns : t.Discerns x)
    (h : w' ∈ (monitor x).after (some w) t) : w'.doubted = w.doubted := by
  induction t generalizing w with
  | nil =>
    cases h
    rfl
  | cons e t ih =>
    obtain ⟨w₁, stepped, rest⟩ := exists_of_mem_after h
    rw [ih (fun error hmem => discerns error (List.mem_cons_of_mem _ hmem)) rest]
    obtain ⟨b, rfl, rfl⟩ | ⟨b, rfl, rfl⟩ | ⟨error, rfl, unknown, rfl⟩ | ⟨spares, rfl⟩ :=
      step_cases stepped
    · exact doubted_tried w
    · rfl
    · exact absurd (discerns error List.mem_cons_self) (by simp [unknown])
    · rfl

/-! ### Removing -/

/-- A removal is one round, in which the container resists as often as it can. -/
theorem removeWithin_watch (backoff : Duration) (tries : Nat) :
    (removeWithin backoff x tries).wp (monitor x) (fun _ s => ∀ w' ∈ s, w' = w.round tries)
      (some w) := by
  induction tries generalizing w with
  | zero =>
    refine (System.ask_aside _).only.wp monitor_ignores_aside fun _ w' hmem => ?_
    exact (Option.some.inj hmem).symm
  | succ tries ih =>
    refine Prog.wp_request_bind.2 ⟨trivial, fun b => ?_⟩
    have stepped : (monitor x).step (some w) (Engine.event (.remove x) b) = w.afterRemove b :=
      if_pos rfl
    by_cases expected : gone b = decide (w.resists = 0)
    · rw [stepped.trans (if_pos expected)]
      -- The first try that does not fail is the last.
      have last (h : w.resists = 0) : ∀ w' ∈ some w.tried, w' = w.round (tries + 1) := by
        rintro _ ⟨⟩
        exact (if_pos h).symm
      cases b with
      | ok => exact last (by simpa [gone] using expected)
      | error e =>
        dsimp only
        split
        · next notFound => exact last (by simpa [gone, notFound] using expected)
        · next failed =>
          have resists : w.resists ≠ 0 := by simpa [gone, failed] using expected
          have again : w.round (tries + 1) = w.tried.round tries := if_neg resists
          rw [again]
          apply (System.ask_aside _).only.wp_seq monitor_ignores_aside
          intro _
          split
          · exact (System.ask_aside _).only.wp_seq monitor_ignores_aside fun _ => ih
          · exact ih
    · rw [stepped.trans (if_neg expected)]
      exact wp_none _ fun _ _ => nofun

theorem removeForced_spares {name : String} (other : name ≠ x) (retry : RetryPolicy) :
    Prog.Finishes (Spares x) (removeForced retry name) := by
  refine removeWithin_finishes ⟨?_, nofun⟩ (fun _ => spares_of_aside) _ _
  rintro ⟨⟩
  exact other rfl

end Watch

/-! ## Terminating

What has been terminated may be terminated again, as is done when it is dropped: nothing comes of
it. -/

theorem Service.terminate_twice (pacing : Pacing) (service : Service) :
    (service.terminate pacing >>= Service.terminate pacing) = service.terminate pacing := by
  cases gone : service.terminated <;> cases followed : service.collector <;>
    simp [Service.terminate, gone, followed]

theorem ReplicaSet.terminate_twice (pacing : Pacing) (r : ReplicaSet) :
    (r.terminate pacing >>= ReplicaSet.terminate pacing) = r.terminate pacing := by
  cases gone : r.terminated <;> simp [ReplicaSet.terminate, gone]

theorem Broker.terminate_twice (pacing : Pacing) (b : Broker) :
    (b.terminate pacing >>= Broker.terminate pacing) = b.terminate pacing := by
  cases gone : b.terminated <;> simp [Broker.terminate, gone]

theorem Fixture.terminate_twice (pacing : Pacing) (f : Fixture) :
    (f.terminate pacing >>= Fixture.terminate pacing) = f.terminate pacing := by
  cases f with
  | cache c =>
    simp only [Fixture.terminate, Cache.terminate, bind_assoc, pure_bind]
    rw [← bind_assoc, Service.terminate_twice]
  | database d =>
    cases d with
    | standalone service =>
      simp only [Fixture.terminate, Database.terminate, bind_assoc, pure_bind]
      rw [← bind_assoc, Service.terminate_twice]
    | replicated r =>
      simp only [Fixture.terminate, Database.terminate, bind_assoc, pure_bind]
      rw [← bind_assoc, ReplicaSet.terminate_twice]
  | broker b =>
    simp only [Fixture.terminate, bind_assoc, pure_bind]
    rw [← bind_assoc, Broker.terminate_twice]

section Terminating

variable {σ : Type} {M : Monitor Engine.onSystem σ} {pacing : Pacing}
  {J : List String → σ → Prop} {rest : List String} {s : σ}

/-- As soon as a container has been removed, `J` holds of the others. -/
def Strikes (M : Monitor Engine.onSystem σ) (retry : RetryPolicy) (J : List String → σ → Prop) :
    Prop :=
  ∀ name rest s, J (name :: rest) s → Prog.wp M (removeForced retry name) (fun _ => J rest) s

theorem Service.terminate_strikes {service : Service} (hM : M.Ignores Engine.Aside)
    (strikes : Strikes M pacing.retry J) (live : service.terminated = false)
    (h : J (service.name :: rest) s) :
    Prog.wp M (service.terminate pacing) (fun _ => J rest) s :=
  terminate_wp_of_stop hM (fun c => c.stop_aside.only) live (strikes _ _ _ h)

theorem ReplicaSet.terminate_strikes {r : ReplicaSet} (hM : M.Ignores Engine.Aside)
    (strikes : Strikes M pacing.retry J) (live : r.Live) (h : J (r.containerNames ++ rest) s) :
    Prog.wp M (r.terminate pacing) (fun _ => J rest) s := by
  unfold terminate
  rw [live.set]
  have live' := live.members
  simp only [members, List.map_cons, List.forall_mem_cons] at live'
  apply Prog.wp_seq (Service.terminate_strikes hM strikes live'.1 h)
  intro _ s h
  apply Prog.wp_seq (Service.terminate_strikes hM strikes live'.2.1 h)
  intro _ s h
  apply Prog.wp_seq (Service.terminate_strikes hM strikes live'.2.2.1 h)
  intro _ s h
  exact (Network.mapM_remove_aside r.network).only.wp_seq hM fun _ => h

theorem Broker.terminate_strikes {b : Broker} (hM : M.Ignores Engine.Aside)
    (strikes : Strikes M pacing.retry J) (live : b.Live) (h : J (b.containerNames ++ rest) s) :
    Prog.wp M (b.terminate pacing) (fun _ => J rest) s := by
  unfold terminate
  rw [live.whole]
  apply Prog.wp_seq (Service.terminate_strikes hM strikes live.broker h)
  intro _ s h
  apply Prog.wp_seq (Service.terminate_strikes hM strikes live.coordinator h)
  intro _ s h
  exact (Network.mapM_remove_aside b.network).only.wp_seq hM fun _ => h

/-- A fixture that is terminated has its containers removed one after the other. -/
theorem Fixture.terminate_strikes {f : Fixture} (hM : M.Ignores Engine.Aside)
    (strikes : Strikes M pacing.retry J) (live : f.Live) (h : J (f.containerNames ++ rest) s) :
    Prog.wp M (f.terminate pacing) (fun _ => J rest) s := by
  cases f with
  | cache c =>
    exact Prog.wp_bind.2 (Prog.wp_bind.2 (Service.terminate_strikes hM strikes live h))
  | database d =>
    cases d with
    | standalone service =>
      exact Prog.wp_bind.2 (Prog.wp_bind.2 (Service.terminate_strikes hM strikes live h))
    | replicated set =>
      exact Prog.wp_bind.2 (Prog.wp_bind.2 (ReplicaSet.terminate_strikes hM strikes live h))
  | broker b => exact Prog.wp_bind.2 (Broker.terminate_strikes hM strikes live h)

theorem FixtureSet.terminateAll_strikes {registrations : List Registration}
    (hM : M.Ignores Engine.Aside) (strikes : Strikes M pacing.retry J)
    (live : ∀ r ∈ registrations, r.fixture.Live)
    (h : J (registrations.flatMap (·.fixture.containerNames) ++ rest) s) :
    Prog.wp M (terminateAll pacing registrations) (fun _ => J rest) s := by
  induction registrations generalizing s with
  | nil => exact h
  | cons registration older ih =>
    obtain ⟨live₀, live⟩ := List.forall_mem_cons.1 live
    rw [List.flatMap_cons, List.append_assoc] at h
    refine Prog.wp_bind.2 (Prog.wp_seq (Fixture.terminate_strikes hM strikes live₀ h) ?_)
    intro _ s h
    exact ih live h

end Terminating

/-! ## Closing -/

namespace Watch

variable {x : String} {w : Watch} {retry : RetryPolicy} {names : List String}

/-- The containers called `names` are still to be removed. The container goes through its round when
it is its turn. -/
structure Awaits (x : String) (tries : Nat) (w : Watch) (names : List String) (s : Option Watch) :
    Prop where
  distinct : names.Nodup
  watch : ∀ w' ∈ s, w' = if x ∈ names then w else w.round tries

theorem awaits_strikes : Strikes (monitor x) retry (Awaits x retry.budget w) := by
  rintro name rest s ⟨distinct, watch⟩
  obtain ⟨fresh, distinct⟩ := List.nodup_cons.1 distinct
  cases s with
  | none => exact wp_none _ fun _ => ⟨distinct, nofun⟩
  | some w₀ =>
    have known := watch w₀ rfl
    -- Only when it is its turn, the container has its round.
    by_cases same : name = x
    · subst same
      rw [if_pos List.mem_cons_self] at known
      refine Prog.wp_mono (fun _ s watch => ⟨distinct, fun w' hmem => ?_⟩)
        (removeWithin_watch retry.backoff retry.budget)
      rw [if_neg fresh, watch w' hmem, known]
    · refine (removeForced_spares same retry).only.wp monitor_ignores fun _ => ⟨distinct, ?_⟩
      rintro _ ⟨⟩
      rw [known]
      simp [Ne.symm same]

end Watch

/-! ### Looking for what is left -/

/-- The name ends in a quotation mark, a single or a double one. -/
def EndsInQuote (name : String) : Prop :=
  name.toList.getLast? = some '\x22' ∨ name.toList.getLast? = some '\x27'

instance (name : String) : Decidable (EndsInQuote name) := inferInstanceAs (Decidable (_ ∨ _))

/-- A name that does not end in a quotation mark is found in what an engine says of it. -/
theorem inspectedName_quoted {name : String} (plain : ¬ EndsInQuote name) :
    inspectedName s!"\"/{name}\"\n" = "/" ++ name := by
  have chars : s!"\"/{name}\"\n".toList =
      '\x22' :: '/' :: (name.toList ++ ['\x22'] ++ ['\n']) := by
    change ("\"/" ++ name ++ "\"\n").toList = _
    simp [String.toList_append]
  have trimmed : Text.trim s!"\"/{name}\"\n" =
      .ofList ('\x22' :: '/' :: (name.toList ++ ['\x22'])) := by
    rw [Text.trim, chars, Text.trimWhile, List.dropWhile_cons_of_neg (by decide)]
    simp only [← List.cons_append, Text.dropEndWhile_concat]
    rfl
  have last : ∀ c ∈ ('/' :: name.toList).getLast?, (c == '\x22' || c == '\x27') = false := by
    rw [List.getLast?_cons]
    rintro _ ⟨⟩
    cases named : name.toList.getLast? with
    | none => rfl
    | some c => simpa [EndsInQuote, named] using plain
  -- The outer quotation mark goes, and nothing before it.
  rw [inspectedName, trimmed, String.toList_ofList, Text.trimWhile,
    List.dropWhile_cons_of_pos (by decide), List.dropWhile_cons_of_neg (by decide),
    ← List.cons_append, Text.dropEndWhile_concat, if_pos (by decide),
    Text.dropEndWhile_eq_self last]
  simp

namespace Watch

variable {x : String} {w : Watch} {retry : RetryPolicy} {names : List String}

/-- A look at the container tells whether it is there, or else is a reason for doubt. -/
theorem containerExists_watch (plain : ¬ EndsInQuote x) :
    Task.wp (monitor x) (containerExists x) (fun there s => ∀ w' ∈ s, w' = w ∧ there = w.there)
      (fun _ s => ∀ w' ∈ s, w' = { w with doubted := true }) (some w) := by
  refine Task.wp_mk.2 (Prog.wp_request_bind.2 ⟨trivial, fun b => ?_⟩)
  have stepped : (monitor x).step (some w) (Engine.event (.inspect x) b) = w.afterInspect x b :=
    if_pos rfl
  rw [stepped]
  cases b with
  | ok raw =>
    dsimp only [afterInspect]
    split
    · next named =>
      obtain ⟨there, rfl⟩ := named
      rintro _ ⟨⟩
      rw [inspectedName_quoted plain, there]
      exact ⟨rfl, beq_self_eq_true _⟩
    · exact nofun
  | error e =>
    dsimp only [afterInspect]
    cases notFound : e.isNotFound with
    | true =>
      simp only [if_true]
      split
      · exact nofun
      · next gone =>
        rintro _ ⟨⟩
        exact ⟨rfl, (Bool.eq_false_iff.2 gone).symm⟩
    | false =>
      rintro _ ⟨⟩
      rfl

/-- What sweeping makes of a container: it is left alone if it is gone, and removed if it is there
or if that cannot be told. -/
inductive Swept (tries : Nat) (w : Watch) : Watch → Prop
  | gone (h : w.there = false) : Swept tries w w
  | survived (h : w.there = true) : Swept tries w (w.round tries)
  | doubted : Swept tries w ({ w with doubted := true }.round tries)

theorem sweep_singleton_watch (plain : ¬ EndsInQuote x) :
    (FixtureSet.sweep retry [x]).wp (monitor x) (fun _ s => ∀ w' ∈ s, w.Swept retry.budget w')
      (some w) := by
  have told : ∀ notice w₁, w.Swept retry.budget (w₁.round retry.budget) →
      Prog.wp (monitor x) (do notify notice; removeForced retry x; FixtureSet.sweep retry [])
        (fun _ s => ∀ w' ∈ s, w.Swept retry.budget w') (some w₁) := by
    intro notice w₁ swept
    apply (System.ask_aside _).only.wp_seq monitor_ignores_aside
    intro _
    refine Prog.wp_seq (removeWithin_watch retry.backoff retry.budget) fun _ s watch => ?_
    intro w' hmem
    rw [watch w' hmem]
    exact swept
  refine Task.wp_run_bind.2 (Task.wp_mono ?_ ?_ (containerExists_watch plain))
  · rintro there s known
    cases s with
    | none => exact wp_none _ fun _ => nofun
    | some w₁ =>
      obtain ⟨rfl, known⟩ := known w₁ rfl
      cases there with
      | false =>
        rintro _ ⟨⟩
        exact .gone known.symm
      | true => exact told _ _ (.survived known.symm)
  · intro e s known
    cases s with
    | none => exact wp_none _ fun _ => nofun
    | some w₁ =>
      rw [known w₁ rfl]
      exact told _ _ .doubted

end Watch

namespace FixtureSet

theorem sweep_append (retry : RetryPolicy) (before after : List String) :
    sweep retry (before ++ after) = (do sweep retry before; sweep retry after) := by
  induction before with
  | nil => rfl
  | cons name before ih =>
    rw [List.cons_append, sweep, sweep, ih, bind_assoc]
    refine congrArg _ (funext fun there => ?_)
    rcases there with _ | _ | _ <;> simp only [bind_assoc]

variable {x : String} {w : Watch} {pacing : Pacing} {names : List String} {set : FixtureSet}

/-- The container has its turn once. -/
theorem sweep_watch {retry : RetryPolicy} (distinct : names.Nodup) (mem : x ∈ names)
    (plain : ¬ EndsInQuote x) :
    (sweep retry names).wp (Watch.monitor x) (fun _ s => ∀ w' ∈ s, w.Swept retry.budget w')
      (some w) := by
  -- Before its turn and after it, nothing is asked about the container.
  obtain ⟨before, after, rfl⟩ := List.append_of_mem mem
  have spared : ∀ names, x ∉ names → Prog.Finishes (Watch.Spares x) (sweep retry names) := by
    intro names absent
    refine sweep_finishes ?_ ?_ fun _ => Watch.spares_of_aside
    · rintro name hmem
      exact ⟨nofun, by rintro ⟨⟩; exact absent hmem⟩
    · rintro name hmem
      exact ⟨by rintro ⟨⟩; exact absent hmem, nofun⟩
  obtain ⟨-, tail, apart⟩ := List.nodup_append.1 distinct
  rw [sweep_append, ← List.singleton_append, sweep_append]
  apply (spared before fun hmem => apart x hmem x List.mem_cons_self rfl).only.wp_seq
    Watch.monitor_ignores
  intro _
  apply Prog.wp_seq (Watch.sweep_singleton_watch plain)
  intro _ s swept
  exact (spared after (List.nodup_cons.1 tail).1).only.wp Watch.monitor_ignores fun _ => swept

/-- Closing a set goes through one round when fixtures are terminated, and perhaps another. -/
theorem close_watch (live : ∀ r ∈ set.registry, r.fixture.Live) (opened : set.closed = false)
    (distinct : set.containerNames.Nodup) (mem : x ∈ set.containerNames)
    (plain : ¬ EndsInQuote x) :
    (set.close pacing).wp (Watch.monitor x)
      (fun _ s => ∀ w' ∈ s, (w.round pacing.retry.budget).Swept pacing.retry.budget w')
      (some w) := by
  have reversed : (set.registry.reverse.flatMap (·.fixture.containerNames)).Perm
      set.containerNames := (List.reverse_perm _).flatMap_right _
  unfold close
  rw [if_neg (by simp [opened])]
  have awaits : Watch.Awaits x pacing.retry.budget w
      (set.registry.reverse.flatMap (·.fixture.containerNames) ++ []) (some w) := by
    rw [List.append_nil]
    refine ⟨reversed.nodup_iff.2 distinct, ?_⟩
    rintro _ ⟨⟩
    exact (if_pos (reversed.mem_iff.2 mem)).symm
  refine Prog.wp_seq (terminateAll_strikes Watch.monitor_ignores_aside Watch.awaits_strikes
    (fun r hmem => live r (List.mem_reverse.1 hmem)) awaits) ?_
  rintro _ s ⟨-, watch⟩
  cases s with
  | none => exact Watch.wp_none _ fun _ => nofun
  | some w₁ =>
    -- No container waits for its turn any more, so the first round is over.
    obtain rfl : w₁ = w.round pacing.retry.budget := watch w₁ rfl
    apply Prog.wp_seq (sweep_watch distinct mem plain)
    intro _ s swept
    exact (removeNetworks_aside _).only.wp_seq Watch.monitor_ignores_aside fun _ => swept

end FixtureSet

namespace Watch

variable {w' : Watch} {tries k : Nat}

/-- Two rounds are enough for a container that resists less often than there are tries in both. -/
theorem Swept.outcome (some_try : 0 < tries)
    (h : (round tries ⟨true, k, 0, false⟩).Swept tries w') :
    (w'.there = false ↔ k ≤ 2 * tries - 1) ∧
      (w'.doubted = false → w'.asked = min (k + 1) (2 * tries)) := by
  rw [round_eq] at h
  simp only [Bool.true_and, Nat.zero_add] at h
  cases h with
  | gone h =>
    -- The first round was enough.
    have enough : ¬ tries ≤ k := by simpa using h
    refine ⟨iff_of_true h (by omega), fun _ => ?_⟩
    dsimp only
    omega
  | survived h =>
    have short : tries ≤ k := by simpa using h
    simp only [round_eq, short, decide_true, Bool.true_and, decide_eq_false_iff_not]
    omega
  | doubted =>
    simp only [round_eq, ← Bool.decide_and, decide_eq_false_iff_not]
    refine ⟨by omega, nofun⟩

end Watch

end Testbed
