import Testbed.Proofs.Conduct
import Testbed.Proofs.Scenes
import Testbed.Proofs.Vigilance

/-!
# Cancellation

Once a context is done, the engine starts and creates nothing under it any more. A set whose plans
run under that context can only shrink what is there, and what it removes goes.
-/

namespace Testbed

open Simulation (Host Scene SimulatedEngine)

/-! ## Under one context -/

/-- Whatever is started or created, is so under `ctx` or a context derived from it. -/
structure Trace.Under (ctx : Context) (t : Trace) : Prop where
  runs : ∀ ctx' spec b, Engine.event (.run ctx' spec) b ∈ t → ctx.Derived ctx'
  creates : ∀ ctx' spec b, Engine.event (.createNetwork ctx' spec) b ∈ t → ctx.Derived ctx'

theorem Trace.Under.mono {ctx : Context} {t u : Trace} (h : t.Under ctx) (sub : u ⊆ t) :
    u.Under ctx :=
  ⟨fun _ _ _ hmem => h.runs _ _ _ (sub hmem), fun _ _ _ hmem => h.creates _ _ _ (sub hmem)⟩

theorem Conduct.under_of_accepts {ctx : Context} {t : Trace}
    (h : (Conduct.under ctx).monitor.Accepts [] t) : t.Under ctx where
  runs ctx' spec b hmem := by
    obtain ⟨s, u, rfl⟩ := List.append_of_mem hmem
    exact h.allows
  creates ctx' spec b hmem := by
    obtain ⟨s, u, rfl⟩ := List.append_of_mem hmem
    have uses : ctx.Derived ctx' ∧ _ := h.allows
    exact uses.1

/-- A plan runs under `ctx` or a context derived from it. -/
def FixtureSet.Use.Under (ctx : Context) : Use → Prop
  | .extend ctx' _ => ctx.Derived ctx'
  | .close => True

theorem FixtureSet.useAll_under {pacing : Pacing} {ctx : Context} {set : FixtureSet}
    {uses : List Use} {t : Trace} (h : ∀ use ∈ uses, use.Under ctx)
    (ht : Prog.Reaches (set.useAll pacing uses) t) : t.Under ctx := by
  have keeps : ∀ use ∈ uses, use.Keeps (Conduct.under ctx) := by
    intro use hmem
    have under := h use hmem
    cases use with
    | extend ctx' plan => exact ⟨under, fun _ _ => trivial⟩
    | close => trivial
  exact Conduct.under_of_accepts (Prog.wp_reaches (useAll_governed keeps []) ht)

/-! ## After the end of a context -/

namespace Simulation.Scene

variable {s s₁ s₂ : Scene} {t u v : Trace} {ctx ctx' : Context}

/-- A context is done with any that it is derived from. -/
theorem Done.derived (h : s.Done ctx) (derived : ctx.Derived ctx') : s.Done ctx' := by
  induction derived with
  | self => exact h
  | expiringAt _ now timeout ih => exact ih.expiringAt now timeout

theorem Done.doneFor (h : s.Done ctx) {r : Engine.Request}
    (bounds : Bench.contextOf? r = some ctx) : s.doneFor r ≠ none := by
  rwa [Scene.doneFor, bounds]

/-- The request does not succeed. -/
def Refused (ctx : Context) (e : Prog.Event Engine.onSystem) : Prop :=
  (∀ spec, e ≠ Engine.event (.run ctx spec) (.ok ())) ∧
    ∀ spec, e ≠ Engine.event (.createNetwork ctx spec) (.ok ())

/-- Nothing is started or created under a context that is done. -/
theorem Done.refuses (done : s.Done ctx) (fresh : StreamId) (r : Engine.Request) :
    Refused ctx (Engine.event r (s.reply fresh r)) := by
  have changes := (s.answered fresh r).2
  generalize s.reply fresh r = b at changes ⊢
  constructor
  · rintro spec ⟨⟩
    exact done.doneFor rfl changes.1
  · rintro spec ⟨⟩
    exact done.doneFor rfl changes.1

/-- As long as a scene lasts after a context is done, nothing is started or created under it. -/
theorem Serves.refuses (h : s.Serves t s₁) (done : s.Done ctx) : ∀ e ∈ t, Refused ctx e := by
  induction h with
  | start => simp
  | engine fresh r rest ih => exact List.forall_mem_cons.2 ⟨done.refuses fresh r, ih done⟩
  | system r b rest ih => exact List.forall_mem_cons.2 ⟨⟨nofun, nofun⟩, ih done⟩
  | meanwhile later rest ih => exact ih (done.later later)

/-- While `t` was served nothing was added, and what was told to go has gone, unless removals are
made to fail. -/
structure WindsDown (s : Scene) (t : Trace) (s' : Scene) : Prop where
  refuses : ∀ e ∈ t, ∀ ctx, Refused ctx e
  containers : s'.engine.containers.Sublist s.engine.containers
  networks : s'.engine.networks.Sublist s.engine.networks
  removes : s.engine.RemovesFreely → ∀ c ∈ s'.engine.containers, c.spec.name ∉ t.removed
  leaves : s.engine.LeavesFreely → ∀ network ∈ s'.engine.networks, network ∉ t.left

/-- An event that changes nothing. -/
theorem WindsDown.same {e : Prog.Event Engine.onSystem} (refuses : ∀ ctx, Refused ctx e)
    (same : s₁.engine.containers = s.engine.containers ∧ s₁.engine.networks = s.engine.networks)
    (removed : Trace.removed [e] = []) (left : Trace.left [e] = []) : s.WindsDown [e] s₁ where
  refuses := List.forall_mem_singleton.2 refuses
  containers := same.1 ▸ .refl _
  networks := same.2 ▸ .refl _
  removes _ _ _ := removed ▸ List.not_mem_nil
  leaves _ _ _ := left ▸ List.not_mem_nil

/-- What has gone does not come back. -/
theorem WindsDown.trans (h : s.WindsDown u s₁) (h' : s₁.WindsDown v s₂)
    (removes : s.engine.RemovesFreely → s₁.engine.RemovesFreely)
    (leaves : s.engine.LeavesFreely → s₁.engine.LeavesFreely) : s.WindsDown (u ++ v) s₂ where
  refuses := List.forall_mem_append.2 ⟨h.refuses, h'.refuses⟩
  containers := h'.containers.trans h.containers
  networks := h'.networks.trans h.networks
  removes free c hmem := by
    rw [Trace.removed_append, List.mem_append, not_or]
    exact ⟨h.removes free c (h'.containers.subset hmem), h'.removes (removes free) c hmem⟩
  leaves free network hmem := by
    rw [Trace.left_append, List.mem_append, not_or]
    exact ⟨h.leaves free network (h'.networks.subset hmem), h'.leaves (leaves free) network hmem⟩

/-- A request winds a scene down if it is under a context that is done. -/
theorem next_windsDown (fresh : StreamId) (r : Engine.Request) (done : s.Done ctx)
    (under : Trace.Under ctx [Engine.event r (s.reply fresh r)]) :
    s.WindsDown [Engine.event r (s.reply fresh r)] (s.next fresh r) := by
  have changes := (s.answered fresh r).2
  generalize s.reply fresh r = b at changes under ⊢
  cases r with
  | run ctx' spec =>
    have derived := under.runs ctx' spec b (List.mem_singleton_self _)
    cases b with
    | ok => exact absurd changes.1 ((done.derived derived).doneFor rfl)
    | error => exact .same (fun _ => ⟨nofun, nofun⟩) changes rfl rfl
  | createNetwork ctx' spec =>
    have derived := under.creates ctx' spec b (List.mem_singleton_self _)
    cases b with
    | ok => exact absurd changes.1 ((done.derived derived).doneFor rfl)
    | error => exact .same (fun _ => ⟨nofun, nofun⟩) changes rfl rfl
  | remove name =>
    refine ⟨List.forall_mem_singleton.2 fun _ => ⟨nofun, nofun⟩, ?_, changes.2 ▸ .refl _, ?_,
      fun _ _ _ => List.not_mem_nil⟩
    · obtain gone | ⟨-, same⟩ := changes.1
      · exact gone ▸ List.filter_sublist
      · exact same ▸ .refl _
    · intro free c hmem
      -- A removal that is not made to fail is never in vain.
      rw [changes.1.resolve_right fun made => made.1 free] at hmem
      change c.spec.name ∉ [name]
      simpa using (List.mem_filter.1 hmem).2
  | removeNetwork name =>
    refine ⟨List.forall_mem_singleton.2 fun _ => ⟨nofun, nofun⟩, changes.1 ▸ .refl _, ?_,
      fun _ _ _ => List.not_mem_nil, ?_⟩
    · obtain gone | ⟨-, same⟩ := changes.2
      · exact gone ▸ List.filter_sublist
      · exact same ▸ .refl _
    · intro free network hmem
      rw [changes.2.resolve_right fun made => made.1 free] at hmem
      change network ∉ [name]
      simpa using (List.mem_filter.1 hmem).2
  | networkExists name =>
    -- To find a network is a deed, though nothing changes.
    rcases b with _ | _ | _ <;> exact .same (fun _ => ⟨nofun, nofun⟩) changes rfl rfl
  | _ => exact .same (fun _ => ⟨nofun, nofun⟩) changes rfl rfl

/-- A scene winds down while it serves what is under a context that is done. -/
theorem Serves.windsDown (h : s.Serves t s₁) (done : s.Done ctx) (under : t.Under ctx) :
    s.WindsDown t s₁ := by
  induction h with
  | start s =>
    exact ⟨by simp, .refl _, .refl _, fun _ _ _ => List.not_mem_nil, fun _ _ _ => List.not_mem_nil⟩
  | @engine s _ _ fresh r rest ih =>
    have quieter := (s.answered fresh r).1
    have first := next_windsDown fresh r done (under.mono (by simp))
    exact first.trans (ih done (under.mono (by simp))) quieter.removesFreely quieter.leavesFreely
  | @system s _ _ r b rest ih =>
    have first : s.WindsDown [⟨Sum.inr r, b⟩] s :=
      .same (fun _ => ⟨nofun, nofun⟩) ⟨rfl, rfl⟩ rfl rfl
    exact first.trans (ih done (under.mono (by simp))) id id
  | meanwhile later rest ih =>
    have rest := ih (done.later later) under
    exact ⟨rest.refuses, later.engine.containers ▸ rest.containers, later.networks ▸ rest.networks,
      fun free => rest.removes (later.engine.removes free),
      fun free => rest.leaves (later.leaves free)⟩

end Simulation.Scene

/-! ## Sets -/

/-- When a context is done, this is final and it is seen. Nothing is started or created under it any
more, so a set whose plans run under it only winds the scene down; what it has started is removed
all the same when it is closed. A step that is told of a cancellation fails with just that, and so
it is reported. -/
theorem cancellation_is_final_and_visible (pacing : Pacing) :
    (∀ ctx ctx' (s s' : Scene) t, s.Done ctx → ctx.Derived ctx' → s.Serves t s' →
      ∀ e ∈ t, Scene.Refused ctx' e) ∧
    (∀ ctx (set : FixtureSet) uses u v (s s' : Scene), (∀ use ∈ uses, use.Under ctx) →
      Prog.Reaches (set.useAll pacing uses) (u ++ v) → s.Done ctx → s.Serves v s' →
      s.WindsDown v s') ∧
    (∀ uses t set (s s' : Scene),
      Prog.Yields (do (← FixtureSet.useAll pacing {} uses).close pacing) t set →
      s.engine.RemovesFreely → s.Serves t s' → s'.engine.containers = s.engine.containers) ∧
    (∀ ctx (set : FixtureSet) names step t r e,
      Prog.Yields (set.runStep pacing ctx names step).run t r → Trace.Tells ctx t e →
      r = .error e) ∧
    (∀ ctx (set : FixtureSet) plan t set' e, Prog.Yields (set.extend pacing ctx plan) t set' →
      Trace.Tells ctx t e → set.FailedAt set' plan.steps e) := by
  refine ⟨?_, ?_, ?_, ?_, ?_⟩
  · intro ctx ctx' s s' t done derived serves
    exact serves.refuses (done.derived derived)
  · intro ctx set uses u v s s' under ht done serves
    have whole := FixtureSet.useAll_under under ht
    exact serves.windsDown done (whole.mono (List.subset_append_right u v))
  · intro uses t set s s' ht free serves
    have closes := FixtureSet.close_settles pacing uses
    have accepts := Prog.wp_reaches closes ht.reaches
    have settled := Ledger.Settled.tidy accepts (Prog.wp_yields closes ht)
    exact settled.restores _ _ free serves.engine_serves
  · intro ctx set names step t r e ht told
    exact FixtureSet.runStep_told ht told
  · intro ctx set plan t set' e ht told
    exact FixtureSet.extend_told_failedAt ht told

/-! A cache is provided before its context is cancelled. Then a network is asked for, and the set is
closed. -/

namespace CancelledLife

def ctx : Context := ⟨⟨0⟩, none⟩

def cache : FixtureSet.Use := .extend ctx { steps := [.cache none] }

def network : Plan := { steps := [.network none] }

def before : Trace × Option FixtureSet × Scene :=
  Scene.play (FixtureSet.use {} {} cache) {}

def set : FixtureSet := before.2.1.getD {}

def scene : Scene := { before.2.2 with host := before.2.2.host.cancel ctx.token }

def after : Trace × Option FixtureSet × Scene :=
  Scene.play (set.useAll {} [.extend ctx network, .close]) scene

/-- Without any cancellation the set is closed. -/
def whole : Trace × Option FixtureSet × Scene :=
  Scene.play (do (← FixtureSet.useAll {} {} [cache]).close {}) {}

/-- The context is cancelled from the beginning. -/
def lost : Scene := { host := Host.cancel {} ctx.token }

def step : Trace × Option (Except Error FixtureSet) × Scene :=
  Scene.play (FixtureSet.runStep {} ctx {} {} (.network none)).run lost

def failed : Trace × Option FixtureSet × Scene :=
  Scene.play (FixtureSet.extend {} ctx {} network) lost

end CancelledLife

open CancelledLife in
theorem cancelled_network_is_seen :
    scene.Done ctx ∧ scene.engine.containers.map (·.spec.name) = ["test-redis"] ∧
      (∀ e ∈ after.1, Scene.Refused (ctx.expiringAt ⟨0⟩ Network.createTimeout) e) ∧
      scene.WindsDown after.1 after.2.2 ∧ Trace.removed after.1 = ["test-redis"] ∧
      whole.2.2.engine.containers = [] ∧
      step.2.1 = some (.error (.cancelled "context cancelled")) ∧
      FixtureSet.FailedAt {} (failed.2.1.getD {}) network.steps
        (.cancelled "context cancelled") := by
  have final := cancellation_is_final_and_visible {}
  have done : scene.Done ctx := Scene.done_iff.2 (.inl List.mem_cons_self)
  have served : scene.Serves after.1 after.2.2 := Scene.play_serves _ _
  have reached : Prog.Reaches (FixtureSet.useAll {} {} [cache, .extend ctx network, .close])
      (before.1 ++ after.1) :=
    (Prog.yields_bind.2 ⟨_, _, set, rfl, Scene.play_yields rfl,
      Scene.play_yields (a := after.2.1.getD {}) rfl⟩).reaches
  have under : ∀ use ∈ [cache, .extend ctx network, .close], FixtureSet.Use.Under ctx use := by
    simp [cache, FixtureSet.Use.Under, Context.Derived.self]
  have free : SimulatedEngine.RemovesFreely {} := ⟨.inl rfl, fun _ => .inl rfl⟩
  have ends : step.2.1 = some (step.2.1.getD (.ok {})) := rfl
  have stepTold : Trace.Tells ctx step.1 (.cancelled "context cancelled") :=
    Trace.Tells.createNetwork (s := step.1.take 2) (u := step.1.drop 3)
  have told : Trace.Tells ctx failed.1 (.cancelled "context cancelled") :=
    Trace.Tells.createNetwork (s := failed.1.take 2) (u := failed.1.drop 3)
  refine ⟨done, by decide +kernel, ?_, ?_, by decide +kernel, ?_, ?_, ?_⟩
  · exact final.1 ctx _ scene after.2.2 after.1 done (.expiringAt .self _ _) served
  · exact final.2.1 ctx {} _ _ _ scene after.2.2 under reached done served
  · exact final.2.2.1 [cache] whole.1 (whole.2.1.getD {}) {} whole.2.2 (Scene.play_yields rfl) free
      (Scene.play_serves _ _)
  · rw [ends, final.2.2.2.1 ctx {} {} (.network none) step.1 _ _ (Scene.play_yields ends) stepTold]
  · exact final.2.2.2.2 ctx {} network failed.1 _ _ (Scene.play_yields rfl) told

end Testbed
