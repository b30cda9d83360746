import Testbed.Proofs.Reports

/-!
# What a set holds is there

An engine gives a name to one container at a time, so the containers that are owed a removal go by
different names, and each of them is there until it is removed. As long as no step has failed, they
are the containers of the set.
-/

namespace Testbed

open Ledger (monitor monitor_ignores)

/-! ## Engines -/

namespace Simulation.SimulatedEngine

variable {e e₁ e' : SimulatedEngine} {l : Ledger}

theorem isSome_container? {name : String} :
    (e.container? name).isSome ↔ ∃ c ∈ e.containers, c.spec.name = name := by
  simp [container?]

/-- The containers that are owed a removal are there, under different names. -/
structure Houses (e : SimulatedEngine) (l : Ledger) : Prop where
  distinct : (l.owed.map (·.name)).Nodup
  there : ∀ spec ∈ l.owed, (e.container? spec.name).isSome

theorem Houses.new (e : SimulatedEngine) : e.Houses {} := ⟨List.nodup_nil, by simp⟩

theorem Houses.same {l' : Ledger} (h : e.Houses l) (containers : e₁.containers = e.containers)
    (owed : l'.owed = l.owed := by rfl) : e₁.Houses l' := by
  refine ⟨owed ▸ h.distinct, fun spec hmem => ?_⟩
  rw [isSome_container?, containers, ← isSome_container?]
  exact h.there spec (owed ▸ hmem)

theorem Houses.run {spec : ContainerSpec} (h : e.Houses l)
    (unknown : ∀ c ∈ e.containers, c.spec.name ≠ spec.name)
    (added : ∃ c : SimulatedContainer, c.spec = spec ∧ e₁.containers = e.containers ++ [c]) :
    e₁.Houses (l.enter (.started spec)) := by
  obtain ⟨c, rfl, containers⟩ := added
  -- What is owed is there, so a name that is free is none of theirs.
  have free : c.spec.name ∉ l.owed.map (·.name) := by
    intro hmem
    obtain ⟨spec, owed, same⟩ := List.mem_map.1 hmem
    obtain ⟨c', there, name⟩ := isSome_container?.1 (h.there spec owed)
    exact unknown c' there (name.trans same)
  refine ⟨?_, fun spec hmem => ?_⟩
  · rw [Ledger.enter, List.map_append]
    refine List.nodup_append.2 ⟨h.distinct, List.nodup_cons.2 ⟨List.not_mem_nil, .nil⟩, ?_⟩
    intro name hmem name' last same
    obtain rfl : name' = c.spec.name := List.mem_singleton.1 last
    exact free (same ▸ hmem)
  · rw [isSome_container?, containers]
    rcases List.mem_append.1 hmem with hmem | hmem
    · obtain ⟨c', there, name⟩ := isSome_container?.1 (h.there spec hmem)
      exact ⟨c', List.mem_append_left _ there, name⟩
    · rw [List.mem_singleton.1 hmem]
      exact ⟨c, List.mem_append_right _ (List.mem_singleton_self c), rfl⟩

/-- A removal takes away no other container, whether it fails or not. -/
theorem Houses.remove {name : String} (h : e.Houses l)
    (removed : ∀ c ∈ e.containers, c.spec.name ≠ name → c ∈ e₁.containers) :
    e₁.Houses (l.enter (.removed name)) := by
  refine ⟨h.distinct.sublist (List.filter_sublist.map _), fun spec hmem => ?_⟩
  obtain ⟨owed, other⟩ := List.mem_filter.1 hmem
  obtain ⟨c, there, same⟩ := isSome_container?.1 (h.there spec owed)
  exact isSome_container?.2 ⟨c, removed c there (by simpa [same] using other), same⟩

theorem Houses.step {done : Option Context.Cause} {r : Engine.Request} {b : Engine.Reply r}
    (h : e.Houses l) (answered : Answered done e r b e₁) :
    e₁.Houses (monitor.step l (Engine.event r b)) := by
  have changes := answered.2
  cases r with
  | run ctx spec =>
    cases b with
    | ok => exact h.run changes.2.1 changes.2.2.1
    | error => exact h.same changes.1
  | remove name =>
    refine h.remove fun c hmem other => ?_
    rcases changes.1 with gone | ⟨-, same⟩
    · rw [gone]
      exact List.mem_filter.2 ⟨hmem, by simpa using other⟩
    · exact same ▸ hmem
  | createNetwork ctx spec =>
    cases b with
    | ok => exact h.same changes.2.1
    | error => exact h.same changes.1
  | networkExists name => rcases b with _ | _ | _ <;> exact h.same changes.1
  | _ => exact h.same changes.1

/-- What is owed a removal in the end is there in the end, whatever fails. -/
theorem Serves.houses {t : Trace} (serves : e.Serves t e') (h : e.Houses l) :
    e'.Houses (monitor.after l t) := by
  -- No request needs to succeed: what fails leaves both the books and the engine as they are.
  induction serves generalizing l with
  | start => exact h
  | engine done fresh r rest ih => exact ih (h.step (answer_answered done fresh r _))
  | system r b rest ih => exact ih h
  | meanwhile undisturbed rest ih => exact ih (h.same undisturbed.containers)

end Simulation.SimulatedEngine

/-! ## Sets -/

namespace FixtureSet

open Simulation (SimulatedEngine)

variable {set set' : FixtureSet} {l l₁ : Ledger} {pacing : Pacing} {ctx : Context} {t u : Trace}

/-- The containers that are owed a removal are those of the set. -/
def Owes (set : FixtureSet) (l : Ledger) : Prop :=
  (l.owed.map (·.name)).Perm set.containerNames

theorem Owes.advance {role : Role} (h : set.Owes l) (h' : set.Advances set' role l l₁) :
    set'.Owes l₁ := by
  obtain ⟨g, -, rfl, gained⟩ := h'
  obtain ⟨specs, names, owed⟩ := gained.owes
  rw [Owes, owed, List.map_append, names]
  exact (h.append_right _).trans (set.containerNames_grow g).symm

/-- A step that fails may remove what goes by the name of an earlier container, but then the set has
failed. -/
theorem runSteps_owes {names : FixtureNames} {steps : List Step}
    (h : set.error = none → set.Owes l) :
    Prog.wp monitor (runSteps pacing ctx names set steps)
      (fun set' l' => set'.error = none → set'.Owes l') l := by
  induction steps generalizing set l with
  | nil => exact h
  | cons step steps ih =>
    unfold runSteps
    split
    · next failed =>
      refine ih fun sound => ?_
      have sound : set.error = none := sound
      exact absurd failed (by simp [sound])
    · next sound =>
      refine Task.wp_run_bind.2 (Task.wp_mono ?_ ?_ runStep_advances)
      · intro set' l' advances
        have owes : set'.Owes l' := (h (by simpa using sound)).advance advances
        exact ih fun _ => owes
      · intro e l' _
        apply Prog.Only.wp_seq (System.ask_idle _) monitor_ignores
        intro _
        exact ih fun sound => absurd sound (Option.some_ne_none _)

theorem extend_owes {plan : Plan} (h : set.error = none → set.Owes l) :
    Prog.wp monitor (set.extend pacing ctx plan)
      (fun set' l' => set'.error = none → set'.Owes l') l := by
  unfold extend
  split
  · exact Prog.Only.wp_seq (System.ask_idle _) monitor_ignores fun _ => h
  · split
    · exact h
    · exact runSteps_owes h

/-- A set that has been closed owes nothing. -/
theorem close_owes (backed : set.Backed l) (hu : Prog.Yields (set.close pacing) u set') :
    set'.Owes (monitor.after l u) := by
  obtain ⟨backed', entered, undone⟩ := Prog.wp_yields (close_backed backed) hu
  have gone : set'.registry = [] := (backed'.closed (close_result hu).1).1
  rw [Owes, undone.owed_nil, containerNames, gone]
  exact .refl _

theorem useAll_owes {uses : List Use} (backed : set.Backed l) (h : set.error = none → set.Owes l)
    (hu : Prog.Yields (set.useAll pacing uses) u set') :
    set'.error = none → set'.Owes (monitor.after l u) := by
  induction uses generalizing set l u with
  | nil =>
    cases hu
    exact h
  | cons use uses ih =>
    obtain ⟨v, w, set₁, rfl, used, rest⟩ := Prog.yields_bind.1 hu
    rw [Monitor.after_append]
    cases use with
    | extend ctx plan =>
      exact ih (Prog.wp_yields (extend_backed backed) used)
        (Prog.wp_yields (extend_owes h) used) rest
    | close =>
      exact ih (Prog.wp_yields (close_backed backed) used).1
        (fun _ => close_owes backed used) rest

/-- The containers of a set of which no step has failed are there, under different names. -/
theorem useAll_houses {uses : List Use} {e e' : SimulatedEngine}
    (hu : Prog.Yields (useAll pacing {} uses) t set) (sound : set.error = none)
    (serves : e.Serves t e') :
    set.containerNames.Nodup ∧ ∀ name ∈ set.containerNames, (e'.container? name).isSome := by
  have houses := serves.houses (.new e)
  have owes : set.Owes (monitor.after {} t) := useAll_owes .new (fun _ => .refl _) hu sound
  refine ⟨owes.nodup_iff.1 houses.distinct, fun name hmem => ?_⟩
  obtain ⟨spec, owed, rfl⟩ := List.mem_map.1 (owes.mem_iff.2 hmem)
  exact houses.there spec owed

end FixtureSet

end Testbed
