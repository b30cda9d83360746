import Testbed.Proofs.Reports

/-!
# Dialogues with an engine

The commands of a run make up a dialogue with their replies. A task keeps to a script if each run
that succeeds has a dialogue of the script, and each run that fails breaks such a dialogue off and
then only removes what it has started.
-/

namespace Testbed

variable {α β : Type}

/-! ## Dialogues -/

/-- Commands to an engine with their replies. -/
abbrev Dialogue := List (Prog.Event Engine)

/-- Whatever it removes, it is a container or a network. -/
def Engine.Request.Removes : Engine.Request → Prop
  | .remove _ | .removeNetwork _ => True
  | _ => False

theorem commands_removes {p : Action α} {t : Trace} (h : p.Only Engine.Cleans)
    (ht : Prog.Reaches p t) : ∀ c ∈ t.commands, c.request.Removes := by
  intro c hmem
  obtain ⟨e, he, left⟩ := List.mem_filterMap.1 hmem
  have cleans := h.reaches ht e he
  obtain ⟨r | r, b⟩ := e
  · cases left
    cases r <;> trivial
  · cases left

/-- The dialogue is a beginning of `full`, but for the reply to its last command. -/
structure Dialogue.BreaksOff (d full : Dialogue) : Prop where
  commands : d.map (·.request) <+: full.map (·.request)
  replies : d.dropLast <+: full

namespace Dialogue.BreaksOff

variable {d full : Dialogue}

theorem nil (full : Dialogue) : BreaksOff [] full :=
  ⟨List.nil_prefix, List.nil_prefix⟩

theorem single {r : Engine.Request} (b b' : Engine.Reply r) (rest : Dialogue) :
    BreaksOff [⟨r, b⟩] (⟨r, b'⟩ :: rest) :=
  ⟨List.prefix_append [r] _, List.nil_prefix⟩

theorem append_right (h : d.BreaksOff full) (rest : Dialogue) : d.BreaksOff (full ++ rest) where
  commands := by
    rw [List.map_append]
    exact h.commands.trans (List.prefix_append _ _)
  replies := h.replies.trans (List.prefix_append _ _)

theorem append_left (h : d.BreaksOff full) (before : Dialogue) :
    BreaksOff (before ++ d) (before ++ full) where
  commands := by
    rw [List.map_append, List.map_append]
    exact (List.prefix_append_right_inj _).2 h.commands
  replies := by
    -- If nothing follows, the last command is the last one said before.
    by_cases empty : d = []
    · rw [empty, List.append_nil]
      exact (List.dropLast_prefix _).trans (List.prefix_append _ _)
    · rw [List.dropLast_append_of_ne_nil empty]
      exact (List.prefix_append_right_inj _).2 h.replies

end Dialogue.BreaksOff

/-! ## Scripts -/

/-- For each result, the dialogues in which it can come about. -/
abbrev Script (α : Type) := α → Dialogue → Prop

namespace Script

variable {S S' : Script α} {C : Script β} {d said : Dialogue}

/-- What is left of the script when `said` has been said. -/
def after (S : Script α) (said : Dialogue) : Script α :=
  fun a d => S a (said ++ d)

/-- Some dialogue is in the script. -/
def Possible (S : Script α) : Prop := ∃ a d, S a d

/-- A dialogue of the script is broken off, and then only removals follow. -/
def Cut (S : Script α) (d : Dialogue) : Prop :=
  ∃ said cleanup a full, d = said ++ cleanup ∧ (∀ e ∈ cleanup, e.request.Removes) ∧ S a full ∧
    said.BreaksOff full

/-- How a task ends that keeps to the script. -/
def Ends (S : Script α) : Except Error α → Dialogue → Prop
  | .ok a => S a
  | .error _ => S.Cut

theorem Possible.cut (h : S.Possible) : S.Cut [] := by
  obtain ⟨a, full, h⟩ := h
  exact ⟨[], [], a, full, rfl, by simp, h, .nil full⟩

theorem Cut.mono (h : S.Cut d) (sub : ∀ a d, S a d → S' a d) : S'.Cut d := by
  obtain ⟨said, cleanup, a, full, rfl, removes, h, breaks⟩ := h
  exact ⟨said, cleanup, a, full, rfl, removes, sub a full h, breaks⟩

/-- What breaks off a first part, breaks off the whole. -/
theorem Cut.first (h : C.Cut d) (rest : ∀ b u, C b u → (S.after u).Possible) : S.Cut d := by
  obtain ⟨said, cleanup, b, u, rfl, removes, h, breaks⟩ := h
  obtain ⟨a, v, whole⟩ := rest b u h
  exact ⟨said, cleanup, a, u ++ v, rfl, removes, whole, breaks.append_right v⟩

theorem Cut.clean {d' : Dialogue} (h : S.Cut d) (removes' : ∀ e ∈ d', e.request.Removes) :
    S.Cut (d ++ d') := by
  obtain ⟨said, cleanup, a, full, rfl, removes, h, breaks⟩ := h
  refine ⟨said, cleanup ++ d', a, full, List.append_assoc _ _ _, ?_, h, breaks⟩
  intro e hmem
  exact (List.mem_append.1 hmem).elim (removes e) (removes' e)

theorem Cut.later (h : (S.after said).Cut d) : S.Cut (said ++ d) := by
  obtain ⟨said', cleanup, a, full, rfl, removes, h, breaks⟩ := h
  exact ⟨said ++ said', cleanup, a, said ++ full, (List.append_assoc _ _ _).symm, removes, h,
    breaks.append_left said⟩

theorem Ends.later {r : Except Error α} (h : (S.after said).Ends r d) : S.Ends r (said ++ d) := by
  cases r with
  | ok a => exact h
  | error e => exact Cut.later h

end Script

/-! ## Tasks -/

namespace Task

/-- The task keeps to the script. -/
structure KeepsTo (task : Attempt α) (S : Script α) : Prop where
  possible : S.Possible
  ends : ∀ t r, Prog.Yields task.run t r → S.Ends r (Trace.commands t)

namespace KeepsTo

variable {task : Attempt α} {f : α → Attempt β} {S : Script β} {C : Script α}

theorem pure {a : α} (h : C a []) : KeepsTo (pure a) C where
  possible := ⟨a, [], h⟩
  ends := by
    rintro t r ⟨⟩
    exact h

theorem throw {e : Error} (h : C.Possible) : KeepsTo (throw e) C where
  possible := h
  ends := by
    rintro t r ⟨⟩
    exact h.cut

theorem mono {T : Script α} (h : KeepsTo task C) (sub : ∀ a d, C a d → T a d) :
    KeepsTo task T where
  possible := by
    obtain ⟨a, d, h⟩ := h.possible
    exact ⟨a, d, sub a d h⟩
  ends := fun t r ht => by
    have ends := h.ends t r ht
    cases r with
    | ok a => exact sub a _ ends
    | error e => exact Script.Cut.mono ends sub

theorem bind (h : KeepsTo task C) (hf : ∀ a u, C a u → KeepsTo (f a) (S.after u)) :
    KeepsTo (task >>= f) S where
  possible := by
    obtain ⟨a, u, ha⟩ := h.possible
    obtain ⟨b, v, hb⟩ := (hf a u ha).possible
    exact ⟨b, u ++ v, hb⟩
  ends := fun t r ht => by
    obtain ⟨s, u, r', rfl, hs, hu⟩ := Prog.yields_bind.1 ht
    have first := h.ends s r' hs
    cases r' with
    | ok a =>
      rw [Trace.commands_append]
      exact ((hf a _ first).ends u r hu).later
    | error e =>
      -- A task that has failed says no more.
      cases hu
      rw [List.append_nil]
      exact Script.Cut.first first fun a u ha => (hf a u ha).possible

/-- Whoever talks only to the system says nothing. -/
theorem silent_seq [Nonempty α] (h : Only AtSystem task) (hf : ∀ a, KeepsTo (f a) S) :
    KeepsTo (task >>= f) S := by
  have silent : KeepsTo task fun _ d => d = [] := by
    refine ⟨⟨Classical.arbitrary α, [], rfl⟩, fun t r ht => ?_⟩
    have nothing := commands_eq_nil h ht.reaches
    cases r with
    | ok a => exact nothing
    | error e =>
      rw [nothing]
      exact Script.Possible.cut ⟨Classical.arbitrary α, [], rfl⟩
  refine silent.bind ?_
  rintro a _ rfl
  exact hf a

/-- What is asked of the system beforehand is no part of a script. -/
theorem of_silent {p : Action α} {f : α → Action (Except Error β)} (possible : S.Possible)
    (h : p.Only AtSystem) (hf : ∀ a, KeepsTo (.mk (f a)) S) : KeepsTo (.mk (p >>= f)) S where
  possible := possible
  ends := fun t r ht => by
    obtain ⟨s, u, a, rfl, hs, hu⟩ := Prog.yields_bind.1 ht
    rw [Trace.commands_append, commands_eq_nil h hs.reaches, List.nil_append]
    exact (hf a).ends u r hu

theorem mapError {wrap : Error → Error} (h : KeepsTo task C) : KeepsTo (task.mapError wrap) C where
  possible := h.possible
  ends := fun t r ht => by
    obtain ⟨s, u, r', rfl, hs, hu⟩ := Prog.yields_bind.1 ht
    have first := h.ends s r' hs
    cases r' with
    | ok a =>
      cases hu
      rwa [List.append_nil]
    | error e =>
      cases hu
      rwa [List.append_nil]

/-- Cleaning up after a failure is no part of a script. -/
theorem onFailure {cleanup : Error → Action Unit} (h : KeepsTo task C)
    (cleans : ∀ e, (cleanup e).Only Engine.Cleans) :
    KeepsTo (task.onFailure cleanup) C where
  possible := h.possible
  ends := fun t r ht => by
    obtain ⟨s, u, r', rfl, hs, hu⟩ := Prog.yields_bind.1 ht
    have first := h.ends s r' hs
    cases r' with
    | ok a =>
      cases hu
      rwa [List.append_nil]
    | error e =>
      obtain ⟨v, w, _, rfl, cleaned, returns⟩ := Prog.yields_bind.1 hu
      cases returns
      rw [List.append_nil, Trace.commands_append]
      exact Script.Cut.clean first (commands_removes (cleans e) cleaned.reaches)

end KeepsTo

/-! ### Single commands -/

/-- The task makes one request, and has the result `a` when the reply is `reply a`. -/
def Asks (task : Attempt α) (r : Engine.Request) (reply : α → Engine.Reply r) : Prop :=
  ∀ t b, Prog.Yields task.run t b →
    ∃ b', Trace.commands t = [⟨r, b'⟩] ∧ ∀ a, b = .ok a → b' = reply a

namespace Asks

variable {task : Attempt α} {f : α → Attempt β} {S : Script β} {r : Engine.Request}
  {reply : α → Engine.Reply r}

theorem mapError {wrap : Error → Error} (h : Asks task r reply) :
    Asks (task.mapError wrap) r reply := by
  intro t b ht
  obtain ⟨s, u, b', rfl, hs, hu⟩ := Prog.yields_bind.1 ht
  obtain ⟨b₀, asked, replied⟩ := h s b' hs
  cases b' with
  | ok a =>
    cases hu
    rw [List.append_nil]
    exact ⟨b₀, asked, replied⟩
  | error e =>
    cases hu
    rw [List.append_nil]
    exact ⟨b₀, asked, nofun⟩

theorem keepsTo [Nonempty α] (h : Asks task r reply) :
    KeepsTo task fun a d => d = [⟨r, reply a⟩] where
  possible := ⟨Classical.arbitrary α, _, rfl⟩
  ends := fun t b ht => by
    obtain ⟨b', asked, replied⟩ := h t b ht
    cases b with
    | ok a => exact asked.trans (by rw [replied a rfl])
    | error e =>
      rw [asked]
      exact ⟨_, [], Classical.arbitrary α, _, (List.append_nil _).symm, by simp, rfl,
        .single _ _ []⟩

/-- A command whose reply decides whether the task goes on. -/
theorem seq (h : Asks task r reply) (a₀ : α) (possible : (S.after [⟨r, reply a₀⟩]).Possible)
    (hf : ∀ a, KeepsTo (f a) (S.after [⟨r, reply a⟩]) ∨ ∃ e, f a = throw e) :
    KeepsTo (task >>= f) S where
  possible := by
    obtain ⟨b, d, whole⟩ := possible
    exact ⟨b, _, whole⟩
  ends := fun t result ht => by
    obtain ⟨b₀, d₀, whole⟩ := possible
    obtain ⟨s, u, b, rfl, hs, hu⟩ := Prog.yields_bind.1 ht
    obtain ⟨b', asked, replied⟩ := h s b hs
    -- Whatever the reply is, a dialogue of the script begins with this request.
    have cut : S.Cut [⟨r, b'⟩] :=
      ⟨_, [], b₀, _, (List.append_nil _).symm, by simp, whole, .single _ _ d₀⟩
    cases b with
    | ok a =>
      rw [Trace.commands_append, asked, replied a rfl]
      rcases hf a with goes | ⟨e, stops⟩
      · exact (goes.ends u result hu).later
      · have hu : Prog.Yields (throw e : Attempt β).run u result := stops ▸ hu
        cases hu
        rw [replied a rfl] at cut
        exact cut
    | error e =>
      cases hu
      rw [List.append_nil, asked]
      exact cut

end Asks

end Task

end Testbed
