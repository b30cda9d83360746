import Testbed.Engine
import Testbed.Proofs.Monitor

/-!
# Ledgers

A ledger keeps the books on what a program does to an engine: which containers it has started, which
of them it still owes a removal, which networks it has joined, which it has left and which are due
to be left. Under the monitor of ledgers a program removes only what it has started and leaves only
what it has joined. The last part says what the books mean for the trace that they are drawn from.
-/

namespace Testbed

/-- What a program asks its engine and its system, with the replies. -/
abbrev Trace := List (Prog.Event Engine.onSystem)

/-- A request to the engine with its reply. -/
abbrev Engine.event (r : Engine.Request) (b : Engine.Reply r) : Prog.Event Engine.onSystem :=
  ⟨Sum.inl r, b⟩

/-- Requests that start nothing, join no network and remove nothing. -/
def Engine.Idle : Engine.onSystem.Request → Prop
  | .inl (.run _ _) | .inl (.remove _) | .inl (.networkExists _) | .inl (.createNetwork _ _)
  | .inl (.removeNetwork _) => False
  | _ => True

/-- Idle requests that make up no name. -/
def Engine.Still : Engine.onSystem.Request → Prop
  | .inr .suffix => False
  | r => Engine.Idle r

theorem Engine.Still.idle {r : Engine.onSystem.Request} (h : Engine.Still r) : Engine.Idle r := by
  obtain r | r := r
  · exact h
  · trivial

/-- What has come of a request. A container is removed when the engine is told so, whatever it
replies; a network is joined when it is found to exist or created. -/
inductive Deed where
  | started (spec : ContainerSpec)
  | refused (spec : ContainerSpec)
  | removed (name : String)
  | joined (network : String)
  | left (network : String)
  deriving DecidableEq, Repr

namespace Deed

def of? : Prog.Event Engine.onSystem → Option Deed
  | ⟨.inl (.run _ spec), .ok ()⟩ => some (started spec)
  | ⟨.inl (.run _ spec), .error _⟩ => some (refused spec)
  | ⟨.inl (.remove name), _⟩ => some (removed name)
  | ⟨.inl (.networkExists name), .ok true⟩ => some (joined name)
  | ⟨.inl (.createNetwork _ spec), .ok ()⟩ => some (joined spec.name)
  | ⟨.inl (.removeNetwork name), _⟩ => some (left name)
  | _ => none

def started? : Deed → Option ContainerSpec
  | started spec => some spec
  | _ => none

def refused? : Deed → Option ContainerSpec
  | refused spec => some spec
  | _ => none

def removed? : Deed → Option String
  | removed name => some name
  | _ => none

def joined? : Deed → Option String
  | joined network => some network
  | _ => none

def left? : Deed → Option String
  | left network => some network
  | _ => none

theorem eq_joined {d : Deed} {network : String} (h : d.joined? = some network) :
    d = joined network := by
  cases d <;> cases h
  rfl

theorem eq_left {d : Deed} {network : String} (h : d.left? = some network) : d = left network := by
  cases d <;> cases h
  rfl

theorem of?_idle {r : Engine.onSystem.Request} (h : Engine.Idle r) (b : Engine.onSystem.Reply r) :
    of? ⟨r, b⟩ = none := by
  cases r with
  | inl r => cases r <;> first | rfl | exact h.elim
  | inr r => rfl

end Deed

/-! ## What a trace does -/

namespace Trace

def deeds (t : Trace) : List Deed := t.filterMap Deed.of?

/-- The containers that are started, in order. -/
def started (t : Trace) : List ContainerSpec := (deeds t).filterMap Deed.started?

/-- The containers that the engine refuses to start, in order. -/
def refused (t : Trace) : List ContainerSpec := (deeds t).filterMap Deed.refused?

/-- The containers that are told to go, in order, once for each time. -/
def removed (t : Trace) : List String := (deeds t).filterMap Deed.removed?

/-- The networks that are found to exist or created, in order. -/
def joined (t : Trace) : List String := (deeds t).filterMap Deed.joined?

/-- The networks that are told to go, in order, once for each time. -/
def left (t : Trace) : List String := (deeds t).filterMap Deed.left?

/-- The suffixes that are drawn, in order. -/
def drawn (t : Trace) : List String :=
  t.filterMap fun
    | ⟨.inr .suffix, suffix⟩ => some suffix
    | _ => none

theorem started_append (t u : Trace) : started (t ++ u) = started t ++ started u := by
  simp [started, deeds]

theorem removed_append (t u : Trace) : removed (t ++ u) = removed t ++ removed u := by
  simp [removed, deeds]

theorem joined_append (t u : Trace) : joined (t ++ u) = joined t ++ joined u := by
  simp [joined, deeds]

theorem left_append (t u : Trace) : left (t ++ u) = left t ++ left u := by
  simp [left, deeds]

/-- Each container that is started is removed later. -/
def Releases (t : Trace) : Prop :=
  ∀ s u ctx spec, t = s ++ Engine.event (.run ctx spec) (.ok ()) :: u → spec.name ∈ removed u

/-- Only containers are removed that were started before. -/
def RemovesOwn (t : Trace) : Prop :=
  ∀ s u name b, t = s ++ Engine.event (.remove name) b :: u → name ∈ (started s).map (·.name)

/-- Only networks are removed that were joined before. -/
def LeavesOwn (t : Trace) : Prop :=
  ∀ s u name b, t = s ++ Engine.event (.removeNetwork name) b :: u → name ∈ joined s

/-- Each network that is joined is left later. -/
def LeavesJoined (t : Trace) : Prop :=
  ∀ s e u name, t = s ++ e :: u → name ∈ joined [e] → name ∈ left u

end Trace

/-! ## Ledgers -/

structure Ledger where
  /-- The containers started so far, in order. -/
  started : List ContainerSpec := []
  /-- The containers that could not be started, in order. -/
  refused : List ContainerSpec := []
  /-- The containers started and not removed since. -/
  owed : List ContainerSpec := []
  /-- The networks joined so far, in order. -/
  joined : List String := []
  /-- The networks left so far, in order. -/
  left : List String := []
  /-- The networks joined and not left since. -/
  due : List String := []

namespace Ledger

def enter (l : Ledger) : Deed → Ledger
  | .started spec => { l with started := l.started ++ [spec], owed := l.owed ++ [spec] }
  | .refused spec => { l with refused := l.refused ++ [spec] }
  | .removed name => { l with owed := l.owed.filter (·.name ≠ name) }
  | .joined network => { l with joined := l.joined ++ [network], due := l.due ++ [network] }
  | .left network => { l with left := l.left ++ [network], due := l.due.filter (· ≠ network) }

/-- What was started may be removed, and what was joined may be left. -/
def Permits (l : Ledger) : Engine.onSystem.Request → Prop
  | .inl (.remove name) => name ∈ l.started.map (·.name)
  | .inl (.removeNetwork name) => name ∈ l.joined
  | _ => True

def monitor : Monitor Engine.onSystem Ledger where
  step l e := (Deed.of? e).elim l l.enter
  allows := Permits

theorem monitor_ignores : monitor.Ignores Engine.Idle := by
  intro r h l
  refine ⟨?_, fun b => by simp [monitor, Deed.of?_idle h]⟩
  cases r with
  | inl r => cases r <;> trivial
  | inr r => trivial

theorem monitor_ignores_still : monitor.Ignores Engine.Still :=
  monitor_ignores.mono fun _ => Engine.Still.idle

theorem started_enter (l : Ledger) (d : Deed) : l.started <+: (l.enter d).started := by
  cases d with
  | started spec => exact List.prefix_append _ _
  | _ => exact List.prefix_rfl

/-- What was started once stays on the books. -/
theorem started_grows (l : Ledger) (e : Prog.Event Engine.onSystem) :
    l.started <+: (monitor.step l e).started := by
  unfold monitor
  cases h : Deed.of? e with
  | none => simp [h]
  | some d => simpa [h] using started_enter l d

/-! ### Books and traces -/

theorem after_eq_foldl (l : Ledger) (t : Trace) :
    monitor.after l t = (Trace.deeds t).foldl enter l := by
  induction t generalizing l with
  | nil => rfl
  | cons e t ih =>
    rw [Monitor.after_cons, ih, Trace.deeds, Trace.deeds, List.filterMap_cons]
    cases h : Deed.of? e <;> simp [monitor, h]

/-- A book to which every deed adds at the end is, after a trace, the book before with what the
trace adds. -/
theorem book_after {β : Type} {book : Ledger → List β} {deed? : Deed → Option β}
    (h : ∀ l d, book (l.enter d) = book l ++ (deed? d).toList) (l : Ledger) (t : Trace) :
    book (monitor.after l t) = book l ++ (Trace.deeds t).filterMap deed? := by
  rw [after_eq_foldl]
  generalize Trace.deeds t = deeds
  induction deeds generalizing l with
  | nil => simp
  | cons d deeds ih =>
    rw [List.foldl_cons, ih, h, List.filterMap_cons, List.append_assoc]
    cases deed? d <;> rfl

theorem started_after (l : Ledger) (t : Trace) :
    (monitor.after l t).started = l.started ++ t.started :=
  book_after (fun _ d => by cases d <;> simp [enter, Deed.started?]) l t

theorem refused_after (l : Ledger) (t : Trace) :
    (monitor.after l t).refused = l.refused ++ t.refused :=
  book_after (fun _ d => by cases d <;> simp [enter, Deed.refused?]) l t

theorem joined_after (l : Ledger) (t : Trace) :
    (monitor.after l t).joined = l.joined ++ t.joined :=
  book_after (fun _ d => by cases d <;> simp [enter, Deed.joined?]) l t

theorem left_after (l : Ledger) (t : Trace) : (monitor.after l t).left = l.left ++ t.left :=
  book_after (fun _ d => by cases d <;> simp [enter, Deed.left?]) l t

/-- What no deed of a trace takes off a book stays on it. -/
theorem mem_book_after {β : Type} {book : Ledger → List β} {b : β} {l : Ledger} {t : Trace}
    (stays : ∀ d ∈ Trace.deeds t, ∀ l, b ∈ book l → b ∈ book (l.enter d)) (h : b ∈ book l) :
    b ∈ book (monitor.after l t) := by
  rw [after_eq_foldl]
  generalize Trace.deeds t = deeds at stays ⊢
  induction deeds generalizing l with
  | nil => exact h
  | cons d deeds ih =>
    obtain ⟨first, rest⟩ := List.forall_mem_cons.1 stays
    exact ih (first l h) rest

/-- What a request puts on a book is taken off later, if nothing is on it in the end. -/
theorem not_stays_of_empty {β : Type} (book : Ledger → List β) {b : β} {s u : Trace}
    {e : Prog.Event Engine.onSystem} (empty : book (monitor.after {} (s ++ e :: u)) = [])
    (enters : ∀ l, b ∈ book (monitor.after l [e])) :
    ¬ ∀ l, b ∈ book l → b ∈ book (monitor.after l u) := by
  intro stays
  have still := stays _ (enters (monitor.after {} s))
  rw [← Monitor.after_append, ← Monitor.after_append, List.singleton_append, empty] at still
  exact List.not_mem_nil still

/-- A container stays owed until it is told to go. -/
theorem mem_owed_after {l : Ledger} {t : Trace} {spec : ContainerSpec} (h : spec ∈ l.owed)
    (kept : spec.name ∉ Trace.removed t) : spec ∈ (monitor.after l t).owed := by
  refine mem_book_after (fun d done l owed => ?_) h
  cases d with
  | removed name =>
    have other : spec.name ≠ name := fun same =>
      kept (same ▸ List.mem_filterMap.2 ⟨_, done, rfl⟩)
    exact List.mem_filter.2 ⟨owed, by simpa using other⟩
  | started spec' => exact List.mem_append_left _ owed
  | _ => exact owed

/-- Who owes nothing in the end has removed what was started. -/
theorem releases_of_owed {t : Trace} (h : (monitor.after {} t).owed = []) : t.Releases := by
  rintro s u ctx spec rfl
  -- A container that is not removed later would still be owed in the end.
  refine Decidable.byContradiction fun kept => ?_
  refine not_stays_of_empty Ledger.owed h (fun l => ?_) fun _ owed => mem_owed_after owed kept
  exact List.mem_append_right _ (List.mem_singleton_self spec)

theorem mem_due_of_joined {l : Ledger} {e : Prog.Event Engine.onSystem} {network : String}
    (h : network ∈ Trace.joined [e]) : network ∈ (monitor.after l [e]).due := by
  rw [after_eq_foldl, Trace.deeds]
  rw [Trace.joined, Trace.deeds] at h
  cases made : Deed.of? e with
  | none => simp [made] at h
  | some d =>
    have joined : d.joined? = some network := by simpa [made] using h
    obtain rfl := Deed.eq_joined joined
    simp [made, enter]

/-- A network stays due until it is told to go. -/
theorem mem_due_after {l : Ledger} {t : Trace} {network : String} (h : network ∈ l.due)
    (kept : network ∉ Trace.left t) : network ∈ (monitor.after l t).due := by
  refine mem_book_after (fun d done l due => ?_) h
  cases d with
  | left network' =>
    have other : network ≠ network' := fun same =>
      kept (same ▸ List.mem_filterMap.2 ⟨_, done, rfl⟩)
    exact List.mem_filter.2 ⟨due, by simpa using other⟩
  | joined network' => exact List.mem_append_left _ due
  | _ => exact due

/-- Who has nothing due in the end has left what was joined. -/
theorem leavesJoined_of_due {t : Trace} (h : (monitor.after {} t).due = []) : t.LeavesJoined := by
  rintro s e u network rfl joined
  refine Decidable.byContradiction fun kept => ?_
  exact not_stays_of_empty Ledger.due h (fun _ => mem_due_of_joined joined) fun _ due =>
    mem_due_after due kept

theorem removesOwn_of_accepts {t : Trace} (h : monitor.Accepts {} t) : t.RemovesOwn := by
  intro s u name b eq
  have permits : name ∈ (monitor.after {} s).started.map (·.name) := (eq ▸ h).allows
  rwa [started_after, List.nil_append] at permits

theorem leavesOwn_of_accepts {t : Trace} (h : monitor.Accepts {} t) : t.LeavesOwn := by
  intro s u name b eq
  have permits : name ∈ (monitor.after {} s).joined := (eq ▸ h).allows
  rwa [joined_after, List.nil_append] at permits

end Ledger

end Testbed
