/-!
# Environments

An environment maps names to values and lists them in the order of the names. There is one list
for each map, so environments with the same values are equal (`Env.ext_get?`).
-/

namespace Testbed

/-- Sets `name` to `value` in a list ordered by name. -/
def insertEntry (name value : String) : List (String × String) → List (String × String)
  | [] => [(name, value)]
  | entry :: rest =>
    if name < entry.1 then (name, value) :: entry :: rest
    else if entry.1 < name then entry :: insertEntry name value rest
    else (name, value) :: rest

theorem mem_insertEntry {name value : String} {l : List (String × String)} {e : String × String}
    (h : e ∈ insertEntry name value l) : e = (name, value) ∨ e ∈ l := by
  induction l with
  | nil => simp_all [insertEntry]
  | cons entry rest ih =>
    rw [insertEntry] at h
    split at h
    · simp_all
    · split at h
      · rcases List.mem_cons.1 h with h | h
        · simp [h]
        · rcases ih h with h | h <;> simp [h]
      · rcases List.mem_cons.1 h with h | h <;> simp [h]

theorem eq_of_not_lt {a b : String} (h₁ : ¬ a < b) (h₂ : ¬ b < a) : a = b :=
  String.le_antisymm (String.not_lt.1 h₂) (String.not_lt.1 h₁)

theorem pairwise_insertEntry {name value : String} {l : List (String × String)}
    (h : l.Pairwise (·.1 < ·.1)) : (insertEntry name value l).Pairwise (·.1 < ·.1) := by
  induction l with
  | nil => simp [insertEntry]
  | cons entry rest ih =>
    rw [List.pairwise_cons] at h
    rw [insertEntry]
    split
    · rename_i lt
      refine List.pairwise_cons.2 ⟨fun e he => ?_, List.pairwise_cons.2 h⟩
      rcases List.mem_cons.1 he with rfl | he
      · exact lt
      · exact String.lt_trans lt (h.1 e he)
    · rename_i notLt
      split
      · rename_i gt
        refine List.pairwise_cons.2 ⟨fun e he => ?_, ih h.2⟩
        rcases mem_insertEntry he with rfl | he
        · exact gt
        · exact h.1 e he
      · rename_i notGt
        have := eq_of_not_lt notLt notGt
        exact List.pairwise_cons.2 ⟨fun e he => this ▸ h.1 e he, h.2⟩

/-- A finite map from names to values. -/
structure Env where
  /-- The names with their values, in the order of the names. -/
  entries : List (String × String)
  sorted : entries.Pairwise (·.1 < ·.1)
  deriving DecidableEq

namespace Env

def empty : Env := ⟨[], .nil⟩

instance : Inhabited Env := ⟨empty⟩

/-- Sets `name` to `value`. -/
def insert (env : Env) (name value : String) : Env :=
  ⟨insertEntry name value env.entries, pairwise_insertEntry env.sorted⟩

def get? (env : Env) (name : String) : Option String :=
  env.entries.lookup name

/-- Sets each name of the list in turn, so the last value of a name counts. -/
def update (env : Env) (entries : List (String × String)) : Env :=
  entries.foldl (fun env entry => env.insert entry.1 entry.2) env

def ofList (entries : List (String × String)) : Env :=
  empty.update entries

/-- `top` laid upon `env`: values of `top` win. -/
def overlay (env top : Env) : Env :=
  env.update top.entries

instance : Repr Env := ⟨fun env n => reprPrec env.entries n⟩

/-! ## Lookup -/

theorem lookup_insertEntry (name value k : String) (l : List (String × String)) :
    (insertEntry name value l).lookup k = if k = name then some value else l.lookup k := by
  induction l with
  | nil => by_cases h : k = name <;> simp [insertEntry, List.lookup_cons, h, beq_false_of_ne]
  | cons entry rest ih =>
    obtain ⟨name', value'⟩ := entry
    rw [insertEntry]
    split
    · by_cases h : k = name <;> simp [List.lookup_cons, h, beq_false_of_ne]
    · rename_i notLt
      split
      · rename_i gt
        by_cases h : k = name
        · have : k ≠ name' := by
            rintro rfl
            rw [h] at gt
            exact String.lt_irrefl _ gt
          simp [List.lookup_cons, ih, beq_false_of_ne this, if_pos h]
        · simp [List.lookup_cons, ih, h]
      · rename_i notGt
        have e : name = name' := eq_of_not_lt notLt notGt
        by_cases h : k = name <;> simp [List.lookup_cons, h, ← e, beq_false_of_ne]

@[simp] theorem get?_empty (k : String) : empty.get? k = none := rfl

@[simp] theorem get?_insert (env : Env) (name value k : String) :
    (env.insert name value).get? k = if k = name then some value else env.get? k :=
  lookup_insertEntry name value k env.entries

theorem lookup_eq_none_of_lt {k : String} {l : List (String × String)}
    (h : ∀ e ∈ l, k < e.1) : l.lookup k = none := by
  induction l with
  | nil => rfl
  | cons e rest ih =>
    have ne : k ≠ e.1 := by
      intro eq
      exact String.lt_irrefl k (eq ▸ h e List.mem_cons_self)
    rw [List.lookup_cons, beq_false_of_ne ne]
    exact ih fun e he => h e (List.mem_cons_of_mem _ he)

theorem eq_of_lookup {l₁ l₂ : List (String × String)} (h₁ : l₁.Pairwise (·.1 < ·.1))
    (h₂ : l₂.Pairwise (·.1 < ·.1)) (h : ∀ k, l₁.lookup k = l₂.lookup k) : l₁ = l₂ := by
  induction l₁ generalizing l₂ with
  | nil =>
    cases l₂ with
    | nil => rfl
    | cons e _ =>
      have := h e.1
      rw [List.lookup_cons_self] at this
      cases this
  | cons e₁ rest₁ ih =>
    cases l₂ with
    | nil =>
      have := h e₁.1
      rw [List.lookup_cons_self] at this
      cases this
    | cons e₂ rest₂ =>
      obtain ⟨k₁, v₁⟩ := e₁
      obtain ⟨k₂, v₂⟩ := e₂
      obtain ⟨lt₁, sorted₁⟩ := List.pairwise_cons.1 h₁
      obtain ⟨lt₂, sorted₂⟩ := List.pairwise_cons.1 h₂
      have keys : k₁ = k₂ := by
        refine eq_of_not_lt (fun lt => ?_) fun lt => ?_
        · have none := lookup_eq_none_of_lt (l := (k₂, v₂) :: rest₂) (k := k₁) fun e he => by
            rcases List.mem_cons.1 he with rfl | he
            · exact lt
            · exact String.lt_trans lt (lt₂ e he)
          simp [← h] at none
        · have none := lookup_eq_none_of_lt (l := (k₁, v₁) :: rest₁) (k := k₂) fun e he => by
            rcases List.mem_cons.1 he with rfl | he
            · exact lt
            · exact String.lt_trans lt (lt₁ e he)
          simp [h] at none
      subst keys
      have values : v₁ = v₂ := by simpa [List.lookup_cons] using h k₁
      subst values
      congr 1
      refine ih sorted₁ sorted₂ fun k => ?_
      by_cases eq : k = k₁
      · subst eq
        rw [lookup_eq_none_of_lt lt₁, lookup_eq_none_of_lt lt₂]
      · simpa [List.lookup_cons, beq_false_of_ne eq] using h k

/-- Environments with the same values are equal. -/
theorem ext_get? {a b : Env} (h : ∀ k, a.get? k = b.get? k) : a = b := by
  obtain ⟨l₁, h₁⟩ := a
  obtain ⟨l₂, h₂⟩ := b
  cases eq_of_lookup h₁ h₂ h
  rfl

theorem get?_update {env : Env} {entries : List (String × String)}
    (sorted : entries.Pairwise (·.1 < ·.1)) (k : String) :
    (env.update entries).get? k = (entries.lookup k).or (env.get? k) := by
  induction entries generalizing env with
  | nil => rfl
  | cons e rest ih =>
    obtain ⟨lt, sorted⟩ := List.pairwise_cons.1 sorted
    rw [update, List.foldl_cons]
    refine (@ih (env.insert e.1 e.2) sorted).trans ?_
    rw [get?_insert, List.lookup_cons]
    by_cases eq : k = e.1
    · subst eq
      simp [lookup_eq_none_of_lt lt]
    · simp [eq, beq_false_of_ne eq]

@[simp] theorem get?_overlay (env top : Env) (k : String) :
    (env.overlay top).get? k = (top.get? k).or (env.get? k) :=
  get?_update top.sorted k

end Env

end Testbed
