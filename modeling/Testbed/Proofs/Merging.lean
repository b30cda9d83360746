import Testbed.Config.Load

/-!
# What merged files say

A configuration is known by its settings and by the sections that it has. Merging is stated for one
setting at a time: the later file is asked first. Everything else here follows from that, for any
number of files: the last file that says something counts, merging is associative, a file that says
nothing changes nothing, and files may be loaded in two batches.
-/

namespace Testbed.Config

/-! ## Settings

`Field α` are the settings with values in `α` that a section has. -/

inductive EngineSection.Field : Type → Type where
  | binary : Field String
  | retryAttempts : Field Nat
  | retryBackoffMillis : Field Nat

def EngineSection.Field.read {α : Type} : EngineSection.Field α → EngineSection → Option α
  | .binary, s => s.binary
  | .retryAttempts, s => s.retryAttempts
  | .retryBackoffMillis, s => s.retryBackoffMillis

inductive NamesSection.Field : Type → Type where
  | network : Field String
  | cache : Field String
  | database : Field String
  | broker : Field String
  | coordinator : Field String

def NamesSection.Field.read {α : Type} : NamesSection.Field α → NamesSection → Option α
  | .network, s => s.network
  | .cache, s => s.cache
  | .database, s => s.database
  | .broker, s => s.broker
  | .coordinator, s => s.coordinator

inductive NetworkSection.Field : Type → Type where
  | enabled : Field Bool
  | name : Field String

def NetworkSection.Field.read {α : Type} : NetworkSection.Field α → NetworkSection → Option α
  | .enabled, s => s.enabled
  | .name, s => s.name

inductive ServiceSection.Field : Type → Type where
  | enabled : Field Bool
  | name : Field String
  | imageTag : Field String
  | port : Field Int
  | startupTimeoutSecs : Field Nat
  | log : Field Bool
  | user : Field String
  | password : Field String
  | dbIndex : Field Int
  | replicaSet : Field Bool
  /-- One variable of the environment. -/
  | env (key : String) : Field String

def ServiceSection.Field.read {α : Type} : ServiceSection.Field α → ServiceSection → Option α
  | .enabled, s => s.enabled
  | .name, s => s.name
  | .imageTag, s => s.imageTag
  | .port, s => s.port
  | .startupTimeoutSecs, s => s.startupTimeoutSecs
  | .log, s => s.log
  | .user, s => s.user
  | .password, s => s.password
  | .dbIndex, s => s.dbIndex
  | .replicaSet, s => s.replicaSet
  | .env k, s => s.env.get? k

inductive BrokerSection.Field : Type → Type where
  | enabled : Field Bool
  | brokerName : Field String
  | coordinatorName : Field String
  | brokerImageTag : Field String
  | coordinatorImageTag : Field String
  | port : Field Int
  | startupTimeoutSecs : Field Nat
  | log : Field Bool
  | protocolVersion : Field String
  /-- One variable of the environment. -/
  | env (key : String) : Field String

def BrokerSection.Field.read {α : Type} : BrokerSection.Field α → BrokerSection → Option α
  | .enabled, s => s.enabled
  | .brokerName, s => s.brokerName
  | .coordinatorName, s => s.coordinatorName
  | .brokerImageTag, s => s.brokerImageTag
  | .coordinatorImageTag, s => s.coordinatorImageTag
  | .port, s => s.port
  | .startupTimeoutSecs, s => s.startupTimeoutSecs
  | .log, s => s.log
  | .protocolVersion, s => s.protocolVersion
  | .env k, s => s.env.get? k

/-- A setting of a configuration, with its value in `α`. -/
inductive Setting (α : Type) where
  | engine (f : EngineSection.Field α)
  | names (f : NamesSection.Field α)
  | network (f : NetworkSection.Field α)
  | cache (f : ServiceSection.Field α)
  | database (f : ServiceSection.Field α)
  | broker (f : BrokerSection.Field α)

/-- What a configuration says about a setting. A section that is not there says nothing. -/
def Setting.read {α : Type} : Setting α → Config → Option α
  | .engine f, c => f.read c.engine
  | .names f, c => f.read c.names
  | .network f, c => c.network.bind f.read
  | .cache f, c => c.cache.bind f.read
  | .database f, c => c.database.bind f.read
  | .broker f, c => c.broker.bind f.read

/-- The sections that a file may do without. -/
inductive Part where
  | network
  | cache
  | database
  | broker

def Part.isPresent : Part → Config → Bool
  | .network, c => c.network.isSome
  | .cache, c => c.cache.isSome
  | .database, c => c.database.isSome
  | .broker, c => c.broker.isSome

/-! ## A section is known by its settings -/

theorem EngineSection.ext_read {a b : EngineSection}
    (same : ∀ (α : Type) (f : Field α), f.read a = f.read b) : a = b := by
  cases a
  cases b
  congr 1
  · exact same _ .binary
  · exact same _ .retryAttempts
  · exact same _ .retryBackoffMillis

theorem NamesSection.ext_read {a b : NamesSection}
    (same : ∀ (α : Type) (f : Field α), f.read a = f.read b) : a = b := by
  cases a
  cases b
  congr 1
  · exact same _ .network
  · exact same _ .cache
  · exact same _ .database
  · exact same _ .broker
  · exact same _ .coordinator

theorem NetworkSection.ext_read {a b : NetworkSection}
    (same : ∀ (α : Type) (f : Field α), f.read a = f.read b) : a = b := by
  cases a
  cases b
  congr 1
  · exact same _ .enabled
  · exact same _ .name

theorem ServiceSection.ext_read {a b : ServiceSection}
    (same : ∀ (α : Type) (f : Field α), f.read a = f.read b) : a = b := by
  have env : a.env = b.env := Env.ext_get? fun k => same _ (.env k)
  cases a
  cases b
  congr 1
  · exact same _ .enabled
  · exact same _ .name
  · exact same _ .imageTag
  · exact same _ .port
  · exact same _ .startupTimeoutSecs
  · exact same _ .log
  · exact same _ .user
  · exact same _ .password
  · exact same _ .dbIndex
  · exact same _ .replicaSet

theorem BrokerSection.ext_read {a b : BrokerSection}
    (same : ∀ (α : Type) (f : Field α), f.read a = f.read b) : a = b := by
  have env : a.env = b.env := Env.ext_get? fun k => same _ (.env k)
  cases a
  cases b
  congr 1
  · exact same _ .enabled
  · exact same _ .brokerName
  · exact same _ .coordinatorName
  · exact same _ .brokerImageTag
  · exact same _ .coordinatorImageTag
  · exact same _ .port
  · exact same _ .startupTimeoutSecs
  · exact same _ .log
  · exact same _ .protocolVersion

/-- Sections that may be missing are equal when both are there or not, and say the same. -/
theorem section_ext {S : Type} {F : Type → Type} {read : {α : Type} → F α → S → Option α}
    (ext : ∀ {a b : S}, (∀ (α : Type) (f : F α), read f a = read f b) → a = b) {a b : Option S}
    (present : a.isSome = b.isSome)
    (same : ∀ (α : Type) (f : F α), a.bind (read f) = b.bind (read f)) : a = b := by
  cases a <;> cases b
  · rfl
  · cases present
  · cases present
  · exact congrArg some (ext same)

/-- Configurations with the same sections that say the same about every setting are equal. -/
theorem ext_read {a b : Config} (present : ∀ p : Part, p.isPresent a = p.isPresent b)
    (same : ∀ (α : Type) (s : Setting α), s.read a = s.read b) : a = b := by
  have engine : a.engine = b.engine := EngineSection.ext_read fun _ f => same _ (.engine f)
  have names : a.names = b.names := NamesSection.ext_read fun _ f => same _ (.names f)
  have network : a.network = b.network :=
    section_ext NetworkSection.ext_read (present .network) fun _ f => same _ (.network f)
  have cache : a.cache = b.cache :=
    section_ext ServiceSection.ext_read (present .cache) fun _ f => same _ (.cache f)
  have database : a.database = b.database :=
    section_ext ServiceSection.ext_read (present .database) fun _ f => same _ (.database f)
  have broker : a.broker = b.broker :=
    section_ext BrokerSection.ext_read (present .broker) fun _ f => same _ (.broker f)
  cases a
  cases b
  congr

/-! ## Merging asks the later file first -/

section

variable {α : Type}

@[simp] theorem EngineSection.read_merge (f : Field α) (base later : EngineSection) :
    f.read (base.merge later) = (f.read later).or (f.read base) := by
  cases f <;> rfl

@[simp] theorem NamesSection.read_merge (f : Field α) (base later : NamesSection) :
    f.read (base.merge later) = (f.read later).or (f.read base) := by
  cases f <;> rfl

@[simp] theorem NetworkSection.read_merge (f : Field α) (base later : NetworkSection) :
    f.read (base.merge later) = (f.read later).or (f.read base) := by
  cases f <;> rfl

@[simp] theorem ServiceSection.read_merge (f : Field α) (base later : ServiceSection) :
    f.read (base.merge later) = (f.read later).or (f.read base) := by
  cases f with
  | env k => exact Env.get?_overlay base.env later.env k
  | _ => rfl

@[simp] theorem BrokerSection.read_merge (f : Field α) (base later : BrokerSection) :
    f.read (base.merge later) = (f.read later).or (f.read base) := by
  cases f with
  | env k => exact Env.get?_overlay base.env later.env k
  | _ => rfl

theorem bind_mergeSection {S : Type} {merge : S → S → S} {read : S → Option α}
    (law : ∀ base later, read (merge base later) = (read later).or (read base))
    (base later : Option S) :
    (mergeSection merge base later).bind read = (later.bind read).or (base.bind read) := by
  cases base <;> cases later <;> simp [mergeSection, law]

theorem isSome_mergeSection {S : Type} (merge : S → S → S) (base later : Option S) :
    (mergeSection merge base later).isSome = (base.isSome || later.isSome) := by
  cases base <;> cases later <;> rfl

theorem Setting.read_merge (s : Setting α) (base later : Config) :
    s.read (base.merge later) = (s.read later).or (s.read base) := by
  cases s with
  | engine f => exact EngineSection.read_merge f base.engine later.engine
  | names f => exact NamesSection.read_merge f base.names later.names
  | network f => exact bind_mergeSection (NetworkSection.read_merge f) base.network later.network
  | cache f => exact bind_mergeSection (ServiceSection.read_merge f) base.cache later.cache
  | database f => exact bind_mergeSection (ServiceSection.read_merge f) base.database later.database
  | broker f => exact bind_mergeSection (BrokerSection.read_merge f) base.broker later.broker

theorem Setting.read_default (s : Setting α) : s.read {} = none := by
  cases s with
  | engine f | names f => cases f <;> rfl
  | network f | cache f | database f | broker f => rfl

end

theorem Part.isPresent_merge (p : Part) (base later : Config) :
    p.isPresent (base.merge later) = (p.isPresent base || p.isPresent later) := by
  cases p <;> exact isSome_mergeSection _ _ _

theorem Part.isPresent_default (p : Part) : p.isPresent {} = false := by
  cases p <;> rfl

/-! ## Merging is a monoid -/

theorem merge_assoc (a b c : Config) : (a.merge b).merge c = a.merge (b.merge c) := by
  refine ext_read (fun p => ?_) fun α s => ?_
  · simp only [Part.isPresent_merge, Bool.or_assoc]
  · simp only [Setting.read_merge, Option.or_assoc]

theorem default_merge (c : Config) : Config.merge {} c = c := by
  refine ext_read (fun p => ?_) fun α s => ?_
  · rw [Part.isPresent_merge, Part.isPresent_default, Bool.false_or]
  · rw [Setting.read_merge, Setting.read_default, Option.or_none]

theorem merge_default (c : Config) : c.merge {} = c := by
  refine ext_read (fun p => ?_) fun α s => ?_
  · rw [Part.isPresent_merge, Part.isPresent_default, Bool.or_false]
  · rw [Setting.read_merge, Setting.read_default, Option.none_or]

/-- Merging onto `base` is merging onto nothing first. -/
theorem foldl_merge (base : Config) (configs : List Config) :
    configs.foldl merge base = base.merge (mergeAll configs) := by
  induction configs generalizing base with
  | nil => exact (merge_default base).symm
  | cons c rest ih =>
    rw [mergeAll, List.foldl_cons, List.foldl_cons, ih, ih, default_merge, merge_assoc]

theorem mergeAll_cons (c : Config) (configs : List Config) :
    mergeAll (c :: configs) = c.merge (mergeAll configs) := by
  rw [mergeAll, List.foldl_cons, default_merge, foldl_merge]

theorem mergeAll_append (before after : List Config) :
    mergeAll (before ++ after) = (mergeAll before).merge (mergeAll after) := by
  rw [mergeAll, List.foldl_append, foldl_merge]
  rfl

theorem Setting.read_mergeAll {α : Type} (s : Setting α) (configs : List Config) :
    s.read (mergeAll configs) = configs.reverse.findSome? s.read := by
  induction configs with
  | nil => exact s.read_default
  | cons c rest ih =>
    rw [mergeAll_cons, s.read_merge, ih, List.reverse_cons, List.findSome?_append]
    simp

theorem Part.isPresent_mergeAll (p : Part) (configs : List Config) :
    p.isPresent (mergeAll configs) = configs.any p.isPresent := by
  induction configs with
  | nil => exact p.isPresent_default
  | cons c rest ih => rw [mergeAll_cons, p.isPresent_merge, ih, List.any_cons]

/-! ## Loading in two batches -/

namespace Reader

variable {reader : Reader} {disk : String → FileContent}

/-- Loads files onto `base`, as a program that may fail. -/
def loadingOnto (reader : Reader) (base : Config) (paths : List String) :
    ExceptT LoadError (Prog Files) Config :=
  ExceptT.mk (reader.loadOnto base paths)

/-- Loads files, as a program that may fail. -/
def loading (reader : Reader) (paths : List String) : ExceptT LoadError (Prog Files) Config :=
  ExceptT.mk (reader.load paths)

/-- Loads one file. -/
def loadingFile (reader : Reader) (path : String) : ExceptT LoadError (Prog Files) Config :=
  ExceptT.mk (.ask (reader.expand path) fun content =>
    .done (reader.ofContent (reader.expand path) content))

theorem loadingOnto_cons (base : Config) (path : String) (paths : List String) :
    reader.loadingOnto base (path :: paths) =
      reader.loadingFile path >>= fun c => reader.loadingOnto (base.merge c) paths := by
  rw [loadingOnto, loadOnto]
  refine congrArg (Prog.ask _) (funext fun content => ?_)
  rw [Prog.bind]
  change _ = ExceptT.bindCont _ (reader.ofContent (reader.expand path) content)
  cases reader.ofContent (reader.expand path) content <;> rfl

/-- Every file is loaded, and what they say is merged. -/
theorem loadingOnto_eq (base : Config) (paths : List String) :
    reader.loadingOnto base paths =
      (do let configs ← paths.mapM reader.loadingFile; return base.merge (mergeAll configs)) := by
  induction paths generalizing base with
  | nil =>
    rw [List.mapM_nil, pure_bind, mergeAll, List.foldl_nil, merge_default]
    rfl
  | cons path rest ih =>
    simp only [loadingOnto_cons, ih, List.mapM_cons, bind_assoc, pure_bind, mergeAll_cons,
      merge_assoc]

theorem loading_eq (paths : List String) :
    reader.loading paths = mergeAll <$> paths.mapM reader.loadingFile := by
  refine (loadingOnto_eq {} paths).trans ?_
  simp only [default_merge, map_eq_pure_bind]

/-- A second batch is loaded after the first, whatever becomes of the files in between. -/
theorem loading_append (p q : List String) :
    reader.loading (p ++ q) =
      (do let a ← reader.loading p; let b ← reader.loading q; return a.merge b) := by
  simp only [loading_eq, List.mapM_append, map_eq_pure_bind, bind_assoc, pure_bind,
    mergeAll_append]

/-! Files that stay as they are while they are read: `disk` tells what is at each path. -/

/-- What the file at `path` says. -/
def ofFile (reader : Reader) (disk : String → FileContent) (path : String) :
    Except LoadError Config :=
  reader.ofContent (reader.expand path) (disk (reader.expand path))

/-- What loading comes to. -/
def loadFrom (reader : Reader) (disk : String → FileContent) (paths : List String) :
    Option (Except LoadError Config) :=
  (reader.load paths).run fun path => (pure (disk path) : Id FileContent)

theorem run_loadOnto (base : Config) (paths : List String) :
    (reader.loadOnto base paths).run (fun path => (pure (disk path) : Id FileContent)) =
      (pure (some ((fun configs => base.merge (mergeAll configs)) <$>
        paths.mapM (reader.ofFile disk))) : Id (Option (Except LoadError Config))) := by
  induction paths generalizing base with
  | nil =>
    rw [List.mapM_nil, map_pure, mergeAll, List.foldl_nil, merge_default]
    rfl
  | cons path rest ih =>
    rw [loadOnto, List.mapM_cons, ofFile]
    change Prog.run _ (Prog.bind (.done (disk (reader.expand path))) _) = _
    dsimp only [Prog.bind]
    cases reader.ofContent (reader.expand path) (disk (reader.expand path)) with
    | error e => rfl
    | ok c =>
      refine (ih (base.merge c)).trans ?_
      cases rest.mapM (reader.ofFile disk) with
      | error e => rfl
      | ok configs =>
        change some (Except.ok ((base.merge c).merge (mergeAll configs))) =
          some (Except.ok (base.merge (mergeAll (c :: configs))))
        rw [mergeAll_cons, merge_assoc]

theorem loadFrom_eq (paths : List String) :
    reader.loadFrom disk paths = some (mergeAll <$> paths.mapM (reader.ofFile disk)) := by
  refine (run_loadOnto {} paths).trans ?_
  simp only [default_merge]
  rfl

end Reader

/-- Either all of a list can be used, or there is a first of it that cannot. -/
theorem mapM_ok_or_first_error {α β ε : Type} (f : α → Except ε β) (l : List α) :
    (∃ bs, l.mapM f = .ok bs) ∨
      ∃ before a after e, l = before ++ a :: after ∧ (∀ b ∈ before, ∃ c, f b = .ok c) ∧
        f a = .error e ∧ l.mapM f = .error e := by
  induction l with
  | nil => exact .inl ⟨[], rfl⟩
  | cons a rest ih =>
    rw [List.mapM_cons]
    cases first : f a with
    | error e => exact .inr ⟨[], a, rest, e, rfl, by simp, first, rfl⟩
    | ok b =>
      obtain ⟨bs, all⟩ | ⟨before, a', after, e, rfl, good, bad, failed⟩ := ih
      · exact .inl ⟨b :: bs, by rw [all]; rfl⟩
      · refine .inr ⟨a :: before, a', after, e, rfl, ?_, bad, by rw [failed]; rfl⟩
        exact List.forall_mem_cons.2 ⟨⟨b, first⟩, good⟩

/-- Two batches of files that can all be used come to what either comes to, merged. -/
theorem Reader.loadFrom_append {reader : Reader} {disk : String → FileContent} {p q : List String}
    {configs : List Config} (all : (p ++ q).mapM (reader.ofFile disk) = .ok configs) :
    ∃ a b, reader.loadFrom disk p = some (.ok a) ∧ reader.loadFrom disk q = some (.ok b) ∧
      reader.loadFrom disk (p ++ q) = some (.ok (a.merge b)) := by
  rw [List.mapM_append] at all
  simp only [loadFrom_eq, List.mapM_append]
  cases first : p.mapM (reader.ofFile disk) with
  | error e => rw [first] at all; cases all
  | ok before =>
    cases second : q.mapM (reader.ofFile disk) with
    | error e => rw [first, second] at all; cases all
    | ok after =>
      refine ⟨mergeAll before, mergeAll after, rfl, rfl, ?_⟩
      rw [← mergeAll_append]
      rfl

/-- **The last file that says something counts.** What many files say about a setting is what the
last of them that says something about it says, and they have a section when one of them has it.
Merging is associative and a file that says nothing changes nothing, on either side. So files may be
loaded in two batches, however they are read, and as TOML files are: both are loaded and merged, or
else the error is that of the first file of all that cannot be used. -/
theorem merging_is_last_writer_wins :
    (∀ (configs : List Config) (α : Type) (s : Setting α),
      s.read (mergeAll configs) = configs.reverse.findSome? s.read) ∧
    (∀ (configs : List Config) (p : Part),
      p.isPresent (mergeAll configs) ↔ ∃ c ∈ configs, p.isPresent c) ∧
    (∀ a b c : Config, (a.merge b).merge c = a.merge (b.merge c)) ∧
    (∀ c : Config, Config.merge {} c = c ∧ c.merge {} = c) ∧
    (∀ (reader : Reader) (p q : List String),
      reader.loading (p ++ q) =
        (do let a ← reader.loading p; let b ← reader.loading q; return a.merge b)) ∧
    (∀ (reader : Reader) (disk : String → FileContent) (p q : List String),
      (∃ a b, reader.loadFrom disk p = some (.ok a) ∧ reader.loadFrom disk q = some (.ok b) ∧
        reader.loadFrom disk (p ++ q) = some (.ok (a.merge b))) ∨
      ∃ before path after e, p ++ q = before ++ path :: after ∧
        (∀ earlier ∈ before, ∃ c, reader.ofFile disk earlier = .ok c) ∧
        reader.ofFile disk path = .error e ∧
        reader.loadFrom disk (p ++ q) = some (.error e)) ∧
    ∀ home : String, load home = (Reader.toml home).load := by
  refine ⟨fun configs α s => s.read_mergeAll configs, fun configs p => ?_, merge_assoc,
    fun c => ⟨default_merge c, merge_default c⟩, fun _ => Reader.loading_append,
    fun reader disk p q => ?_, fun _ => rfl⟩
  · rw [p.isPresent_mergeAll, List.any_eq_true]
  · obtain ⟨configs, all⟩ | ⟨before, path, after, e, parts, good, bad, failed⟩ :=
      mapM_ok_or_first_error (reader.ofFile disk) (p ++ q)
    · exact .inl (Reader.loadFrom_append all)
    · refine .inr ⟨before, path, after, e, parts, good, bad, ?_⟩
      rw [Reader.loadFrom_eq, failed]
      rfl

end Testbed.Config
