import Mathlib.Data.List.Induction
import Testbed.Engine
import Testbed.Options.Broker

/-!
# What settings are built into

Each setting of a draft is for one field. What is built holds for each field what the settings of
that field amount to, whatever stands between them: the last one, or, for the environment and the
networks, the last whole one with the later additions.
-/

namespace Testbed

/-! ## The fields of settings -/

/-- What a setting is for. -/
inductive ServiceField where
  | imageTag
  | name
  | port
  | startupTimeout
  | env
  | networks
  | autoRemove
  | log
  | replicaSet
  | credentials
  | dbIndex
  deriving DecidableEq, Repr

namespace ServiceSetting

def field : ServiceSetting → ServiceField
  | .imageTag _ => .imageTag
  | .name _ => .name
  | .port _ | .dynamicPort => .port
  | .startupTimeout _ => .startupTimeout
  | .env _ | .envVar _ _ => .env
  | .networks _ | .network _ => .networks
  | .autoRemove _ => .autoRemove
  | .log _ => .log
  | .replicaSet _ => .replicaSet
  | .credentials _ _ | .password _ => .credentials
  | .dbIndex _ => .dbIndex

def imageTag? : ServiceSetting → Option String
  | .imageTag tag => some tag
  | _ => none

def name? : ServiceSetting → Option String
  | .name given => some given
  | _ => none

/-- The port asked for, which is none at all when the engine is to pick it. -/
def port? : ServiceSetting → Option (Option Int)
  | .port n => some (some n)
  | .dynamicPort => some none
  | _ => none

def startupTimeout? : ServiceSetting → Option Duration
  | .startupTimeout timeout => some timeout
  | _ => none

def env? : ServiceSetting → Option Env
  | .env whole => some whole
  | _ => none

def envVar? : ServiceSetting → Option (String × String)
  | .envVar key value => some (key, value)
  | _ => none

def networks? : ServiceSetting → Option (List String)
  | .networks names => some names
  | _ => none

def network? : ServiceSetting → Option String
  | .network added => some added
  | _ => none

def autoRemove? : ServiceSetting → Option Bool
  | .autoRemove enabled => some enabled
  | _ => none

def log? : ServiceSetting → Option Bool
  | .log enabled => some enabled
  | _ => none

def replicaSet? : ServiceSetting → Option Bool
  | .replicaSet enabled => some enabled
  | _ => none

def credentials? : ServiceSetting → Option Credentials
  | .credentials user secret => some ⟨some user, secret⟩
  | .password secret => some ⟨none, secret⟩
  | _ => none

def dbIndex? : ServiceSetting → Option Int
  | .dbIndex index => some index
  | _ => none

variable {α β : Type}

/-- What the last of the settings that `get` takes sets. -/
def last (get : ServiceSetting → Option α) (settings : List ServiceSetting) : Option α :=
  (settings.filterMap get).getLast?

theorem last_concat (get : ServiceSetting → Option α) (settings : List ServiceSetting)
    (s : ServiceSetting) : last get (settings ++ [s]) = (get s).or (last get settings) := by
  rw [last, List.filterMap_append, List.getLast?_append, last]
  cases h : get s <;> simp [h]

/-- The last whole value among settings, or else the first one, with the later additions. -/
inductive Accumulates (replace : ServiceSetting → Option α) (add : ServiceSetting → Option β)
    (extend : α → List β → α) (first : α) : List ServiceSetting → α → Prop
  | replaced {before later : List ServiceSetting} {s : ServiceSetting} {whole : α}
      (sets : replace s = some whole) (last : ∀ s' ∈ later, replace s' = none) :
      Accumulates replace add extend first (before ++ s :: later)
        (extend whole (later.filterMap add))
  | extended {settings : List ServiceSetting} (none : ∀ s ∈ settings, replace s = none) :
      Accumulates replace add extend first settings (extend first (settings.filterMap add))

end ServiceSetting

open ServiceSetting

/-! ## Normal forms -/

/-- What has been set is kept if it is acceptable; otherwise the default stands for it. -/
inductive Settles {α : Type} (acceptable : α → Prop) (default : α) : Option α → α → Prop
  | kept {a : α} (good : acceptable a) : Settles acceptable default (some a) a
  | replaced {a : α} (bad : ¬ acceptable a) : Settles acceptable default (some a) default
  | unset : Settles acceptable default none default

theorem settles_filter {α : Type} {acceptable : α → Prop} {test : α → Bool}
    (tests : ∀ a, test a = true ↔ acceptable a) (default : α) (last : Option α) :
    Settles acceptable default last ((last.filter test).getD default) := by
  cases last with
  | none => exact .unset
  | some a =>
    by_cases h : acceptable a
    · rw [Option.filter_some, if_pos ((tests a).2 h)]
      exact .kept h
    · rw [Option.filter_some, if_neg fun pass => h ((tests a).1 pass)]
      exact .replaced h

/-- A host port as the number it is asked for by. -/
def portNumber (port : Option Port) : Option Int :=
  port.map fun p => (p.toNat : Int)

/-- The options are what settings for a family amount to. A generated name ends with `suffix`. -/
structure NormalForm (family : Family) (settings : List ServiceSetting) (suffix : String)
    (o : ServiceOptions) : Prop where
  ofFamily : o.family = family
  imageTag : Settles (Text.isBlank · = false) family.defaultTag (last imageTag? settings) o.imageTag
  name : Settles (Text.isBlank · = false) (family.nameStem o.replicaSet ++ "-" ++ suffix)
    (last name? settings) o.name
  port : Settles (fun port => ∀ n ∈ port, 1 ≤ n ∧ n ≤ 65535) (portNumber family.defaultHostPort)
    (last port? settings) (portNumber o.port)
  env : Accumulates env? envVar? Env.update .empty settings o.env
  startupTimeout : Settles (· ≠ .zero) family.defaultTimeout (last startupTimeout? settings)
    o.startupTimeout
  networks : Accumulates networks? network? (· ++ ·) [] settings o.networks
  autoRemove : o.autoRemove = (last autoRemove? settings).getD true
  log : o.log = (last log? settings).getD false
  replicaSet : o.replicaSet = (last replicaSet? settings).getD false
  credentials : ∀ c, o.credentials = some c ↔
    last credentials? settings = some c ∧ c.password ≠ ""
  dbIndex : Settles (0 ≤ ·) 1 (last dbIndex? settings) o.dbIndex

namespace ServiceDraft

variable {A : Interface} {α β : Type} {d d' : ServiceDraft} {f : ServiceField}
  {settings settings' : List ServiceSetting}

theorem setAll_concat (d : ServiceDraft) (settings : List ServiceSetting) (s : ServiceSetting) :
    d.setAll (settings ++ [s]) = (d.setAll settings).set s := by
  simp [setAll]

/-- Where each setting puts its own value or leaves what is there, the last one counts. -/
theorem setAll_last (view : ServiceDraft → Option α) (get : ServiceSetting → Option α)
    (step : ∀ d s, view (set d s) = (get s).or (view d)) (d : ServiceDraft)
    (settings : List ServiceSetting) :
    view (d.setAll settings) = (last get settings).or (view d) := by
  -- From the end: what the last setting does not decide, the settings before it do.
  induction settings using List.reverseRecOn with
  | nil => rfl
  | append_singleton settings s ih =>
    rw [setAll_concat, step, ih, last_concat, Option.or_assoc]

theorem setAll_lastD (view : ServiceDraft → α) (get : ServiceSetting → Option α)
    (step : ∀ d s, view (set d s) = (get s).getD (view d)) (d : ServiceDraft)
    (settings : List ServiceSetting) :
    view (d.setAll settings) = (last get settings).getD (view d) := by
  have some := setAll_last (fun d => some (view d)) get
    (fun d s => by rw [step, Option.or_some]) d settings
  rwa [Option.or_some, Option.some_inj] at some

theorem setAll_accumulates (view : ServiceDraft → α) (replace : ServiceSetting → Option α)
    (add : ServiceSetting → Option β) {extend : α → List β → α}
    (extend_nil : ∀ a, extend a [] = a)
    (extend_append : ∀ a xs ys, extend a (xs ++ ys) = extend (extend a xs) ys)
    (step : ∀ d s, view (set d s) = (replace s).getD (extend (view d) (add s).toList))
    (d : ServiceDraft) (settings : List ServiceSetting) :
    Accumulates replace add extend (view d) settings (view (d.setAll settings)) := by
  induction settings using List.reverseRecOn with
  | nil =>
    have first : Accumulates replace add extend (view d) [] (extend (view d) ([].filterMap add)) :=
      .extended (List.forall_mem_nil _)
    rwa [List.filterMap_nil, extend_nil] at first
  | append_singleton settings s ih =>
    rw [setAll_concat, step]
    cases whole : replace s with
    | some a =>
      have only : Accumulates replace add extend (view d) (settings ++ [s])
          (extend a ([].filterMap add)) :=
        .replaced whole (List.forall_mem_nil _)
      rwa [List.filterMap_nil, extend_nil] at only
    | none =>
      -- An addition joins the later ones.
      have added (l : List ServiceSetting) (a : α) :
          extend (extend a (l.filterMap add)) (add s).toList
            = extend a ((l ++ [s]).filterMap add) := by
        rw [← extend_append, List.filterMap_append]
        cases h : add s <;> simp [h]
      rw [Option.getD_none]
      have still {l : List ServiceSetting} (h : ∀ s' ∈ l, replace s' = none) :
          ∀ s' ∈ l ++ [s], replace s' = none := by
        simpa only [List.forall_mem_append, List.forall_mem_singleton, whole, and_true] using h
      generalize view (d.setAll settings) = value at ih
      cases ih with
      | replaced sets last =>
        rw [added, List.append_assoc, List.cons_append]
        exact .replaced sets (still last)
      | extended none =>
        rw [added]
        exact .extended (still none)

theorem family_setAll (d : ServiceDraft) (settings : List ServiceSetting) :
    (d.setAll settings).family = d.family := by
  induction settings generalizing d with
  | nil => rfl
  | cons s settings ih =>
    have step : (d.set s).family = d.family := by cases s <;> rfl
    exact (ih (d.set s)).trans step

/-! ## Building -/

/-- Which port settings ask for: none when they leave it to the family, and no number when they
leave it to the engine. -/
def asked : HostPort → Option (Option Int)
  | .familyDefault => none
  | .requested port => some (some port)
  | .dynamic => some none

theorem hostPort_settles (d : ServiceDraft) :
    Settles (fun port => ∀ n ∈ port, 1 ≤ n ∧ n ≤ 65535) (portNumber d.family.defaultHostPort)
      (asked d.port) (portNumber d.hostPort) := by
  cases h : d.port with
  | familyDefault =>
    rw [hostPort, h]
    exact .unset
  | dynamic =>
    rw [hostPort, h]
    exact .kept (by simp)
  | requested port =>
    rw [hostPort, h]
    by_cases inRange : 1 ≤ port ∧ port ≤ 65535
    · have number : portNumber (portNumber? port <|> d.family.defaultHostPort) = some port := by
        rw [portNumber?, if_pos inRange]
        simp [portNumber]
        omega
      simp only [number]
      exact .kept (by simpa using inRange)
    · have number : (portNumber? port <|> d.family.defaultHostPort)
          = d.family.defaultHostPort := by
        rw [portNumber?, if_neg inRange]
        rfl
      simp only [number]
      exact .replaced (by simpa using inRange)

/-- The draft holds what settings of each field amount to, acceptable or not. -/
structure Gathers (settings : List ServiceSetting) (d : ServiceDraft) : Prop where
  imageTag : d.imageTag = last imageTag? settings
  name : d.name = last name? settings
  port : asked d.port = last port? settings
  env : Accumulates env? envVar? Env.update .empty settings d.env
  startupTimeout : d.startupTimeout = last startupTimeout? settings
  networks : Accumulates networks? network? (· ++ ·) [] settings d.networks
  autoRemove : d.autoRemove = (last autoRemove? settings).getD true
  log : d.log = (last log? settings).getD false
  replicaSet : d.replicaSet = (last replicaSet? settings).getD false
  credentials : d.credentials = last credentials? settings
  dbIndex : d.dbIndex = (last dbIndex? settings).getD 1

theorem gathers_setAll (family : Family) (settings : List ServiceSetting) :
    Gathers settings (({ family } : ServiceDraft).setAll settings) := by
  let first : ServiceDraft := { family }
  -- Where nothing has been set yet, a field holds what its last setting puts there.
  have lastOf {α : Type} (view : ServiceDraft → Option α) (get : ServiceSetting → Option α)
      (step : ∀ d s, view (set d s) = (get s).or (view d)) (unset : view first = none) :
      view (first.setAll settings) = last get settings := by
    rw [setAll_last view get step, unset, Option.or_none]
  exact {
    imageTag := lastOf imageTag imageTag? (fun d s => by cases s <;> rfl) rfl
    name := lastOf name name? (fun d s => by cases s <;> rfl) rfl
    port := lastOf (fun d => asked d.port) port? (fun d s => by cases s <;> rfl) rfl
    env := setAll_accumulates env env? envVar? (fun _ => rfl) (fun _ _ _ => List.foldl_append)
      (fun d s => by cases s <;> rfl) first settings
    startupTimeout := lastOf startupTimeout startupTimeout? (fun d s => by cases s <;> rfl) rfl
    networks := setAll_accumulates networks networks? network? List.append_nil
      (fun _ _ _ => (List.append_assoc _ _ _).symm)
      (fun d s => by cases s <;> simp [set, networks?, network?]) first settings
    autoRemove := setAll_lastD autoRemove autoRemove? (fun d s => by cases s <;> rfl) first settings
    log := setAll_lastD log log? (fun d s => by cases s <;> rfl) first settings
    replicaSet := setAll_lastD replicaSet replicaSet? (fun d s => by cases s <;> rfl) first settings
    credentials := lastOf credentials credentials? (fun d s => by cases s <;> rfl) rfl
    dbIndex := setAll_lastD dbIndex dbIndex? (fun d s => by cases s <;> rfl) first settings }

theorem Gathers.normalForm (h : Gathers settings d) (suffix : String) :
    NormalForm d.family settings suffix (d.resolve suffix) where
  ofFamily := rfl
  imageTag := h.imageTag ▸ settles_filter (by simp) _ _
  name := h.name ▸ settles_filter (by simp) _ _
  port := h.port ▸ hostPort_settles d
  env := h.env
  startupTimeout := h.startupTimeout ▸ settles_filter (by simp) _ _
  networks := h.networks
  autoRemove := h.autoRemove
  log := h.log
  replicaSet := h.replicaSet
  credentials c := by
    rw [← h.credentials]
    simp [resolve, named]
  dbIndex := by
    have index : (d.resolve suffix).dbIndex = if d.dbIndex < 0 then 1 else d.dbIndex := rfl
    rw [index, h.dbIndex]
    cases last dbIndex? settings with
    | none => exact .unset
    | some i =>
      by_cases negative : i < 0
      · rw [Option.getD_some, if_pos negative]
        exact .replaced (Int.not_le.2 negative)
      · rw [Option.getD_some, if_neg negative]
        exact .kept (Int.not_lt.1 negative)

theorem build_named {name : String} (h : d.configuredName = some name) (suffix : String) :
    d.build (A := A) = pure (d.resolve suffix) := by
  rw [build, resolve, h]
  rfl

theorem build_nameless (h : d.configuredName = none) :
    d.build (A := A) = System.suffix >>= fun suffix => pure (d.resolve suffix) := by
  rw [build, h]
  simp only [resolve, h, Option.getD_none]

/-- What is built is the draft under some name. -/
theorem yields_build {t : List (Prog.Event A.onSystem)} {o : ServiceOptions}
    (h : Prog.Yields d.build t o) : o = d.named o.name := by
  cases name : d.configuredName with
  | some name' =>
    rw [build_named name ""] at h
    cases h
    rfl
  | none =>
    rw [build_nameless name] at h
    obtain ⟨_, _, suffix, -, -, built⟩ := Prog.yields_bind.1 h
    cases built
    rfl

theorem exists_yields_build (d : ServiceDraft) :
    ∃ (t : List (Prog.Event A.onSystem)) (o : ServiceOptions), Prog.Yields d.build t o := by
  cases name : d.configuredName with
  | some name' =>
    rw [build_named name ""]
    exact ⟨_, _, .done _⟩
  | none =>
    rw [build_nameless name]
    exact ⟨_, _, .ask "" (.done _)⟩

/-! ## Settings of different fields -/

/-- The drafts hold the same in one field. -/
def Agree (d d' : ServiceDraft) : ServiceField → Prop
  | .imageTag => d.imageTag = d'.imageTag
  | .name => d.name = d'.name
  | .port => d.port = d'.port
  | .startupTimeout => d.startupTimeout = d'.startupTimeout
  | .env => d.env = d'.env
  | .networks => d.networks = d'.networks
  | .autoRemove => d.autoRemove = d'.autoRemove
  | .log => d.log = d'.log
  | .replicaSet => d.replicaSet = d'.replicaSet
  | .credentials => d.credentials = d'.credentials
  | .dbIndex => d.dbIndex = d'.dbIndex

theorem Agree.refl (d : ServiceDraft) (f : ServiceField) : Agree d d f := by
  cases f <;> rfl

theorem Agree.trans {d'' : ServiceDraft} (h : Agree d d' f) (h' : Agree d' d'' f) :
    Agree d d'' f := by
  cases f <;> exact Eq.trans h h'

theorem Agree.symm (h : Agree d d' f) : Agree d' d f := by
  cases f <;> exact Eq.symm h

/-- A setting leaves every other field as it is. -/
theorem agree_set_left {s : ServiceSetting} (h : s.field ≠ f) : Agree (d.set s) d f := by
  cases s <;> cases f <;> first | rfl | exact absurd rfl h

/-- What a setting makes of its own field depends on nothing else. -/
theorem Agree.set (h : Agree d d' f) (s : ServiceSetting) : Agree (d.set s) (d'.set s) f := by
  by_cases own : s.field = f
  · subst own
    -- Only an addition looks at what the field holds.
    cases s with
    | envVar name value => exact congrArg (·.insert name value) h
    | network name => exact congrArg (· ++ [name]) h
    | _ => rfl
  · exact (agree_set_left own).trans (h.trans (agree_set_left own).symm)

/-- The settings of a field alone make what all settings make of it. -/
theorem Agree.setAll (h : Agree d d' f) (settings : List ServiceSetting) :
    Agree (d.setAll settings) (d'.setAll (settings.filter (·.field = f))) f := by
  induction settings generalizing d d' with
  | nil => exact h
  | cons s settings ih =>
    by_cases own : s.field = f
    · rw [List.filter_cons_of_pos (by simpa using own)]
      exact ih (h.set s)
    · rw [List.filter_cons_of_neg (by simpa using own)]
      exact ih ((agree_set_left own).trans h)

theorem Agree.setAll_of_filter (h : Agree d d' f)
    (same : settings.filter (·.field = f) = settings'.filter (·.field = f)) :
    Agree (d.setAll settings) (d'.setAll settings') f := by
  have alone := (Agree.refl d' f).setAll settings'
  rw [← same] at alone
  exact (h.setAll settings).trans alone.symm

theorem eq_of_agree (family : d.family = d'.family) (h : ∀ f, Agree d d' f) : d = d' := by
  obtain ⟨⟩ := d
  obtain ⟨⟩ := d'
  rw [ServiceDraft.mk.injEq]
  exact ⟨family, h .imageTag, h .name, h .port, h .env, h .startupTimeout, h .networks,
    h .autoRemove, h .log, h .replicaSet, h .credentials, h .dbIndex⟩

/-- Settings of different fields may change places. -/
theorem setAll_eq_of_filter
    (same : ∀ f, settings.filter (·.field = f) = settings'.filter (·.field = f)) :
    d.setAll settings = d.setAll settings' :=
  eq_of_agree (by rw [family_setAll, family_setAll]) fun f =>
    (Agree.refl d f).setAll_of_filter (same f)

end ServiceDraft

/-! ## Settings of a broker -/

namespace BrokerSetting

/-- What a setting does to the draft of the broker. -/
def forBroker : BrokerSetting → Option ServiceSetting
  | .brokerName given => some (.name given)
  | .brokerImageTag tag => some (.imageTag tag)
  | .port n => some (.port n)
  | .brokerEnvVar key value => some (.envVar key value)
  | .networks names => some (.networks names)
  | .startupTimeout timeout => some (.startupTimeout timeout)
  | .autoRemove enabled => some (.autoRemove enabled)
  | .log enabled => some (.log enabled)
  | _ => none

/-- What a setting does to the draft of the coordinator. -/
def forCoordinator : BrokerSetting → Option ServiceSetting
  | .coordinatorName given => some (.name given)
  | .coordinatorImageTag tag => some (.imageTag tag)
  | .networks names => some (.networks names)
  | .startupTimeout timeout => some (.startupTimeout timeout)
  | .autoRemove enabled => some (.autoRemove enabled)
  | .log enabled => some (.log enabled)
  | _ => none

end BrokerSetting

/-- The fields that a broker and its coordinator have in common. -/
def ServiceField.IsShared (f : ServiceField) : Prop :=
  f = networks ∨ f = startupTimeout ∨ f = autoRemove ∨ f = log

namespace BrokerDraft

variable {A : Interface} {d : BrokerDraft}

theorem view_setAll (view : BrokerDraft → ServiceDraft)
    (get : BrokerSetting → Option ServiceSetting)
    (step : ∀ d s, view (set d s) = (view d).setAll (get s).toList) (d : BrokerDraft)
    (settings : List BrokerSetting) :
    view (d.setAll settings) = (view d).setAll (settings.filterMap get) := by
  induction settings generalizing d with
  | nil => rfl
  | cons s settings ih =>
    have rest : view ((d.set s).setAll settings) = _ := ih (d.set s)
    rw [step] at rest
    cases h : get s with
    | none =>
      rw [List.filterMap_cons_none h]
      rwa [h] at rest
    | some s' =>
      rw [List.filterMap_cons_some h]
      rwa [h] at rest

theorem broker_setAll (d : BrokerDraft) (settings : List BrokerSetting) :
    (d.setAll settings).broker = d.broker.setAll (settings.filterMap (·.forBroker)) :=
  view_setAll broker _ (fun d s => by cases s <;> rfl) d settings

theorem coordinator_setAll (d : BrokerDraft) (settings : List BrokerSetting) :
    (d.setAll settings).coordinator
      = d.coordinator.setAll (settings.filterMap (·.forCoordinator)) :=
  view_setAll coordinator _ (fun d s => by cases s <;> rfl) d settings

/-- Both drafts get the same settings of a field that they share. -/
theorem filter_forBroker {f : ServiceField} (shared : f.IsShared) (settings : List BrokerSetting) :
    (settings.filterMap (·.forBroker)).filter (·.field = f)
      = (settings.filterMap (·.forCoordinator)).filter (·.field = f) := by
  rw [List.filter_filterMap, List.filter_filterMap]
  congr 1
  funext s
  obtain rfl | rfl | rfl | rfl := shared <;> cases s <;> rfl

/-- A broker and its coordinator agree on what they share. -/
theorem agree_setAll {f : ServiceField} (shared : f.IsShared) (settings : List BrokerSetting) :
    ServiceDraft.Agree (({} : BrokerDraft).setAll settings).broker
      (({} : BrokerDraft).setAll settings).coordinator f := by
  rw [broker_setAll, coordinator_setAll]
  refine ServiceDraft.Agree.setAll_of_filter ?_ (filter_forBroker shared settings)
  obtain rfl | rfl | rfl | rfl := shared <;> rfl

theorem yields_build {t : List (Prog.Event A.onSystem)} {o : BrokerOptions}
    (h : Prog.Yields d.build t o) :
    o.broker = d.broker.named o.broker.name
      ∧ o.coordinator = d.coordinator.named o.coordinator.name := by
  obtain ⟨_, _, broker, -, broker', rest⟩ := Prog.yields_bind.1 h
  obtain ⟨_, _, coordinator, -, coordinator', done⟩ := Prog.yields_bind.1 rest
  cases done
  exact ⟨ServiceDraft.yields_build broker', ServiceDraft.yields_build coordinator'⟩

theorem exists_yields_build (d : BrokerDraft) :
    ∃ (t : List (Prog.Event A.onSystem)) (o : BrokerOptions), Prog.Yields d.build t o := by
  obtain ⟨s, broker, hs⟩ := d.broker.exists_yields_build (A := A)
  obtain ⟨u, coordinator, hu⟩ := d.coordinator.exists_yields_build (A := A)
  exact ⟨_, _, Prog.yields_bind.2 ⟨s, _, broker, rfl, hs,
    Prog.yields_bind.2 ⟨u, _, coordinator, rfl, hu, .done _⟩⟩⟩

end BrokerDraft

/-- How options are built that `options` makes of a suffix: at once when the last name is not blank,
and otherwise with a suffix that is asked for. -/
inductive Builds {A : Interface} (settings : List ServiceSetting)
    (options : String → ServiceOptions) : Prog A.onSystem ServiceOptions → Prop
  | named {name : String} (given : last name? settings = some name)
      (some : Text.isBlank name = false) (suffix : String) :
      Builds settings options (pure (options suffix))
  | nameless (blank : ∀ name, last name? settings = some name → Text.isBlank name = true) :
      Builds settings options (System.suffix >>= fun suffix => pure (options suffix))

theorem ServiceDraft.builds_build {A : Interface} {settings : List ServiceSetting}
    {d : ServiceDraft} (h : d.Gathers settings) :
    Builds settings d.resolve (d.build (A := A)) := by
  cases name : d.configuredName with
  | some name' =>
    rw [ServiceDraft.build_named name ""]
    rw [configuredName, h.name, Option.filter_eq_some_iff] at name
    exact .named name.1 (by simpa using name.2) ""
  | none =>
    rw [ServiceDraft.build_nameless name]
    rw [configuredName, h.name, Option.filter_eq_none_iff] at name
    exact .nameless fun name' given => by simpa using name name' given

/-- Settings in any order and number are built into their normal form. Settings whose fields each
get the same ones in the same order are built into the same options, but for a generated name. A
broker and its coordinator are built with the same networks, and are logged and removed alike. -/
theorem settings_build_normal_form (A : Interface) :
    (∀ (family : Family) (settings : List ServiceSetting), ∃ options : String → ServiceOptions,
      (∀ suffix, NormalForm family settings suffix (options suffix)) ∧
      Builds settings options ((({ family } : ServiceDraft).setAll settings).build (A := A))) ∧
    (∀ (family : Family) (settings settings' : List ServiceSetting),
      (∀ f, settings.filter (·.field = f) = settings'.filter (·.field = f)) →
      (({ family } : ServiceDraft).setAll settings).build (A := A)
        = (({ family } : ServiceDraft).setAll settings').build ∧
      ∀ t o t' o', Prog.Yields ((({ family } : ServiceDraft).setAll settings).build (A := A)) t o →
        Prog.Yields ((({ family } : ServiceDraft).setAll settings').build (A := A)) t' o' →
        { o with name := o'.name } = o') ∧
    ∀ settings : List BrokerSetting,
      (∃ t o, Prog.Yields ((({} : BrokerDraft).setAll settings).build (A := A)) t o) ∧
      ∀ t o, Prog.Yields ((({} : BrokerDraft).setAll settings).build (A := A)) t o →
        o.broker.networks = o.coordinator.networks ∧ o.broker.log = o.coordinator.log ∧
          o.broker.autoRemove = o.coordinator.autoRemove := by
  refine ⟨fun family settings => ?_, fun family settings settings' same => ?_,
    fun settings => ⟨BrokerDraft.exists_yields_build _, fun t o built => ?_⟩⟩
  · have gathers := ServiceDraft.gathers_setAll family settings
    refine ⟨_, fun suffix => ?_, ServiceDraft.builds_build gathers⟩
    have normal := gathers.normalForm suffix
    rwa [ServiceDraft.family_setAll] at normal
  · rw [ServiceDraft.setAll_eq_of_filter same]
    refine ⟨rfl, fun t o t' o' built built' => ?_⟩
    rw [ServiceDraft.yields_build built, ServiceDraft.yields_build built']
    rfl
  · obtain ⟨broker, coordinator⟩ := BrokerDraft.yields_build built
    rw [broker, coordinator]
    exact ⟨BrokerDraft.agree_setAll (f := .networks) (.inl rfl) settings,
      BrokerDraft.agree_setAll (f := .log) (.inr (.inr (.inr rfl))) settings,
      BrokerDraft.agree_setAll (f := .autoRemove) (.inr (.inr (.inl rfl))) settings⟩

/-- Settings that take back others. -/
def tangledSettings : List ServiceSetting :=
  [.port 70000, .envVar "B" "2", .env (.ofList [("A", "1")]), .envVar "A" "3", .name "\t",
    .dynamicPort, .network "a", .networks ["b"], .port 0, .network "c", .dbIndex (-3)]

/-- The same settings in another order of their fields. -/
def untangledSettings : List ServiceSetting :=
  [.name "\t", .dbIndex (-3), .port 70000, .dynamicPort, .port 0, .network "a", .networks ["b"],
    .network "c", .envVar "B" "2", .env (.ofList [("A", "1")]), .envVar "A" "3"]

theorem tangledSettings_build :
    (∃ t o t' o',
      Prog.Yields ((({ family := .redis } : ServiceDraft).setAll tangledSettings).build
        (A := Engine)) t o ∧
      Prog.Yields ((({ family := .redis } : ServiceDraft).setAll untangledSettings).build
        (A := Engine)) t' o' ∧
      o.name = "redis-1" ∧ o'.name = "redis-2" ∧ { o with name := o'.name } = o' ∧
      o'.port = some 6379 ∧ o'.env = .ofList [("A", "3")] ∧ o'.networks = ["b", "c"] ∧
      o'.dbIndex = 1) ∧
    ∃ t o, Prog.Yields ((({} : BrokerDraft).setAll
        [.log true, .networks ["a"], .log false, .networks ["b"], .autoRemove false]).build
          (A := Engine)) t o ∧
      o.broker.networks = o.coordinator.networks ∧ o.broker.log = o.coordinator.log ∧
        o.broker.autoRemove = o.coordinator.autoRemove ∧ o.coordinator.networks = ["b"] := by
  obtain ⟨-, ordered, shared⟩ := settings_build_normal_form Engine
  constructor
  · have same : ∀ f : ServiceField, tangledSettings.filter (·.field = f)
        = untangledSettings.filter (·.field = f) := fun f => by cases f <;> rfl
    have run (d : ServiceDraft) (suffix : String) (nameless : d.configuredName = none) :
        Prog.Yields (d.build (A := Engine)) [⟨.inr .suffix, suffix⟩] (d.resolve suffix) := by
      rw [ServiceDraft.build_nameless nameless]
      exact @Prog.Yields.ask Engine.onSystem _ (.inr .suffix)
        (fun suffix => .done (d.resolve suffix)) [] _ suffix (.done _)
    have runs := run (({ family := .redis } : ServiceDraft).setAll tangledSettings) "1" rfl
    have runs' := run (({ family := .redis } : ServiceDraft).setAll untangledSettings) "2" rfl
    exact ⟨_, _, _, _, runs, runs', rfl, rfl, (ordered .redis _ _ same).2 _ _ _ _ runs runs', rfl,
      by decide, rfl, rfl⟩
  · obtain ⟨⟨t, o, run⟩, alike⟩ := shared
      [.log true, .networks ["a"], .log false, .networks ["b"], .autoRemove false]
    obtain ⟨networks, log, autoRemove⟩ := alike t o run
    obtain ⟨-, coordinator⟩ := BrokerDraft.yields_build run
    exact ⟨t, o, run, networks, log, autoRemove, by rw [coordinator]; rfl⟩

end Testbed
