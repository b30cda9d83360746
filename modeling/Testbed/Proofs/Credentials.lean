import Testbed.Proofs.Endpoints
import Testbed.Proofs.Requests

/-!
# Credentials of clients and servers

Whether a password is asked for is decided when options are made, when a container is described, and
when a connection string is written. All agree: the connection string of a database names a user
exactly if the database was started with a root user, and then that one; and a cache hands out the
password that its server was started with. Only a root user in the environment of the options would
be unknown to the client. What a connection string names is read back from it but for a colon.
-/

namespace Testbed

open Engine (Asking)

variable {pacing : Pacing} {ctx : Context} {t : Trace}

/-! ## Containers that are started -/

/-- A container is started by being run. -/
theorem Deed.of?_started {e : Prog.Event Engine.onSystem} {spec : ContainerSpec}
    (h : of? e = some (started spec)) : ∃ ctx, e = Engine.event (.run ctx spec) (.ok ()) := by
  unfold of? at h
  split at h <;> cases h
  exact ⟨_, rfl⟩

theorem Trace.exists_of_mem_started {spec : ContainerSpec} (h : spec ∈ t.started) :
    ∃ ctx, Engine.event (.run ctx spec) (.ok ()) ∈ t := by
  obtain ⟨d, done, started⟩ := List.mem_filterMap.1 h
  obtain ⟨e, hmem, deed⟩ := List.mem_filterMap.1 done
  cases d <;> cases started
  obtain ⟨ctx, rfl⟩ := Deed.of?_started deed
  exact ⟨ctx, hmem⟩

/-- All containers that are started have been asked for. -/
theorem Trace.forall_started {A : ContainerSpec → Prop} {N : String → Prop}
    (h : ∀ e ∈ t, Asking A N e.request) : ∀ spec ∈ t.started, A spec := by
  intro spec hmem
  obtain ⟨ctx, ran⟩ := exists_of_mem_started hmem
  exact h _ ran

/-- Who asks for one container only, and starts one, starts this one. -/
theorem Trace.started_eq_singleton {spec : ContainerSpec} {name : String}
    (only : ∀ e ∈ t, Asking (· = spec) (fun _ => True) e.request)
    (one : t.started.map (·.name) = [name]) : t.started = [spec] := by
  obtain ⟨spec', started, -⟩ := List.map_eq_singleton_iff.1 one
  have same := forall_started only spec' (by simp [started])
  rw [started, same]

theorem Ledger.Gained.started_eq {names own : List String}
    (h : Gained {} (monitor.after {} t) names own) : t.started.map (·.name) = names := by
  obtain ⟨specs, named, started⟩ := h.started
  rw [started_after, List.nil_append, List.nil_append] at started
  rw [started, named]

/-! ## Credentials of services -/

theorem launch_credentials {request : LaunchRequest} {service : Service}
    (h : Prog.Yields (launch pacing ctx request).run t (.ok service)) :
    service.credentials = request.credentials := by
  obtain ⟨_, _, ⟨⟩, -, -, ready⟩ := Task.yields_bind h
  obtain ⟨_, _, host, -, -, h⟩ := Task.yields_bind (Task.yields_onFailure ready)
  obtain ⟨_, _, port, -, -, h⟩ := Task.yields_bind h
  obtain ⟨_, _, ⟨⟩, -, -, h⟩ := Task.yields_bind h
  dsimp only at h
  split at h <;>
  · obtain ⟨_, _, collector, -, -, h⟩ := Task.yields_bind h
    cases h
    rfl

/-! ## Options -/

/-- An empty password counts as none. -/
theorem ServiceDraft.named_password {d : ServiceDraft} {name : String} {c : Credentials}
    (h : (d.named name).credentials = some c) : c.password ≠ "" := by
  obtain ⟨-, set⟩ := Option.filter_eq_some_iff.1 h
  simpa using set

/-! ## Root users -/

/-- The variable that the image of a database takes the name of its root user from. -/
def rootUserKey : String := "MONGO_INITDB_ROOT_USERNAME"

/-- The variable that it takes the password of its root user from. -/
def rootPasswordKey : String := "MONGO_INITDB_ROOT_PASSWORD"

/-- The environment says nothing of a root user. -/
structure Env.Rootless (env : Env) : Prop where
  user : env.get? rootUserKey = none
  password : env.get? rootPasswordKey = none

namespace LaunchRequest

variable {o : ServiceOptions}

theorem layeredEnv_get? {key : String} (family : List (String × String))
    (h : o.env.get? key = none) :
    (layeredEnv family o).get? key = (Env.ofList family).get? key := by
  rw [layeredEnv, Env.get?_overlay, h, Option.none_or]

/-- What a database is told of a root user. -/
def rootEntries : Option (String × String) → List (String × String)
  | some (user, password) => [(rootUserKey, user), (rootPasswordKey, password)]
  | none => []

/-- A database is told of its root user, unless the options say something else. -/
theorem database_env (h : o.env.Rootless) :
    (database o).spec.env.get? rootUserKey = (rootUser? o).map (·.1) ∧
      (database o).spec.env.get? rootPasswordKey = (rootUser? o).map (·.2) := by
  have env {key : String} (free : o.env.get? key = none) :
      (database o).spec.env.get? key = (Env.ofList (rootEntries (rootUser? o))).get? key :=
    layeredEnv_get? _ free
  rw [env h.user, env h.password]
  rcases rootUser? o with _ | ⟨user, password⟩
  · exact ⟨rfl, rfl⟩
  · simp [rootEntries, Env.ofList, Env.update, rootUserKey, rootPasswordKey]

/-- A member of a replica set is told of no root user. -/
theorem replicaMember_rootless (h : o.env.Rootless) (node : ReplicaNode) (network : String) :
    (replicaMember o node network).spec.env.Rootless where
  user := layeredEnv_get? [] h.user
  password := layeredEnv_get? [] h.password

end LaunchRequest

/-! ## Connection strings -/

/-- A user and a password as they stand in a connection string. -/
def loginText : Option (String × String) → String
  | some (user, password) => user ++ ":" ++ password ++ "@"
  | none => ""

/-- A connection string names the root user that the database is told of. -/
theorem uriStem_eq_loginText {o : ServiceOptions}
    (set : ∀ c, o.credentials = some c → c.password ≠ "") :
    (o.credentials.map Credentials.uriStem).getD "" = loginText (LaunchRequest.rootUser? o) := by
  unfold LaunchRequest.rootUser?
  cases credentials : o.credentials with
  | none => rfl
  | some c =>
    have set := set c credentials
    obtain ⟨_ | user, password⟩ := c
    · rfl
    · by_cases blank : user = ""
      · simp [Credentials.uriStem, blank, loginText]
      · have stem : Credentials.uriStem ⟨user, password⟩ = loginText (some (user, password)) :=
          if_pos ⟨blank, set⟩
        simpa [blank] using stem

namespace Database

/-- The connection string of a database, with `login` before the address. -/
def uriWith (d : Database) (login : String) : String :=
  "mongodb://" ++ login ++ d.endpoint.text ++ match d with
    | standalone _ => "/?connect=direct"
    | replicated _ => "/?connect=direct&retryWrites=true&w=majority" ++
      "&readPreference=primaryPreferred&replicaSet=rs0"

/-- The connection string has a user with a password before the address. -/
def NamesUser (d : Database) (user password : String) : Prop :=
  d.uri = d.uriWith (loginText (some (user, password)))

theorem uriWith_inj {d : Database} {login login' : String}
    (h : d.uriWith login = d.uriWith login') : login = login' := by
  simpa [uriWith, String.append_left_inj, String.append_right_inj] using h

theorem standalone_uri (service : Service) :
    (standalone service).uri = (standalone service).uriWith
      ((service.credentials.map Credentials.uriStem).getD "") := rfl

theorem replicated_uri (set : ReplicaSet) :
    (replicated set).uri = (replicated set).uriWith (loginText none) := by
  simp only [uri, ReplicaSet.uri, replicaSetUri, uriWith, endpoint, loginText, String.append_assoc]
  rfl

/-- The connection string names a user exactly if the container was told of one, and then that
one. -/
structure Matches (d : Database) (spec : ContainerSpec) : Prop where
  named : (∃ user password, d.NamesUser user password) ↔
    (spec.env.get? rootUserKey).isSome ∧ (spec.env.get? rootPasswordKey).isSome
  same : ∀ user password, spec.env.get? rootUserKey = some user →
    spec.env.get? rootPasswordKey = some password → d.NamesUser user password

variable {d : Database} {spec : ContainerSpec} {o : ServiceOptions}

/-- Nobody is named where nobody stands before the address. -/
theorem not_namesUser (h : d.uri = d.uriWith (loginText none)) (user password : String) :
    ¬ d.NamesUser user password := by
  intro named
  have same : loginText none = loginText (some (user, password)) := uriWith_inj (h.symm.trans named)
  simp [loginText, String.append_eq_empty_iff] at same

theorem matches_of_root {root : Option (String × String)} (uri : d.uri = d.uriWith (loginText root))
    (user : spec.env.get? rootUserKey = root.map (·.1))
    (password : spec.env.get? rootPasswordKey = root.map (·.2)) : d.Matches spec := by
  rcases root with _ | ⟨name, secret⟩
  · refine ⟨⟨?_, ?_⟩, ?_⟩
    · rintro ⟨user, password, named⟩
      exact absurd named (not_namesUser uri user password)
    · rintro ⟨some, -⟩
      simp [user] at some
    · intro _ _ some
      simp [user] at some
  · refine ⟨⟨fun _ => ?_, fun _ => ⟨name, secret, uri⟩⟩, ?_⟩
    · simp [user, password]
    · rintro _ _ user' password'
      cases user.symm.trans user'
      cases password.symm.trans password'
      exact uri

theorem start_names (h : Prog.Yields (Database.start pacing ctx o).run t (.ok d)) :
    t.started.map (·.name) = d.containerNames ∧
      d.containerNames = namesFor o.replicaSet o.name := by
  obtain ⟨-, names, -, gained⟩ := Prog.wp_yields (start_gained (l := {})) h
  exact ⟨gained.started_eq, names⟩

/-- A database that runs by itself keeps the credentials that it was started with. -/
theorem start_standalone {service : Service}
    (h : Prog.Yields (Database.start pacing ctx o).run t (.ok (.standalone service))) :
    o.replicaSet = false ∧ service.credentials = o.credentials := by
  unfold Database.start at h
  split at h
  · obtain ⟨_, _, set, -, -, h⟩ := Task.yields_bind h
    obtain ⟨_, _, ⟨⟩, -, -, h⟩ := Task.yields_bind h
    cases h
  · next single =>
    obtain ⟨_, _, ⟨⟩, -, -, h⟩ := Task.yields_bind h
    obtain ⟨_, _, launched, -, launches, h⟩ := Task.yields_bind h
    obtain ⟨_, _, ⟨⟩, -, -, h⟩ := Task.yields_bind h
    cases h
    exact ⟨by simpa using single, launch_credentials launches⟩

theorem start_replicated {set : ReplicaSet}
    (h : Prog.Yields (Database.start pacing ctx o).run t (.ok (.replicated set))) :
    o.replicaSet = true := by
  unfold Database.start at h
  split at h
  · next replicated => exact replicated
  · obtain ⟨_, _, ⟨⟩, -, -, h⟩ := Task.yields_bind h
    obtain ⟨_, _, launched, -, -, h⟩ := Task.yields_bind h
    obtain ⟨_, _, ⟨⟩, -, -, h⟩ := Task.yields_bind h
    cases h

/-! ## Agreement -/

/-- The container of a database that runs by itself is told of the user that the connection string
names. -/
theorem standalone_matches {service : Service} (rootless : o.env.Rootless)
    (set : ∀ c, o.credentials = some c → c.password ≠ "")
    (h : Prog.Yields (Database.start pacing ctx o).run t (.ok (.standalone service))) :
    ∃ spec, t.started = [spec] ∧ (standalone service).Matches spec := by
  obtain ⟨single, kept⟩ := start_standalone h
  obtain ⟨started, names⟩ := start_names h
  rw [names, single] at started
  have only := Prog.Only.reaches (Database.start_asking (N := fun _ => True)
    (A := (· = (LaunchRequest.database o).spec)) (fun _ => rfl)
    (fun replicated => by simp [single] at replicated) fun _ _ => trivial) h.reaches
  obtain ⟨user, password⟩ := LaunchRequest.database_env rootless
  refine ⟨_, Trace.started_eq_singleton only started, matches_of_root ?_ user password⟩
  rw [standalone_uri, kept, uriStem_eq_loginText set]

/-- The members of a replica set are told of no user, and the connection string names none. -/
theorem replicated_rootless {set : ReplicaSet} (rootless : o.env.Rootless)
    (h : Prog.Yields (Database.start pacing ctx o).run t (.ok (.replicated set))) :
    t.started.map (·.name) = set.containerNames ∧ (∀ spec ∈ t.started, spec.env.Rootless) ∧
      ∀ user password, ¬ (replicated set).NamesUser user password := by
  have only := Prog.Only.reaches (Database.start_asking (A := fun spec => spec.env.Rootless)
    (N := fun _ => True) (fun single => by simp [start_replicated h] at single)
    (fun _ network _ node => LaunchRequest.replicaMember_rootless rootless node network)
    fun _ _ => trivial) h.reaches
  exact ⟨(start_names h).1, Trace.forall_started only, not_namesUser (replicated_uri set)⟩

end Database

/-- A cache hands out the password that its server was started with. -/
theorem Cache.start_password {o : ServiceOptions} {c : Cache}
    (h : Prog.Yields (Cache.start pacing ctx o).run t (.ok c)) :
    ∃ spec, t.started = [spec] ∧
      ∀ password, c.password = some password ↔
        spec.cmd = ["redis-server", "--requirepass", password] := by
  have only := Prog.Only.reaches (Cache.start_asking (N := fun _ => True)
    (A := (· = (LaunchRequest.cache o).spec)) rfl) h.reaches
  obtain ⟨-, named, gained⟩ := Prog.wp_yields (start_gained (l := {})) h
  refine ⟨_, Trace.started_eq_singleton only (gained.started_eq.trans named), fun password => ?_⟩
  obtain ⟨_, _, service, -, -, h⟩ := Task.yields_bind h
  obtain ⟨_, _, ⟨⟩, -, -, h⟩ := Task.yields_bind h
  cases h
  change o.credentials.map (·.password) = some password ↔ (LaunchRequest.cache o).spec.cmd = _
  cases credentials : o.credentials <;>
    simp [LaunchRequest.cache, LaunchRequest.ofSpec, credentials]

/-- Client and server agree on credentials, whatever the settings. The connection string of a
database that runs by itself names a user exactly if its container was given both variables of the
root user, and then it names that one. A replica set has no user, neither in its containers nor in
its connection string. Here the options must leave the root user alone. A cache hands out a password
exactly if its server was started with it. -/
theorem credentials_agree (pacing : Pacing) (ctx : Context) (settings : List ServiceSetting)
    (s : Trace) (o : ServiceOptions) (t : Trace) :
    (Prog.Yields ((ServiceDraft.setAll { family := .mongo } settings).build : Action _) s o →
      o.env.Rootless →
      (∀ service, Prog.Yields (Database.start pacing ctx o).run t (.ok (.standalone service)) →
        ∃ spec, t.started = [spec] ∧ (Database.standalone service).Matches spec) ∧
      (∀ set, Prog.Yields (Database.start pacing ctx o).run t (.ok (.replicated set)) →
        t.started.map (·.name) = set.containerNames ∧
        (∀ spec ∈ t.started, spec.env.Rootless) ∧
        ∀ user password, ¬ (Database.replicated set).NamesUser user password)) ∧
    (Prog.Yields ((ServiceDraft.setAll { family := .redis } settings).build : Action _) s o →
      ∀ c, Prog.Yields (Cache.start pacing ctx o).run t (.ok c) →
        ∃ spec, t.started = [spec] ∧
          ∀ password, c.password = some password ↔
            spec.cmd = ["redis-server", "--requirepass", password]) := by
  refine ⟨fun built rootless => ?_, fun _ c started => Cache.start_password started⟩
  obtain ⟨name, rfl⟩ := ServiceDraft.exists_named built
  refine ⟨fun service started => ?_, fun set started => ?_⟩
  · exact Database.standalone_matches rootless (fun _ => ServiceDraft.named_password) started
  · exact Database.replicated_rootless rootless started

/-- The last credentials count. -/
def rootSettings : List ServiceSetting :=
  [.name "test", .password "secret", .credentials "root" "pw"]

/-- The same for a replica set. -/
def mirroredSettings : List ServiceSetting := .replicaSet true :: rootSettings

/-- What the settings come to for a service called `test`. -/
def ServiceOptions.sampled (family : Family) (settings : List ServiceSetting) : ServiceOptions :=
  (ServiceDraft.setAll { family } settings).named "test"

/-- On an obliging engine a database, a replica set and a cache start with a user and a password.
The database has both, the replica set has none, and the cache has the password. -/
theorem guarded_fixtures_agree :
    (∃ (t : Trace) (service : Service),
      Prog.Yields (Database.start {} ⟨⟨0⟩, none⟩ (.sampled .mongo rootSettings)).run t
        (.ok (.standalone service)) ∧
      (Database.standalone service).uri = "mongodb://root:pw@localhost:27017/?connect=direct" ∧
      ∃ spec, t.started = [spec] ∧ (Database.standalone service).Matches spec) ∧
    (∃ (t : Trace) (set : ReplicaSet),
      Prog.Yields (Database.start {} ⟨⟨0⟩, none⟩ (.sampled .mongo mirroredSettings)).run t
        (.ok (.replicated set)) ∧
      t.started.map (·.name) = set.containerNames ∧ ∀ spec ∈ t.started, spec.env.Rootless) ∧
    (∃ (t : Trace) (c : Cache),
      Prog.Yields (Cache.start {} ⟨⟨0⟩, none⟩ (.sampled .redis rootSettings)).run t (.ok c) ∧
      c.password = some "pw" ∧ ∃ spec, t.started = [spec] ∧
        ∀ password, c.password = some password ↔
          spec.cmd = ["redis-server", "--requirepass", password]) := by
  have agree (settings : List ServiceSetting) :=
    credentials_agree {} ⟨⟨0⟩, none⟩ settings []
  refine ⟨?_, ?_, ?_⟩
  · obtain ⟨_ | service | set, told, yields⟩ := Prog.exists_yields_play Engine.obliging
      (p := (Database.start {} ⟨⟨0⟩, none⟩ (.sampled .mongo rootSettings)).run)
      (f := fun r => r.toOption.map fun d => (d.replicaSet?.isSome, d.uri))
      (b := (false, "mongodb://root:pw@localhost:27017/?connect=direct")) (by decide +kernel)
    · cases told
    · exact ⟨_, service, yields, congrArg Prod.snd (Option.some.inj told),
        ((agree rootSettings _ _).1 (.done _) ⟨rfl, rfl⟩).1 service yields⟩
    · cases congrArg Prod.fst (Option.some.inj told)
  · obtain ⟨_ | service | set, told, yields⟩ := Prog.exists_yields_play Engine.obliging
      (p := (Database.start {} ⟨⟨0⟩, none⟩ (.sampled .mongo mirroredSettings)).run)
      (f := fun r => r.toOption.map (·.replicaSet?.isSome)) (b := true) (by decide +kernel)
    · cases told
    · cases told
    · obtain ⟨names, rootless, -⟩ :=
        ((agree mirroredSettings _ _).1 (.done _) ⟨rfl, rfl⟩).2 set yields
      exact ⟨_, set, yields, names, rootless⟩
  · obtain ⟨_ | c, told, yields⟩ := Prog.exists_yields_play Engine.obliging
      (p := (Cache.start {} ⟨⟨0⟩, none⟩ (.sampled .redis rootSettings)).run)
      (f := fun r => r.toOption.bind (·.password)) (b := "pw") (by decide +kernel)
    · cases told
    · exact ⟨_, c, yields, told, (agree rootSettings _ _).2 (.done _) c yields⟩

/-! ## What a connection string tells -/

/-- The colon that ends a user may as well be a later one: `user'` goes on to a colon of `password`,
and `password'` is what comes after that. -/
def ColonMoves (user password user' password' : String) : Prop :=
  ∃ between, user' = user ++ ":" ++ between ∧ password = between ++ ":" ++ password'

section Logins

variable {user password user' password' : String}

theorem ColonMoves.joined (h : ColonMoves user password user' password') :
    user ++ ":" ++ password = user' ++ ":" ++ password' := by
  obtain ⟨between, rfl, rfl⟩ := h
  simp [String.append_assoc]

theorem ColonMoves.colon_mem (h : ColonMoves user password user' password') :
    ':' ∈ user'.toList := by
  obtain ⟨between, rfl, -⟩ := h
  simp

/-- When the one user is the longer one, it ends at a later colon. -/
theorem ColonMoves.of_toList {more : List Char} (users : user'.toList = user.toList ++ more)
    (rest : ':' :: password.toList = more ++ ':' :: password'.toList) :
    user = user' ∧ password = password' ∨ ColonMoves user password user' password' := by
  cases more with
  | nil =>
    rw [List.append_nil] at users
    exact .inl ⟨String.toList_inj.1 users.symm, String.toList_inj.1 (List.cons.inj rest).2⟩
  | cons c more =>
    obtain ⟨rfl, inside⟩ := List.cons.inj rest
    refine .inr ⟨String.ofList more, ?_, ?_⟩
    · exact String.toList_inj.1 (by simp [users])
    · exact String.toList_inj.1 (by simp [inside])

/-- A user and a password can be told from their text but for the colon between them. -/
theorem joined_eq_iff :
    user ++ ":" ++ password = user' ++ ":" ++ password' ↔
      user = user' ∧ password = password' ∨ ColonMoves user password user' password' ∨
        ColonMoves user' password' user password := by
  constructor
  · intro h
    have texts : user.toList ++ ':' :: password.toList =
        user'.toList ++ ':' :: password'.toList := by
      simpa using congrArg String.toList h
    rcases List.append_eq_append_iff.1 texts with ⟨more, users, rest⟩ | ⟨more, users, rest⟩
    · exact (ColonMoves.of_toList users rest).imp_right .inl
    · exact (ColonMoves.of_toList users rest).imp (fun ⟨u, p⟩ => ⟨u.symm, p.symm⟩) .inr
  · intro h
    obtain ⟨rfl, rfl⟩ | moves | moves := h
    · rfl
    · exact moves.joined
    · exact moves.joined.symm

theorem standaloneUri_login (hu : user ≠ "") (hp : password ≠ "") (a : Address) :
    standaloneUri (some ⟨some user, password⟩) a =
      "mongodb://" ++ (user ++ ":" ++ password) ++ "@" ++ a.text ++ "/?connect=direct" := by
  have stem : Credentials.uriStem ⟨some user, password⟩ = loginText (some (user, password)) :=
    if_pos ⟨hu, hp⟩
  simp [standaloneUri, stem, loginText, String.append_assoc]

/-- A connection string has the user and the password as they are. So it tells them but for the
colon between them, which may be any colon that stands there: among users without a colon it tells
them apart, whatever the passwords. -/
theorem connection_string_tells_login_but_for_colons (a : Address) (hu : user ≠ "")
    (hp : password ≠ "") (hu' : user' ≠ "") (hp' : password' ≠ "") :
    standaloneUri (some ⟨some user, password⟩) a =
      "mongodb://" ++ (user ++ ":" ++ password) ++ "@" ++ a.text ++ "/?connect=direct" ∧
    (standaloneUri (some ⟨some user, password⟩) a = standaloneUri (some ⟨some user', password'⟩) a ↔
      user = user' ∧ password = password' ∨ ColonMoves user password user' password' ∨
        ColonMoves user' password' user password) ∧
    (':' ∉ user.toList → ':' ∉ user'.toList →
      standaloneUri (some ⟨some user, password⟩) a =
        standaloneUri (some ⟨some user', password'⟩) a →
      user = user' ∧ password = password') := by
  have same : standaloneUri (some ⟨some user, password⟩) a =
      standaloneUri (some ⟨some user', password'⟩) a ↔
      user = user' ∧ password = password' ∨ ColonMoves user password user' password' ∨
        ColonMoves user' password' user password := by
    rw [standaloneUri_login hu hp, standaloneUri_login hu' hp', ← joined_eq_iff]
    simp only [String.append_left_inj, String.append_right_inj]
  refine ⟨standaloneUri_login hu hp a, same, fun plain plain' h => ?_⟩
  obtain both | moves | moves := same.1 h
  · exact both
  · exact absurd moves.colon_mem plain'
  · exact absurd moves.colon_mem plain

/-- Signs that end a user or a password elsewhere do no harm in a password. -/
theorem guarded_logins_differ :
    standaloneUri (some ⟨some "root", "p:w@/"⟩) ⟨"localhost", 27017⟩ ≠
      standaloneUri (some ⟨some "root", "p:w@"⟩) ⟨"localhost", 27017⟩ := by
  intro same
  have told := (connection_string_tells_login_but_for_colons ⟨"localhost", 27017⟩ (by decide)
    (by decide) (by decide) (by decide)).2.2 (by decide) (by decide) same
  exact absurd told.2 (by decide)

/-- One connection string for two users, one of whom has a colon in the name. -/
theorem connection_string_confuses_colons :
    ¬ ∀ (a : Address) (user password user' password' : String), user ≠ "" → password ≠ "" →
      user' ≠ "" → password' ≠ "" →
      standaloneUri (some ⟨some user, password⟩) a =
        standaloneUri (some ⟨some user', password'⟩) a → user = user' ∧ password = password' := by
  intro tells
  have same := tells ⟨"localhost", 27017⟩ "a" "b:c" "a:b" "c" (by decide) (by decide) (by decide)
    (by decide) (by decide +kernel)
  exact absurd same.1 (by decide)

end Logins

end Testbed
