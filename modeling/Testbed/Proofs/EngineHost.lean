import Mathlib.Data.List.Basic
import Testbed.Proofs.PortReading

/-!
# The host of an engine

The address of an engine tells on which host the ports are that it publishes. What stands before the
first colon is taken for the host. That it is, unless the host is an IPv6 literal, which has colons
of its own.
-/

namespace Testbed.Docker

/-! ## Addresses of engines -/

/-- A host as an address has it: a name or an IPv4 address, which has no colon, or an IPv6 literal
in brackets, which has one. What comes before its first colon is `first`. -/
inductive EngineHost where
  | plain (name : String) (given : name ≠ "") (colonless : ':' ∉ name.toList)
  | literal (first rest : String) (colonless : ':' ∉ first.toList)

namespace EngineHost

/-- The host without brackets. -/
def bare : EngineHost → String
  | plain name _ _ => name
  | literal first rest _ => first ++ ":" ++ rest

def text : EngineHost → String
  | plain name _ _ => name
  | literal first rest _ => "[" ++ first ++ ":" ++ rest ++ "]"

/-- The text is a name for the host; brackets make no difference. -/
def Denotes (host : EngineHost) (told : String) : Prop :=
  told = host.bare ∨ told = host.text

def IsPlain : EngineHost → Prop
  | plain _ _ _ => True
  | literal _ _ _ => False

/-- What comes before the first colon. -/
def beforeColon : EngineHost → String
  | plain name _ _ => name
  | literal first _ _ => "[" ++ first

end EngineHost

/-- What stands after a host in an address: a colon and a port, if one is given. -/
def portText : Option String → String
  | some port => ":" ++ port
  | none => ""

/-- The address of an engine that is reached over a network. -/
def tcpAddress (host : String) (port : Option String) : String :=
  "tcp://" ++ host ++ portText port

/-- No host is given, or the engine is reached in another way than over a network. -/
inductive Hostless : Option String → Prop
  | unset : Hostless none
  | empty (port : Option String) : Hostless (some (tcpAddress "" port))
  | other {address : String} (h : ∀ rest, address ≠ "tcp://" ++ rest) : Hostless (some address)

/-! ## Reading an address -/

/-- Whatever stands for the port, the host ends at the first colon. -/
theorem hostOf_tcpAddress {host : String} (colonless : ':' ∉ host.toList) (port : Option String) :
    hostOf (some (tcpAddress host port)) = if host = "" then "localhost" else host := by
  have begins : ("tcp://".toList).isPrefixOf? (tcpAddress host port).toList =
      some (host.toList ++ (portText port).toList) := by
    simp [tcpAddress]
  have first : (Text.splitOn ':' (host.toList ++ (portText port).toList)).head? =
      some host.toList := by
    cases port with
    | none => simp [portText, Text.splitOn_of_notMem colonless]
    | some port => simp [portText, Text.splitOn_append colonless]
  simp only [hostOf, Option.bind_eq_bind, Option.bind_some, begins, first]
  cases chars : host.toList with
  | nil =>
    have empty : host = "" := String.toList_inj.1 chars
    simp [empty]
  | cons c cs =>
    have given : host ≠ "" := by
      rintro rfl
      cases chars
    rw [if_neg given]
    exact (congrArg String.ofList chars.symm).trans String.ofList_toList

/-- An engine without a host runs on this one. -/
theorem Hostless.hostOf {address : Option String} (h : Hostless address) :
    hostOf address = "localhost" := by
  cases h with
  | unset => rfl
  | empty port => exact hostOf_tcpAddress (by simp) port
  | @other address other =>
    have outside : ("tcp://".toList).isPrefixOf? address.toList = none := by
      refine Option.eq_none_iff_forall_ne_some.2 fun rest begins => ?_
      have parts := List.isPrefixOf?_eq_some_iff_append_eq.1 begins
      exact other (String.ofList rest) (String.toList_inj.1 (by simp [← parts]))
    simp only [Docker.hostOf, Option.bind_eq_bind, Option.bind_some, outside, Option.bind_none]

namespace EngineHost

/-- The address of an engine on the host. -/
def address (host : EngineHost) (port : Option String) : String :=
  tcpAddress host.text port

/-- The rest of a literal is read like a port. -/
theorem hostOf_address (host : EngineHost) (port : Option String) :
    hostOf (some (host.address port)) = host.beforeColon := by
  cases host with
  | plain name given colonless =>
    simpa [address, text, beforeColon, given] using hostOf_tcpAddress colonless port
  | literal first rest colonless =>
    have cut : tcpAddress ("[" ++ first ++ ":" ++ rest ++ "]") port =
        tcpAddress ("[" ++ first) (some (rest ++ "]" ++ portText port)) := by
      simp [tcpAddress, portText, String.append_assoc]
    have bracket : "[" ++ first ≠ "" := by simp [String.append_eq_empty_iff]
    have still : ':' ∉ ("[" ++ first).toList := by simpa using colonless
    rw [address, text, cut, hostOf_tcpAddress still, if_neg bracket, beforeColon]

theorem denotes_beforeColon_iff (host : EngineHost) :
    host.Denotes host.beforeColon ↔ host.IsPlain := by
  cases host with
  | plain name given colonless => exact iff_of_true (.inl rfl) trivial
  | literal first rest colonless =>
    -- What is cut off at a colon has none itself.
    have still : ':' ∉ ("[" ++ first).toList := by simpa using colonless
    have colon : ':' ∈ (literal first rest colonless).bare.toList ∧
        ':' ∈ (literal first rest colonless).text.toList := by simp [bare, text]
    refine iff_of_false (fun denotes => still ?_) id
    obtain same | same := denotes
    · exact (congrArg (':' ∈ String.toList ·) same).mpr colon.1
    · exact (congrArg (':' ∈ String.toList ·) same).mpr colon.2

end EngineHost

/-! ## The address of a service -/

namespace Config

variable {config : Config} {t : List (Prog.Event Client.onSystem)}

/-- The client was run to tell a published port, and has told `port`. -/
def TellsPort (t : List (Prog.Event Client.onSystem)) (name : String) (containerPort port : Port) :
    Prop :=
  ∃ c, ⟨.inl (.execute (Arguments.mappedPort name containerPort)), .ok c⟩ ∈ t ∧
    c.status.success = true ∧ mappedPort? c.outputText = some port

theorem mappedPort_tells {name : String} {containerPort port : Port}
    (h : Prog.Yields (config.mappedPort name containerPort).run t (.ok port)) :
    TellsPort t name containerPort port := by
  obtain ⟨outcome, rfl, told⟩ := mappedPort_yields_iff.1 h
  obtain ⟨c, rfl, success, read⟩ := toldPort_eq_ok_iff.1 told.symm
  exact ⟨c, List.mem_singleton.2 rfl, success, read⟩

/-- A service that has been launched over a client is reached on the host of the engine's address,
under the port that the client has told. -/
theorem launch_address {pacing : Pacing} {ctx : Context} {request : LaunchRequest}
    {service : Service}
    (h : Prog.Yields (config.overClient (launch pacing ctx request).run) t (.ok service)) :
    service.address.host = hostOf config.engineAddress ∧
      TellsPort t request.spec.name request.containerPort service.address.port := by
  obtain ⟨u, launched, served⟩ := Prog.Yields.of_interpret h
  have located := (launch_locates launched).2
  constructor
  · obtain ⟨s, -, told⟩ := served _ located.host
    have told : Prog.Yields (.done (hostOf config.engineAddress) : Call String) s
        service.address.host := told
    generalize service.address.host = host at told ⊢
    cases told
    rfl
  · obtain ⟨s, within, told⟩ := served _ located.port
    obtain ⟨c, ran, success, read⟩ := mappedPort_tells told
    exact ⟨c, within ran, success, read⟩

end Config

/-- A host that is a name or an IPv4 address is read as it is, with any port or none, and an IPv6
literal is not: only what comes before its first colon is. Without a host, and when the engine is
reached in another way, it is this host. A service is reached on the host that was read, under the
port that the client has told. -/
theorem engine_host_is_read_unless_literal (config : Config) (pacing : Pacing) (ctx : Context)
    (request : LaunchRequest) :
    (∀ (host : EngineHost) port, config.engineAddress = some (host.address port) →
      hostOf config.engineAddress = host.beforeColon ∧
        (host.Denotes (hostOf config.engineAddress) ↔ host.IsPlain)) ∧
    (Hostless config.engineAddress → hostOf config.engineAddress = "localhost") ∧
    ∀ t service,
      Prog.Yields (config.overClient (launch pacing ctx request).run) t (.ok service) →
      service.address.host = hostOf config.engineAddress ∧
        Config.TellsPort t request.spec.name request.containerPort service.address.port := by
  refine ⟨fun host port set => ?_, Hostless.hostOf, fun t service h => Config.launch_address h⟩
  have read := host.hostOf_address port
  rw [set, read]
  exact ⟨rfl, host.denotes_beforeColon_iff⟩

/-- A client whose engine publishes every port as 49153, where connections are accepted. -/
def publishing : (r : Client.onSystem.Request) → Client.onSystem.Reply r
  | .inl (.execute _) =>
    .ok ⟨.exited 0, "0.0.0.0:49153\n".toList.map fun c => .ofNat c.toNat, []⟩
  | .inl (.spawn _) => .ok ⟨0⟩
  | .inl (.poll _) => .ok (some ⟨.exited 0, [], []⟩)
  | .inl (.kill _) => ()
  | .inl (.follow _) => .ok ⟨0⟩
  | .inl (.resolve host port) => .ok [⟨host, port⟩]
  | .inl (.dial _ _) => .ok ()
  | .inr r => Engine.obliging (.inr r)

/-- A client of an engine on another machine. -/
def remoteConfig : Config := { engineAddress := some "tcp://10.0.0.5:2375" }

/-- The request for a cache without further settings. -/
def plainCache : LaunchRequest := .cache (ServiceDraft.named { family := .redis } "redis")

/-- A service of an engine with an IPv4 address is reached there. -/
theorem numbered_host_is_read :
    hostOf remoteConfig.engineAddress = "10.0.0.5" ∧
    hostOf ({} : Config).engineAddress = "localhost" ∧
    ∃ t service,
      Prog.Yields (remoteConfig.overClient (launch {} ⟨⟨0⟩, none⟩ plainCache).run) t
        (.ok service) ∧
      service.address.host = hostOf remoteConfig.engineAddress ∧
      Config.TellsPort t "redis" 6379 service.address.port ∧
      service.address = ⟨"10.0.0.5", 49153⟩ := by
  have remote := engine_host_is_read_unless_literal remoteConfig {} ⟨⟨0⟩, none⟩ plainCache
  have here := engine_host_is_read_unless_literal {} {} ⟨⟨0⟩, none⟩ plainCache
  refine ⟨?_, here.2.1 .unset, ?_⟩
  · exact (remote.1 (.plain "10.0.0.5" (by decide) (by decide)) (some "2375") rfl).1
  · obtain ⟨_ | service, address, yields⟩ := Prog.exists_yields_play publishing
      (p := remoteConfig.overClient (launch {} ⟨⟨0⟩, none⟩ plainCache).run)
      (f := fun r => r.toOption.map (·.address)) (b := ⟨"10.0.0.5", 49153⟩) (by decide +kernel)
    · cases address
    · obtain ⟨host, port⟩ := remote.2.2 _ service yields
      exact ⟨_, service, yields, host, port, Option.some.inj address⟩

/-- Of the address of an engine on the loopback interface, a bracket is read. -/
theorem bracketed_literal_is_cut_off :
    hostOf (some "tcp://[::1]:2375") = "[" ∧
      ¬ (EngineHost.literal "" ":1" (by decide)).Denotes (hostOf (some "tcp://[::1]:2375")) := by
  have cut : hostOf (some "tcp://[::1]:2375") = "[" := by decide +kernel
  refine ⟨cut, ?_⟩
  rw [cut]
  rintro (same | same) <;> exact absurd same (by decide)

end Testbed.Docker
