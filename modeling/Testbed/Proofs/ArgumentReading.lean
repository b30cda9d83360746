import Testbed.CommandLine.Switch
import Testbed.Docker.Arguments
import Testbed.Docker.Reading
import Testbed.Proofs.Endpoints

/-!
# Reading an argument list back

What a client makes of the arguments that create a container. It reads them from left to right: an
option takes its value from the argument after it, the first argument that is no option is the
image, and everything after the image is the command. So a value is never taken for an option,
whatever it looks like, and all that the arguments say about a container is read back from them.
-/

namespace Testbed

/-! ## Texts with a separator -/

namespace Text

theorem splitOn_of_notMem {sep : Char} {cs : List Char} (h : sep ∉ cs) : splitOn sep cs = [cs] := by
  induction cs with
  | nil => rfl
  | cons c cs ih =>
    rw [List.mem_cons, not_or] at h
    simp [splitOn, Ne.symm h.1, ih h.2]

theorem splitOn_append {sep : Char} {cs : List Char} (h : sep ∉ cs) (rest : List Char) :
    splitOn sep (cs ++ sep :: rest) = cs :: splitOn sep rest := by
  induction cs with
  | nil => simp [splitOn]
  | cons c cs ih =>
    rw [List.mem_cons, not_or] at h
    simp [splitOn, Ne.symm h.1, ih h.2]

end Text

/-- An environment is what its entries make when they are set one after the other. -/
theorem Env.update_entries (env : Env) : empty.update env.entries = env :=
  ext_get? fun k => by rw [get?_update env.sorted, get?_empty, Option.or_none]; rfl

namespace Docker

open CommandLine (Argument Spelling)

theorem portOfDigits?_port (port : Port) : portOfDigits? (toString port).toList = some port := by
  have digits : (Nat.toDigits 10 port.toNat).all Char.isDigit = true :=
    List.all_eq_true.2 fun c mem => Nat.isDigit_of_mem_toDigits (by decide) (by decide) mem
  have value : (Nat.toDigits 10 port.toNat).foldl (fun n c => n * 10 + (c.toNat - 48)) 0 =
      port.toNat := by
    have read := Nat.ofDigitChars_toDigits (b := 10) (n := port.toNat) (by decide) (by decide)
    simpa [Nat.ofDigitChars, Nat.mul_comm] using read
  have small : port.toNat ≤ 65535 := Nat.le_of_lt_succ port.toNat_lt
  rw [toList_port]
  unfold portOfDigits?
  -- A digit is no plus sign, so nothing is taken off in front of the digits.
  split
  · next rest plus => simp [plus] at digits
  · simp [digits, value, small, Nat.toDigits_ne_nil]

/-! ## What a client understands -/

/-- An option of the client's `run`. -/
inductive RunOption where
  /-- Runs the container in the background. -/
  | detach
  /-- Removes the container once it has stopped. -/
  | remove
  | name
  | hostname
  | network
  | networkAlias
  | publish
  | env
  deriving DecidableEq, Repr

namespace RunOption

/-- The options by the ways in which they are written. -/
def spellings : List (Spelling × RunOption) :=
  [(.short 'd', detach), (.long "detach", detach), (.long "rm", remove), (.long "name", name),
   (.short 'h', hostname), (.long "hostname", hostname), (.long "network", network),
   (.long "net", network), (.long "network-alias", networkAlias),
   (.long "net-alias", networkAlias), (.short 'p', publish), (.long "publish", publish),
   (.short 'e', env), (.long "env", env)]

def takesValue : RunOption → Bool
  | detach | remove => false
  | _ => true

end RunOption

/-- What a client is told about a container that it is to create. -/
structure RunOrder where
  detached : Bool := false
  name : Option String := none
  hostname : Option String := none
  networks : List String := []
  networkAliases : List String := []
  autoRemove : Bool := false
  ports : List PortBinding := []
  env : Env := .empty
  image : String := ""
  cmd : List String := []
  deriving DecidableEq, Repr

namespace RunOrder

/-- A container port with or without a host port before it. -/
def binding? (value : String) : Option PortBinding :=
  match Text.splitOn ':' value.toList with
  | [container] => (portOfDigits? container).map (⟨none, ·⟩)
  | [host, container] => do return ⟨some (← portOfDigits? host), ← portOfDigits? container⟩
  | _ => none

/-- A variable and its value. The first `=` divides them. -/
def assigned? (value : String) : Option (String × String) :=
  (Argument.afterEquals value.toList).map (.ofList (value.toList.takeWhile (· ≠ '=')), ·)

/-- Carries out an option. The last name and the last host name count, and so does the last value of
a variable; networks, aliases and ports add up. -/
def give (order : RunOrder) (value : String) : RunOption → Option RunOrder
  | .detach => some { order with detached := true }
  | .remove => some { order with autoRemove := true }
  | .name => some { order with name := some value }
  | .hostname => some { order with hostname := some value }
  | .network => some { order with networks := order.networks ++ [value] }
  | .networkAlias => some { order with networkAliases := order.networkAliases ++ [value] }
  | .publish => (binding? value).map fun b => { order with ports := order.ports ++ [b] }
  | .env => (assigned? value).map fun (k, v) => { order with env := order.env.insert k v }

/-- Ends the options. -/
def launch (order : RunOrder) : List String → Option RunOrder
  | [] => none
  | image :: cmd => some { order with image := image, cmd := cmd }

/-- Reads the arguments after `run`. A value is attached to its option, or it is the argument after
it. -/
def read (order : RunOrder) : List String → Option RunOrder
  | [] => none
  | arg :: args =>
    match Argument.ofString arg with
    | .name _ => order.launch (arg :: args)
    | .separator => order.launch args
    | .switch spelling attached =>
      match RunOption.spellings.lookup spelling with
      | none => none
      | some option =>
        match option.takesValue, attached, args with
        | false, none, args => (order.give "" option).bind (read · args)
        | false, some _, _ => none
        | true, some value, args => (order.give value option).bind (read · args)
        | true, none, value :: args => (order.give value option).bind (read · args)
        | true, none, [] => none

/-- Reads the arguments of a client that is to create a container. -/
def ofArguments? : List String → Option RunOrder
  | "run" :: args => read {} args
  | _ => none

/-- All that the arguments say about a container: everything but its further networks, and the
aliases of a container without networks. -/
def ofSpec (spec : ContainerSpec) : RunOrder where
  detached := true
  name := some spec.name
  hostname := spec.hostname
  networks := spec.networks.take 1
  networkAliases := if spec.networks = [] then [] else spec.networkAliases
  autoRemove := spec.autoRemove
  ports := spec.ports
  env := spec.env
  image := spec.image
  cmd := spec.cmd

/-! ## Reading values -/

theorem binding?_published (b : PortBinding) : binding? (Arguments.published b) = some b := by
  obtain ⟨host, container⟩ := b
  cases host with
  | none =>
    have alone : Text.splitOn ':' (toString container).toList = [(toString container).toList] :=
      Text.splitOn_of_notMem (colon_notMem_port container)
    simp [binding?, Arguments.published, alone, portOfDigits?_port]
  | some host =>
    have text : (Arguments.published ⟨some host, container⟩).toList =
        (toString host).toList ++ ':' :: (toString container).toList := by
      simp only [Arguments.published, String.toList_append, List.append_assoc]
      rfl
    have parts : Text.splitOn ':' (Arguments.published ⟨some host, container⟩).toList =
        [(toString host).toList, (toString container).toList] := by
      rw [text, Text.splitOn_append (colon_notMem_port host),
        Text.splitOn_of_notMem (colon_notMem_port container)]
    simp [binding?, parts, portOfDigits?_port]

/-- The value may hold further equals signs, the name none. -/
theorem assigned?_assignment {entry : String × String} (h : '=' ∉ entry.1.toList) :
    assigned? (Arguments.assignment entry) = some entry := by
  have text : (Arguments.assignment entry).toList =
      entry.1.toList ++ '=' :: entry.2.toList := by
    simp [Arguments.assignment]
  have before : ∀ c ∈ entry.1.toList, decide (c ≠ '=') = true := fun c mem =>
    decide_eq_true (ne_of_mem_of_not_mem mem h)
  have name : (Arguments.assignment entry).toList.takeWhile (· ≠ '=') = entry.1.toList := by
    rw [text, List.takeWhile_append_of_pos before]
    simp
  have value : Argument.afterEquals (Arguments.assignment entry).toList = some entry.2 := by
    rw [Argument.afterEquals, text, List.dropWhile_append_of_pos before]
    simp
  rw [assigned?, name, value]
  simp

/-! ## Reading options -/

/-- The argument is an option, and its value is not attached to it. -/
def Means (arg : String) (option : RunOption) : Prop :=
  ∃ spelling, Argument.ofString arg = .switch spelling none ∧
    RunOption.spellings.lookup spelling = some option

variable {order : RunOrder} {arg : String} {option : RunOption} {args : List String}

theorem read_flag (h : Means arg option) (flag : option.takesValue = false) :
    order.read (arg :: args) = (order.give "" option).bind (read · args) := by
  obtain ⟨spelling, written, known⟩ := h
  cases args <;> simp [read, written, known, flag]

theorem read_setting (h : Means arg option) (setting : option.takesValue = true) (value : String) :
    order.read (arg :: value :: args) = (order.give value option).bind (read · args) := by
  obtain ⟨spelling, written, known⟩ := h
  simp [read, written, known, setting]

/-- An option that is given once for each item of a list. -/
theorem read_each {α : Type} {write : α → String} {put : RunOrder → α → RunOrder} {items : List α}
    (h : Means arg option) (setting : option.takesValue = true)
    (gives : ∀ order, ∀ a ∈ items, give order (write a) option = some (put order a)) :
    order.read (Arguments.each arg (items.map write) ++ args) =
      (items.foldl put order).read args := by
  induction items generalizing order with
  | nil => rfl
  | cons a items ih =>
    have first := gives order a List.mem_cons_self
    have rest : (put order a).read (Arguments.each arg (items.map write) ++ args) =
        (items.foldl put (put order a)).read args :=
      ih fun order a mem => gives order a (List.mem_cons_of_mem _ mem)
    simpa [Arguments.each, read_setting h setting, first] using rest

/-! ## Reading the arguments of a container -/

theorem give_ports (bindings : List PortBinding) :
    bindings.foldl (fun (order : RunOrder) b => { order with ports := order.ports ++ [b] }) order =
      { order with ports := order.ports ++ bindings } := by
  induction bindings generalizing order with
  | nil => simp
  | cons b bindings ih => simp [ih]

theorem give_aliases (aliases : List String) :
    aliases.foldl (fun (order : RunOrder) a =>
        { order with networkAliases := order.networkAliases ++ [a] }) order =
      { order with networkAliases := order.networkAliases ++ aliases } := by
  induction aliases generalizing order with
  | nil => simp
  | cons a aliases ih => simp [ih]

theorem give_env (entries : List (String × String)) :
    entries.foldl (fun (order : RunOrder) e => { order with env := order.env.insert e.1 e.2 })
        order =
      { order with env := order.env.update entries } := by
  induction entries generalizing order with
  | nil => rfl
  | cons e entries ih => exact ih

theorem read_hostname (hostname : Option String) :
    order.read (Arguments.each "--hostname" hostname.toList ++ args) =
      { order with hostname := hostname.or order.hostname }.read args := by
  have means : Means "--hostname" .hostname := ⟨.long "hostname", by decide +kernel, rfl⟩
  cases hostname with
  | none => rfl
  | some hostname => exact read_setting means rfl hostname

theorem read_aliases (aliases : List String) :
    order.read (Arguments.each "--network-alias" aliases ++ args) =
      { order with networkAliases := order.networkAliases ++ aliases }.read args := by
  have means : Means "--network-alias" .networkAlias :=
    ⟨.long "network-alias", by decide +kernel, rfl⟩
  have each : order.read (Arguments.each "--network-alias" (aliases.map id) ++ args) =
      (aliases.foldl (fun (order : RunOrder) a =>
        { order with networkAliases := order.networkAliases ++ [a] }) order).read args :=
    read_each means rfl fun _ _ _ => rfl
  rwa [List.map_id, give_aliases] at each

theorem read_firstNetwork (spec : ContainerSpec) :
    order.read (Arguments.firstNetwork spec ++ args) =
      { order with
        networks := order.networks ++ spec.networks.take 1
        networkAliases := order.networkAliases ++
          if spec.networks = [] then [] else spec.networkAliases }.read args := by
  have means : Means "--network" .network := ⟨.long "network", by decide +kernel, rfl⟩
  unfold Arguments.firstNetwork
  split
  · next first others networks =>
    calc
      _ = { order with networks := order.networks ++ [first] }.read
          (Arguments.each "--network-alias" spec.networkAliases ++ args) :=
        read_setting means rfl first
      _ = _ := by simp [read_aliases, networks]
  · next networks => simp [networks]

theorem read_autoRemove (enabled : Bool) :
    order.read ((if enabled then ["--rm"] else []) ++ args) =
      { order with autoRemove := enabled || order.autoRemove }.read args := by
  have means : Means "--rm" .remove := ⟨.long "rm", by decide +kernel, rfl⟩
  cases enabled with
  | false => rfl
  | true => exact read_flag means rfl

theorem read_ports (bindings : List PortBinding) :
    order.read (Arguments.each "-p" (bindings.map Arguments.published) ++ args) =
      { order with ports := order.ports ++ bindings }.read args := by
  have means : Means "-p" .publish := ⟨.short 'p', by decide +kernel, rfl⟩
  rw [← give_ports]
  exact read_each means rfl fun order b _ => by simp [give, binding?_published]

theorem read_env {entries : List (String × String)} (h : ∀ e ∈ entries, '=' ∉ e.1.toList) :
    order.read (Arguments.each "-e" (entries.map Arguments.assignment) ++ args) =
      { order with env := order.env.update entries }.read args := by
  have means : Means "-e" .env := ⟨.short 'e', by decide +kernel, rfl⟩
  rw [← give_env]
  exact read_each means rfl fun order e mem => by simp [give, assigned?_assignment (h e mem)]

/-- What does not begin with a dash is no option. -/
theorem read_image {image : String} (h : image.toList.head? ≠ some '-') (cmd : List String) :
    order.read (image :: cmd) = some { order with image := image, cmd := cmd } := by
  have name : Argument.ofString image = .name image := by
    unfold Argument.ofString
    split <;> simp_all
  simp [read, name, launch]

end RunOrder

/-- The image cannot be taken for an option, and each name of a variable ends at the first `=`. -/
structure Legible (spec : ContainerSpec) : Prop where
  image : spec.image.toList.head? ≠ some '-'
  env : ∀ entry ∈ spec.env.entries, '=' ∉ entry.1.toList

theorem RunOrder.ofArguments?_run {spec : ContainerSpec} (h : Legible spec) :
    ofArguments? (Arguments.run spec) = some (ofSpec spec) := by
  have detach : Means "-d" .detach := ⟨.short 'd', by decide +kernel, rfl⟩
  have name : Means "--name" .name := ⟨.long "name", by decide +kernel, rfl⟩
  simp only [Arguments.run, List.append_assoc, List.cons_append, List.nil_append, ofArguments?]
  rw [read_flag detach rfl]
  simp only [give, Option.bind_some]
  rw [read_setting name rfl]
  simp only [give, Option.bind_some]
  rw [read_hostname, read_firstNetwork, read_autoRemove, read_ports, read_env h.env,
    read_image h.image]
  simp [ofSpec, Env.update_entries]

/-- The arguments that create a container are read back as what they say about it. So two containers
that are created with the same arguments differ at most in their further networks, and in aliases
that they have no network for. -/
theorem Arguments.run_loses_nothing :
    (∀ spec, Legible spec → RunOrder.ofArguments? (run spec) = some (RunOrder.ofSpec spec)) ∧
    ∀ s s' : ContainerSpec, Legible s → Legible s' → run s = run s' →
      s.name = s'.name ∧ s.hostname = s'.hostname ∧ s.networks.head? = s'.networks.head? ∧
      (s.networks ≠ [] → s.networkAliases = s'.networkAliases) ∧ s.autoRemove = s'.autoRemove ∧
      s.ports = s'.ports ∧ s.env = s'.env ∧ s.image = s'.image ∧ s.cmd = s'.cmd := by
  refine ⟨fun spec h => RunOrder.ofArguments?_run h, fun s s' h h' same => ?_⟩
  have read : RunOrder.ofSpec s = RunOrder.ofSpec s' := by
    have orders := RunOrder.ofArguments?_run h
    rw [same, RunOrder.ofArguments?_run h'] at orders
    exact (Option.some.inj orders).symm
  simp only [RunOrder.ofSpec, RunOrder.mk.injEq, Option.some.injEq, List.take_one] at read
  obtain ⟨-, name, hostname, network, aliases, autoRemove, ports, env, image, cmd⟩ := read
  -- Of the networks only the first one is written, and the aliases only where there is one.
  have first : s.networks.head? = s'.networks.head? := by
    cases networks : s.networks <;> cases networks' : s'.networks <;> simp_all
  refine ⟨name, hostname, first, fun joined => ?_, autoRemove, ports, env, image, cmd⟩
  have joined' : s'.networks ≠ [] := by
    simpa [← List.head?_eq_none_iff, ← first] using joined
  simpa [joined, joined'] using aliases

/-- Without a legible image or legible names of variables, arguments are ambiguous. -/
example :
    Arguments.run { name := "t", image := "--rm", cmd := ["redis"] } =
        Arguments.run { name := "t", image := "redis", autoRemove := true } ∧
      Arguments.run { name := "t", image := "redis", env := .ofList [("A=B", "C")] } =
        Arguments.run { name := "t", image := "redis", env := .ofList [("A", "B=C")] } := by
  decide +kernel

/-- A container whose values look like options. -/
def deceptiveSpec : ContainerSpec where
  name := "--rm"
  image := "redis:7"
  hostname := some "-e"
  ports := [⟨some 8080, 80⟩, ⟨none, 443⟩]
  env := .ofList [("A", "b=c"), ("", "--")]
  networks := ["--name", "b"]
  networkAliases := ["-p", "--", ""]
  autoRemove := true
  cmd := ["--name", "-d"]

/-- The same container, but for a network that its arguments do not name. -/
def deceptiveTwin : ContainerSpec := { deceptiveSpec with networks := ["--name", "c"] }

theorem deceptive_arguments_lose_nothing :
    Legible deceptiveSpec ∧ Legible deceptiveTwin ∧
    Arguments.run deceptiveSpec = ["run", "-d", "--name", "--rm", "--hostname", "-e", "--network",
      "--name", "--network-alias", "-p", "--network-alias", "--", "--network-alias", "", "--rm",
      "-p", "8080:80", "-p", "443", "-e", "=--", "-e", "A=b=c", "redis:7", "--name", "-d"] ∧
    RunOrder.ofArguments? (Arguments.run deceptiveSpec) = some (RunOrder.ofSpec deceptiveSpec) ∧
    Arguments.run deceptiveSpec = Arguments.run deceptiveTwin ∧
    deceptiveSpec.networks.head? = deceptiveTwin.networks.head? ∧
    deceptiveSpec.env = deceptiveTwin.env ∧ deceptiveSpec.cmd = deceptiveTwin.cmd := by
  have legible : Legible deceptiveSpec := ⟨by decide +kernel, by decide +kernel⟩
  have legible' : Legible deceptiveTwin := ⟨legible.image, legible.env⟩
  have same : Arguments.run deceptiveSpec = Arguments.run deceptiveTwin := by decide +kernel
  obtain ⟨reads, injective⟩ := Arguments.run_loses_nothing
  obtain ⟨-, -, network, -, -, -, env, -, cmd⟩ := injective _ _ legible legible' same
  exact ⟨legible, legible', by decide +kernel, reads _ legible, same, network, env, cmd⟩

end Docker

end Testbed
