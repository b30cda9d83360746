import Testbed.Proofs.Atomicity

/-!
# Errors that say what does not exist

An error says that something does not exist only if a client has said so on standard error. That
client has failed, except that a command in a container may say so whether it fails or not: its
client exits with the code of the command, and what the command has written is read like what the
client has written.
-/

namespace Testbed

/-- The error of a reply that is one. -/
def Engine.Request.error? : (r : Engine.Request) → Engine.Reply r → Option Error
  | .inspect _, .error e | .isRunning _, .error e | .run _ _, .error e | .mappedPort _ _, .error e
  | .exec _ _ _, .error e | .remove _, .error e | .createNetwork _ _, .error e
  | .networkExists _, .error e | .removeNetwork _, .error e | .pruneNetworks, .error e
  | .attachLogs _, .error e | .ping _ _ _, .error e => some e
  | _, _ => none

namespace Docker

/-- A client that fails has said that something does not exist, which is why `e` says so too. -/
def Config.Reports (config : Config) (t : List (Prog.Event Client.onSystem)) (e : Error) : Prop :=
  ∃ args c, ⟨args, .ok c⟩ ∈ runs t ∧ c.status.success = false ∧ saysNotFound c.errorText ∧
    e = .commandFailed (config.describe args) c.failureReason true

namespace Config

variable {config : Config} {ctx : Context} {args : List String} {e : Error}
  {t : List (Prog.Event Client.onSystem)}

theorem Ends.isNotFound_eq_false {started : List (List String)} {ended : List ClientRun}
    (h : config.Ends args started ended (.error e)) : e.isNotFound = false := by
  cases h <;> rfl

/-- Among the errors of a client, only one that it has written says that something does not
exist. -/
theorem Prints.reports {started : List (List String)} {ended : List ClientRun}
    (h : config.Prints args started ended (.error e)) (notFound : e.isNotFound)
    (sub : ended ⊆ runs t) : config.Reports t e := by
  cases h with
  | @failed c failure =>
    have said : saysNotFound c.errorText := notFound
    exact ⟨args, c, sub (List.mem_singleton_self _), failure, said, by rw [said]⟩
  | unended ends => simp [ends.isNotFound_eq_false] at notFound

theorem output_reports (h : Prog.Yields (config.output args).run t (.error e))
    (notFound : e.isNotFound) : config.Reports t e := by
  obtain ⟨outcome, prints, adds⟩ := output_yields none h
  exact prints.reports notFound (adds.runs_eq ▸ List.Subset.refl _)

theorem boundedOutput_reports (h : Prog.Yields (config.boundedOutput ctx args).run t (.error e))
    (notFound : e.isNotFound) : config.Reports t e := by
  obtain ⟨started, ended, prints, adds⟩ := boundedOutput_yields h
  exact prints.reports notFound (adds.runs_eq ▸ List.Subset.refl _)

theorem attempt_error {α : Type} {wrap : String → Error} {p : Call (Except String α)}
    (h : Prog.Yields (Client.attempt wrap p).run t (.error e)) : ∃ reason, e = wrap reason := by
  obtain ⟨_, _, reply, -, -, returns⟩ := Prog.yields_bind.1 h
  cases reply with
  | ok a => cases returns
  | error reason =>
    cases returns
    exact ⟨reason, rfl⟩

/-- A look-up that finds nothing does not fail. -/
theorem lookup_isNotFound_eq_false (h : Prog.Yields (config.lookup args).run t (.error e)) :
    e.isNotFound = false := by
  rcases Task.yields_bind_error h with fails | ⟨_, _, found, -, -, goesOn⟩
  · exact absurd fails Task.not_yields_outcome_error
  · cases found with
    | ok text => cases goesOn
    | error e' =>
      dsimp only at goesOn
      split at goesOn
      · cases goesOn
      · next known =>
        cases goesOn
        exact Bool.eq_false_iff.2 known

theorem run_reports {spec : ContainerSpec} (h : Prog.Yields (config.run ctx spec).run t (.error e))
    (notFound : e.isNotFound) : config.Reports t e := by
  rcases run_fails h with refused | ⟨before, network, after, s, u, v, networks, rfl, left⟩
  · exact boundedOutput_reports refused notFound
  · obtain ⟨-, prints, outcome, adds⟩ := left.accounts
    refine prints.reports notFound ?_
    rw [adds.runs_eq]
    exact List.Subset.trans (List.subset_append_left _ _) (List.subset_append_right _ _)

/-- What a command in a container comes to is told by its client, once that has ended. -/
theorem exec_yields {name : String} {cmd : List String} {r : Except Error ExecOutput}
    (h : Prog.Yields (config.exec ctx name cmd).run t r) :
    (∃ c, runs t = [⟨Arguments.exec name cmd, .ok c⟩] ∧
      r = c.execResult (config.describe (Arguments.exec name cmd))) ∨
    ∃ e, r = .error e ∧ e.isNotFound = false ∧ ∀ args c, ⟨args, .ok c⟩ ∉ runs t := by
  obtain ⟨_, _, result, rfl, bounded, reads⟩ := Prog.yields_bind.1 h
  obtain ⟨started, ended, ends, adds⟩ := bounded_yields bounded
  cases result with
  | error e =>
    cases reads
    rw [List.append_nil, adds.runs_eq]
    refine .inr ⟨e, rfl, ends.isNotFound_eq_false, fun args c hmem => ?_⟩
    cases ends <;> simp at hmem
  | ok c =>
    cases ends
    obtain ⟨rfl, rfl⟩ := result_yields reads
    rw [List.append_nil, adds.runs_eq]
    exact .inl ⟨c, rfl, rfl⟩

theorem exec_diverges {name : String} {cmd : List String}
    (h : Prog.Diverges (config.exec ctx name cmd).run t) :
    ∃ process, config.Hangs (Arguments.exec name cmd) process t := by
  rcases Task.diverges_bind h with early | ⟨_, _, c, -, -, reads⟩
  · exact bounded_diverges early
  · exact absurd reads (result_finishes _).not_diverges

/-! ## All requests -/

/-- An error that says that something does not exist is what a client has said. That client has
failed, or it was to run a command in a container. -/
theorem serve_notFound {r : Engine.Request} {reply : Engine.Reply r}
    (h : Prog.Yields (config.serve r) t reply) (error : r.error? reply = some e)
    (notFound : e.isNotFound) :
    config.Reports t e ∨ ∃ ctx name cmd c, r = .exec ctx name cmd ∧
      runs t = [⟨Arguments.exec name cmd, .ok c⟩] ∧ saysNotFound c.errorText ∧
      e = .commandFailed (config.describe (Arguments.exec name cmd)) (Text.trim c.errorText)
        true := by
  -- An error that is none of a client's own does not say so.
  have other {e' : Error} (own : e'.isNotFound = false) (same : e' = e) : config.Reports t e := by
    simp [← same, own] at notFound
  cases r with
  | available | host | isPortReady name host hostPort containerPort => cases error
  | inspect name =>
    obtain e' | _ := reply <;> cases error
    exact .inl (output_reports h notFound)
  | isRunning name | networkExists name =>
    obtain e' | _ := reply <;> cases error
    rcases Task.yields_bind_error h with fails | ⟨_, _, _, -, -, returns⟩
    · exact .inl (other (lookup_isNotFound_eq_false fails) rfl)
    · cases returns
  | run ctx spec =>
    obtain e' | _ := reply <;> cases error
    exact .inl (run_reports h notFound)
  | mappedPort name containerPort =>
    obtain e' | _ := reply <;> cases error
    rcases Task.yields_bind_error h with fails | ⟨_, _, text, rfl, -, parses⟩
    · exact .inl (output_reports fails notFound)
    · cases parsed : mappedPort? text <;> rw [parsed] at parses <;> cases parses
      exact .inl (other rfl rfl)
  | exec ctx name cmd =>
    obtain e' | _ := reply <;> cases error
    rcases exec_yields h with ⟨c, ran, fails⟩ | ⟨e', ⟨⟩, known, -⟩
    · -- What the client has written decides, and not whether it has failed.
      unfold Completion.execResult at fails
      split at fails <;> cases fails
      next said => exact .inr ⟨ctx, name, cmd, c, rfl, ran, said, rfl⟩
    · exact .inl (other known rfl)
  | remove name | removeNetwork name | pruneNetworks =>
    obtain e' | _ := reply <;> cases error
    obtain ⟨e' | _, fails, ⟨⟩⟩ := Task.yields_discard h
    exact .inl (output_reports fails notFound)
  | createNetwork ctx spec =>
    obtain e' | _ := reply <;> cases error
    obtain ⟨e' | _, fails, ⟨⟩⟩ := Task.yields_discard h
    exact .inl (boundedOutput_reports fails notFound)
  | attachLogs name =>
    obtain e' | _ := reply <;> cases error
    obtain ⟨reason, rfl⟩ := attempt_error h
    cases notFound
  | ping host port timeout =>
    obtain e' | _ := reply <;> cases error
    rcases Task.yields_bind_error h with fails | ⟨_, _, _, -, -, fails⟩ <;>
    · obtain ⟨reason, rfl⟩ := attempt_error fails
      cases notFound

/-- What is returned for a command in a container whose client has ended: that something does not
exist if standard error says so, and else how the client has ended and all that it has written. -/
theorem exec_reply {name : String} {cmd : List String} {reply : Except Error ExecOutput}
    {c : Completion} (h : Prog.Yields (config.exec ctx name cmd).run t reply)
    (ran : ⟨Arguments.exec name cmd, .ok c⟩ ∈ runs t) :
    (reply = .ok ⟨c.status.code?.getD (-1), c.outputText ++ c.errorText⟩ ↔
      saysNotFound c.errorText = false) ∧
    ((∃ e, reply = .error e ∧ e.isNotFound) ↔ saysNotFound c.errorText) := by
  rcases exec_yields h with ⟨c', ends, rfl⟩ | ⟨_, _, _, lost⟩
  · rw [ends, List.mem_singleton] at ran
    cases ran
    unfold Completion.execResult
    split
    · next said => simp [said, Error.isNotFound]
    · next silent => simp [silent]
  · exact absurd ran (lost _ c)

/-- An error says that something does not exist only if a client has said so. That client has
failed, or it ran a command in a container. For such a command it does not matter whether its client
has failed: the error is returned exactly if standard error says so, and otherwise the output is
returned, with the exit code. Nothing is returned only while the client does not end. -/
theorem not_found_is_what_a_client_says (config : Config) :
    (∀ r reply t e, Prog.Yields (config.serve r) t reply → r.error? reply = some e →
      e.isNotFound → config.Reports t e ∨ ∃ ctx name cmd c, r = .exec ctx name cmd ∧
        runs t = [⟨Arguments.exec name cmd, .ok c⟩] ∧ saysNotFound c.errorText ∧
        e = .commandFailed (config.describe (Arguments.exec name cmd)) (Text.trim c.errorText)
          true) ∧
    (∀ ctx name cmd t,
      (∀ reply c, Prog.Yields (config.serve (.exec ctx name cmd)) t reply →
        ⟨Arguments.exec name cmd, .ok c⟩ ∈ runs t →
        (reply = .ok ⟨c.status.code?.getD (-1), c.outputText ++ c.errorText⟩ ↔
          saysNotFound c.errorText = false) ∧
        ((∃ e, reply = .error e ∧ e.isNotFound) ↔ saysNotFound c.errorText)) ∧
      (Prog.Diverges (config.serve (.exec ctx name cmd)) t →
        ∃ process, config.Hangs (Arguments.exec name cmd) process t)) := by
  refine ⟨fun r reply t e h => serve_notFound h, fun ctx name cmd t => ⟨?_, exec_diverges⟩⟩
  intro reply c h ran
  exact exec_reply h ran

end Config

/-- How a client ends that exits with `code` and has written to standard error. -/
def Completion.complaint (code : UInt8) (stderr : String) : Completion :=
  ⟨.exited code, [], Text.Utf8.encode stderr⟩

/-- A client that ends in this way. -/
def complaining (code : UInt8) (stderr : String) :
    (r : Client.onSystem.Request) → Client.onSystem.Reply r
  | .inl (.execute _) => .ok (.complaint code stderr)
  | .inl (.poll _) => .ok (some (.complaint code stderr))
  | r => exiting (fun _ => some code) r

/-- The client that tells a shell to run what it does not know, and to go on. -/
def nonsense : List String := Arguments.exec "t1" ["sh", "-c", "nonsense; true"]

def runNonsense : Call (Except Error ExecOutput) :=
  ({} : Config).serve (.exec ⟨⟨0⟩, none⟩ "t1" ["sh", "-c", "nonsense; true"])

/-- A container that does not exist is not found, and a command that complains of something else
returns its complaint. -/
theorem other_complaint_is_returned :
    (∃ t e, Prog.Yields (({} : Config).serve (.inspect "t1")) t (.error e) ∧ e.isNotFound ∧
      Config.Reports {} t e) ∧
    (∃ t c, Prog.Yields runNonsense t (.ok ⟨0, "permission denied"⟩) ∧
      ⟨nonsense, .ok c⟩ ∈ runs t ∧ saysNotFound c.errorText = false) := by
  obtain ⟨notFound, exec⟩ := Config.not_found_is_what_a_client_says {}
  constructor
  · obtain ⟨e | _, known, yields⟩ := Prog.exists_yields_play
      (complaining 1 "Error: No such object: t1") (p := ({} : Config).serve (.inspect "t1"))
      (f := fun reply => (Engine.Request.error? (.inspect "t1") reply).map (·.isNotFound))
      (b := true) (by decide +kernel)
    · have known : e.isNotFound := Option.some.inj known
      refine ⟨_, e, yields, known, (notFound _ _ _ e yields rfl known).resolve_right ?_⟩
      rintro ⟨_, _, _, _, ⟨⟩, _⟩
    · cases known
  · have yields := Prog.yields_play (complaining 0 "permission denied") (p := runNonsense)
      (a := .ok ⟨0, "permission denied"⟩) (by decide +kernel)
    have ran : ⟨nonsense, .ok (.complaint 0 "permission denied")⟩ ∈
        runs (runNonsense.play (complaining 0 "permission denied")).1 := by decide +kernel
    refine ⟨_, _, yields, ran, ((exec _ _ _ _).1 _ _ yields ran).1.1 ?_⟩
    exact congrArg _ (by decide +kernel)

/-- A command may complain that something was not found and exit with 0. Then it seems that the
container does not exist. -/
theorem harmless_complaint_is_not_found :
    ∃ t e, Prog.Yields runNonsense t (.error e) ∧ e.isNotFound ∧
      runs t = [⟨nonsense, .ok (.complaint 0 "sh: 1: nonsense: not found")⟩] := by
  have yields := Prog.yields_play (complaining 0 "sh: 1: nonsense: not found") (p := runNonsense)
    (a := .error (.commandFailed "docker exec t1 sh -c nonsense; true" "sh: 1: nonsense: not found"
      true)) (by decide +kernel)
  exact ⟨_, _, yields, rfl, by decide +kernel⟩

end Docker

end Testbed
