import ShapeCheck.Proofs.LogLevels

/-!
# The threshold is settled once

A process configures the log, asks which severities are written, logs entries and makes requests
that may log on their way, in any order and from a threshold that is not settled.  The first step
that needs the threshold settles it: a configuration, a question, or the first entry that somebody
tries to log, even if it is then dropped.  Everything before and after agrees with that.

* `Process.consoleAfter_of_resolved` and `Process.consoleAfter_of_unresolved`: what one action does
  to the log.
* `Process.Coherent`: the invariant that holds between the steps of a process and its log, kept by
  every action.
* `Process.threshold_settles_once`: what holds after all sequences of actions.
-/

namespace ShapeCheck

/-- What a process does to the log, directly or by a request. -/
inductive Action where
  | configure (wanted : LogConfig)
  /-- Asks whether entries of a severity are written. -/
  | ask (severity : Severity)
  | log (entry : LogEntry)
  | request (request : Request)

/-- What an action gives back. -/
inductive ActionResult where
  | configured (outcome : Except LogConfigError Unit)
  | answered (enabled : Bool)
  | logged
  | responded (response : Response)

/-- The configuration in force when an action settles the threshold. -/
def Action.settled (environment : Option String) : Action → LogConfig
  | configure wanted => wanted
  | ask _ | log _ | request _ => .ofEnvironment environment

/-- An action that has been taken. -/
structure LogStep where
  action : Action
  result : ActionResult
  /-- The entries that it tried to log, whether or not they were written. -/
  attempted : List LogEntry

namespace LogStep

/-- Whether a step needs the threshold: a request does only if it tries to log something. -/
def resolves (step : LogStep) : Bool :=
  match step.action with
  | .configure _ | .ask _ => true
  | .log _ | .request _ => !step.attempted.isEmpty

/-- Whether a step is a configuration that was accepted. -/
def configures (step : LogStep) : Bool :=
  match step.action, step.result with
  | .configure _, .configured (.ok ()) => true
  | _, _ => false

/-- A step that does not need the threshold tries to log nothing. -/
theorem attempted_eq_nil {step : LogStep} (h : step.resolves = false) :
    step.attempted = [] := by
  obtain ⟨action, result, attempted⟩ := step
  cases action with
  | configure | ask => cases h
  | log | request => simpa [resolves] using h

theorem exists_wanted_of_configures {step : LogStep} (h : step.configures = true) :
    ∃ wanted, step.action = .configure wanted := by
  obtain ⟨action, result, attempted⟩ := step
  cases action with
  | configure wanted => exact ⟨wanted, rfl⟩
  | ask | log | request => cases h

theorem resolves_of_configures {step : LogStep} (h : step.configures = true) :
    step.resolves = true := by
  obtain ⟨wanted, haction⟩ := exists_wanted_of_configures h
  rw [resolves, haction]

end LogStep

/-- A process: the steps that it has taken, its failure logs, and the console. -/
structure Process where
  steps : List LogStep
  logs : Nat → FailureLog
  console : Console

namespace Process

/-- A process that has done nothing yet. -/
def start (logs : Nat → FailureLog) : Process :=
  ⟨[], logs, ⟨.unresolved, []⟩⟩

/-- The entries that an action tries to log. -/
def attempts (p : Process) : Action → List LogEntry
  | .configure _ | .ask _ => []
  | .log entry => [entry]
  | .request request => (request.answerIn Logged p.logs).entries

/-- What an action gives back. -/
def result (environment : Option String) (p : Process) : Action → ActionResult
  | .configure wanted => .configured ((p.console.threshold.configure wanted).map fun _ => ())
  | .ask severity => .answered (p.console.ask environment severity).1
  | .log _ => .logged
  | .request request =>
      .responded (request.answerIn Ambient p.logs environment p.console).1.1

/-- The failure logs after an action. -/
def logsAfter (environment : Option String) (p : Process) : Action → Nat → FailureLog
  | .configure _ | .ask _ | .log _ => p.logs
  | .request request => (request.answerIn Ambient p.logs environment p.console).1.2

/-- The console after an action. -/
def consoleAfter (environment : Option String) (p : Process) : Action → Console
  | .configure wanted =>
      match p.console.threshold.configure wanted with
      | .ok threshold => { p.console with threshold := threshold }
      | .error _ => p.console
  | .ask severity => (p.console.ask environment severity).2
  | .log entry => p.console.log environment entry
  | .request request => (request.answerIn Ambient p.logs environment p.console).2

/-- The step that an action is. -/
def step (environment : Option String) (p : Process) (action : Action) : LogStep :=
  ⟨action, p.result environment action, p.attempts action⟩

/-- The process after an action. -/
def act (environment : Option String) (p : Process) (action : Action) : Process :=
  { steps := p.steps ++ [p.step environment action]
    logs := p.logsAfter environment action
    console := p.consoleAfter environment action }

/-- The process after some actions. -/
def run (environment : Option String) (actions : List Action) (p : Process) : Process :=
  actions.foldl (act environment) p

/-- The configuration that decides what is written: the one in force, or the one that would be. -/
def config (environment : Option String) (p : Process) : LogConfig :=
  p.console.threshold.config environment

section Actions

variable {environment : Option String} {p : Process} {config : LogConfig}

/-- A settled threshold stays, and decides what is written. -/
theorem consoleAfter_of_resolved
    (h : p.console.threshold = .resolved config) (action : Action) :
    p.consoleAfter environment action =
      ⟨.resolved config, p.console.written ++ config.filter (p.attempts action)⟩ := by
  cases action with
  | configure wanted =>
      simp [consoleAfter, attempts, h, Threshold.configure, LogConfig.filter, Console.ext_iff]
  | ask severity =>
      simp [consoleAfter, attempts, h, Console.ask, Threshold.enabled, Threshold.resolve,
        Threshold.config, LogConfig.filter]
  | log entry =>
      change p.console.logAll environment [entry] = _
      exact Console.logAll_of_resolved h
  | request request =>
      rw [consoleAfter, request.answerIn_ambient]
      exact Console.logAll_of_resolved h

/-- A threshold that is not settled is settled by the first action that needs it. -/
theorem consoleAfter_of_unresolved
    (h : p.console.threshold = .unresolved) (action : Action) :
    p.consoleAfter environment action =
      if (p.step environment action).resolves = true then
        ⟨.resolved (action.settled environment),
          p.console.written ++ (action.settled environment).filter (p.attempts action)⟩
      else p.console := by
  cases action with
  | configure wanted =>
      simp [consoleAfter, attempts, h, Threshold.configure, LogConfig.filter,
        LogStep.resolves, step, Action.settled]
  | ask severity =>
      simp [consoleAfter, attempts, h, Console.ask, Threshold.enabled, Threshold.resolve,
        Threshold.config, LogConfig.filter, LogStep.resolves, step, Action.settled]
  | log entry =>
      simp [consoleAfter, attempts, h, Console.log_eq, Threshold.config, LogStep.resolves, step,
        Action.settled]
  | request request =>
      rw [consoleAfter, request.answerIn_ambient, Logged.replay_apply, Console.logAll_eq_write, h]
      cases hentries : (request.answerIn Logged p.logs).entries <;>
        simp [attempts, hentries, h, Threshold.write, Threshold.resolve, Threshold.config,
          LogConfig.filter, LogStep.resolves, step, Action.settled, Console.ext_iff]

end Actions

/-- A configuration is accepted when the threshold is not settled yet. -/
theorem configures_step_iff
    {environment : Option String} {p : Process} {wanted : LogConfig} :
    (p.step environment (.configure wanted)).configures = true ↔
      p.console.threshold = .unresolved := by
  cases h : p.console.threshold with
  | unresolved => simp [step, result, LogStep.configures, h, Threshold.configure, Except.map]
  | resolved config => simp [step, result, LogStep.configures, h, Threshold.configure, Except.map]

/-- The threshold that the first step which needs one settles. -/
def settledBy (environment : Option String) (steps : List LogStep) : Threshold :=
  match steps.find? LogStep.resolves with
  | some step => .resolved (step.action.settled environment)
  | none => .unresolved

section SettledBy

variable {environment : Option String} {steps : List LogStep}

theorem settledBy_eq_unresolved_iff :
    settledBy environment steps = .unresolved ↔ ∀ step ∈ steps, step.resolves = false := by
  rw [settledBy]
  cases h : steps.find? LogStep.resolves with
  | none => simpa using h
  | some step =>
      have hstep := List.find?_some h
      have hmem := List.mem_of_find?_eq_some h
      simp only [reduceCtorEq, false_iff, not_forall]
      exact ⟨step, hmem, by simp [hstep]⟩

/-- Once the threshold is settled, no later step counts. -/
theorem settledBy_append_of_resolved
    {config : LogConfig} (h : settledBy environment steps = .resolved config)
    (later : List LogStep) :
    settledBy environment (steps ++ later) = .resolved config := by
  rw [settledBy] at h ⊢
  rw [List.find?_append]
  cases hfind : steps.find? LogStep.resolves with
  | none =>
      rw [hfind] at h
      cases h
  | some step =>
      rw [hfind] at h
      exact h

theorem settledBy_append_of_unresolved
    (h : settledBy environment steps = .unresolved) (step : LogStep) :
    settledBy environment (steps ++ [step]) =
      if step.resolves = true then .resolved (step.action.settled environment)
      else .unresolved := by
  have hquiet : steps.find? LogStep.resolves = none :=
    List.find?_eq_none.mpr fun earlier hearlier => by
      simp [settledBy_eq_unresolved_iff.mp h earlier hearlier]
  rw [settledBy, List.find?_append, hquiet]
  cases hstep : step.resolves <;> simp [hstep]

end SettledBy

/-- What holds between the steps of a process and its log. -/
structure Coherent (environment : Option String) (p : Process) : Prop where
  threshold : p.console.threshold = settledBy environment p.steps
  configured : ∀ before step after wanted,
    p.steps = before ++ step :: after → step.action = .configure wanted →
    (step.configures = true ↔ ∀ earlier ∈ before, earlier.resolves = false)
  answered : ∀ step ∈ p.steps, ∀ severity, step.action = .ask severity →
    step.result = .answered ((p.config environment).admits severity)
  written : p.console.written =
    (p.config environment).filter (p.steps.flatMap LogStep.attempted)

theorem Coherent.start (environment : Option String) (logs : Nat → FailureLog) :
    Coherent environment (start logs) where
  threshold := rfl
  configured before step after _ hsplit _ := by
    cases before <;> cases hsplit
  answered _ hstep := by
    cases hstep
  written := rfl

section Coherent

variable {environment : Option String} {p : Process} (h : p.Coherent environment)
include h

theorem Coherent.threshold_act (action : Action) :
    (p.act environment action).console.threshold =
      settledBy environment (p.act environment action).steps := by
  have hsettled := h.threshold
  cases hthreshold : p.console.threshold with
  | resolved config =>
      rw [hthreshold] at hsettled
      rw [act, consoleAfter_of_resolved hthreshold, settledBy_append_of_resolved hsettled.symm]
  | unresolved =>
      rw [hthreshold] at hsettled
      rw [act, consoleAfter_of_unresolved hthreshold, settledBy_append_of_unresolved hsettled.symm]
      cases (p.step environment action).resolves with
      | true => rfl
      | false => exact hthreshold

/-- A configuration is accepted when no step before it needs the threshold. -/
theorem Coherent.configured_act
    {action : Action} {before after : List LogStep} {step : LogStep} {wanted : LogConfig}
    (hsplit : (p.act environment action).steps = before ++ step :: after)
    (hstep : step.action = .configure wanted) :
    step.configures = true ↔ ∀ earlier ∈ before, earlier.resolves = false := by
  rcases after.eq_nil_or_concat with rfl | ⟨after, last, rfl⟩
  · obtain ⟨rfl, hlast⟩ := List.append_inj' hsplit rfl
    obtain rfl := List.singleton_inj.mp hlast
    obtain rfl : action = .configure wanted := hstep
    rw [configures_step_iff, h.threshold, settledBy_eq_unresolved_iff]
  · have hinit : p.steps = before ++ step :: after := by
      rw [List.concat_eq_append, ← List.cons_append, ← List.append_assoc] at hsplit
      exact (List.append_inj' hsplit rfl).1
    exact h.configured _ _ _ _ hinit hstep

/-- The configuration in force changes only while no step has needed it. -/
theorem Coherent.config_act (action : Action) :
    (p.act environment action).config environment = p.config environment ∨
      ∀ step ∈ p.steps, step.resolves = false := by
  cases hthreshold : p.console.threshold with
  | resolved config =>
      left
      rw [Process.config, Process.config, act, consoleAfter_of_resolved hthreshold, hthreshold]
  | unresolved =>
      right
      exact settledBy_eq_unresolved_iff.mp (h.threshold.symm.trans hthreshold)

theorem Coherent.answered_act
    {action : Action} {step : LogStep} (hmem : step ∈ (p.act environment action).steps)
    {severity : Severity} (hstep : step.action = .ask severity) :
    step.result = .answered (((p.act environment action).config environment).admits severity) := by
  rcases List.mem_append.mp hmem with hmem | hmem
  · rcases h.config_act action with hconfig | hquiet
    · rw [hconfig]
      exact h.answered step hmem severity hstep
    · have hresolves : step.resolves = true := by
        rw [LogStep.resolves, hstep]
      exact absurd (hresolves.symm.trans (hquiet step hmem)) (by simp)
  · obtain rfl := List.mem_singleton.mp hmem
    obtain rfl : action = .ask severity := hstep
    rfl

theorem Coherent.written_act (action : Action) :
    (p.act environment action).console.written =
      ((p.act environment action).config environment).filter
        ((p.act environment action).steps.flatMap LogStep.attempted) := by
  have hbefore : p.console.written =
      ((p.act environment action).config environment).filter
        (p.steps.flatMap LogStep.attempted) := by
    -- Where the action settles the threshold, nobody has tried to log anything before.
    rcases h.config_act action with hconfig | hquiet
    · rw [hconfig]
      exact h.written
    · have hnone : p.steps.flatMap LogStep.attempted = [] :=
        List.flatMap_eq_nil_iff.mpr fun step hstep => LogStep.attempted_eq_nil (hquiet step hstep)
      rw [h.written, hnone]
      rfl
  have hafter : (p.act environment action).console.written =
      p.console.written ++
        ((p.act environment action).config environment).filter (p.attempts action) := by
    cases hthreshold : p.console.threshold with
    | resolved config =>
        rw [Process.config, act, consoleAfter_of_resolved hthreshold, Threshold.config]
    | unresolved =>
        rw [Process.config, act, consoleAfter_of_unresolved hthreshold]
        cases hresolves : (p.step environment action).resolves with
        | true => rfl
        | false =>
            have hnone : p.attempts action = [] := LogStep.attempted_eq_nil hresolves
            rw [hnone]
            exact (List.append_nil _).symm
  rw [hafter, hbefore, ← LogConfig.filter_append, act, List.flatMap_append]
  simp [step]

/-- Every action keeps the process coherent. -/
theorem Coherent.act (action : Action) : (p.act environment action).Coherent environment where
  threshold := h.threshold_act action
  configured _ _ _ _ hsplit hstep := h.configured_act hsplit hstep
  answered _ hmem _ hstep := h.answered_act hmem hstep
  written := h.written_act action

/-- All actions together do. -/
theorem Coherent.run (actions : List Action) :
    (p.run environment actions).Coherent environment := by
  induction actions generalizing p with
  | nil => exact h
  | cons action rest ih => exact ih (h.act action)

/-- At most one configuration is accepted. -/
theorem Coherent.length_filter_configures_le :
    (p.steps.filter LogStep.configures).length ≤ 1 := by
  by_contra hmany
  obtain ⟨first, second, more, hfilter⟩ :
      ∃ first second more, p.steps.filter LogStep.configures = first :: second :: more := by
    match hfilter : p.steps.filter LogStep.configures with
    | [] | [_] => simp [hfilter] at hmany
    | first :: second :: more => exact ⟨first, second, more, rfl⟩
  obtain ⟨before, rest, hsteps, -, hfirst, hrest⟩ := List.filter_eq_cons_iff.mp hfilter
  obtain ⟨between, after, rfl, -, hsecond, -⟩ := List.filter_eq_cons_iff.mp hrest
  obtain ⟨wanted, haction⟩ := LogStep.exists_wanted_of_configures hsecond
  -- The second one comes after the first, which has settled the threshold.
  have hquiet := (h.configured (before ++ first :: between) second after wanted
    (by simp [hsteps]) haction).mp hsecond first (by simp)
  exact absurd ((LogStep.resolves_of_configures hfirst).symm.trans hquiet) (by simp)

end Coherent

/-- Every action is a step, in order. -/
theorem map_action_run (environment : Option String) (actions : List Action) (p : Process) :
    (p.run environment actions).steps.map LogStep.action =
      p.steps.map LogStep.action ++ actions := by
  induction actions generalizing p with
  | nil =>
      exact (List.append_nil _).symm
  | cons action rest ih =>
      rw [List.append_cons]
      exact (ih (p.act environment action)).trans (by simp [act, step])

/-- A process only adds to the steps that it has taken. -/
theorem exists_steps_run (environment : Option String) (actions : List Action) (p : Process) :
    ∃ later, (p.run environment actions).steps = p.steps ++ later := by
  induction actions generalizing p with
  | nil =>
      exact ⟨[], (List.append_nil _).symm⟩
  | cons action rest ih =>
      obtain ⟨later, hlater⟩ := ih (p.act environment action)
      exact ⟨p.step environment action :: later, by rw [List.append_cons]; exact hlater⟩

end Process

/-- What the environment says: a level, or off or none; anything else counts as no value. -/
theorem LogConfig.ofEnvironment_eq (environment : Option String) :
    LogConfig.ofEnvironment environment =
      match environment with
      | none => ⟨some .warn⟩
      | some raw =>
          let level := (Text.trim raw).map Char.toLower
          if level = "off" ∨ level = "none" then ⟨none⟩
          else ⟨some ((Severity.parse (Text.trim raw)).getD .warn)⟩ := by
  cases environment with
  | none => rfl
  | some raw =>
      by_cases hoff : (Text.trim raw).map Char.toLower = "off" ∨
          (Text.trim raw).map Char.toLower = "none"
      · simp only [ofEnvironment, Option.map_some, ofVariable, if_pos hoff, off]
      · simp only [ofEnvironment, Option.map_some, ofVariable, if_neg hoff]
        cases Severity.parse (Text.trim raw) <;> rfl

namespace Process

/-- The threshold is settled once.  After all sequences of actions of a process whose threshold was
not settled, at most one configuration has been accepted, and each of them exactly when no step
before it needed the threshold.  The first step that does settles it, to what it configures or to
what the environment says, and it stays so.  A configuration that is refused changes nothing.  All
answers to questions and all written lines agree with the one threshold, which lets graver entries
through whenever it does lesser ones. -/
theorem threshold_settles_once
    (environment : Option String) (logs : Nat → FailureLog) (actions : List Action) :
    let p := (start logs).run environment actions
    let fromEnvironment : LogConfig :=
      match environment with
      | none => ⟨some .warn⟩
      | some raw =>
          let level := (Text.trim raw).map Char.toLower
          if level = "off" ∨ level = "none" then ⟨none⟩
          else ⟨some ((Severity.parse (Text.trim raw)).getD .warn)⟩
    (p.steps.map LogStep.action = actions ∧ (p.steps.filter LogStep.configures).length ≤ 1) ∧
    (∀ before step after wanted,
      p.steps = before ++ step :: after → step.action = .configure wanted →
      (step.configures = true ↔ ∀ earlier ∈ before, earlier.resolves = false)) ∧
    p.console.threshold =
      (match p.steps.find? LogStep.resolves with
      | none => .unresolved
      | some ⟨.configure wanted, _, _⟩ => .resolved wanted
      | some _ => .resolved fromEnvironment) ∧
    (∀ config, p.console.threshold = .resolved config →
      ∀ more, (p.run environment more).console.threshold = .resolved config) ∧
    (∀ wanted, (p.step environment (.configure wanted)).configures = false →
      (p.act environment (.configure wanted)).logs = p.logs ∧
        (p.act environment (.configure wanted)).console = p.console) ∧
    ((∀ step ∈ p.steps, ∀ severity, step.action = .ask severity →
      step.result = .answered ((p.config environment).admits severity)) ∧
      p.console.written =
        (p.config environment).filter (p.steps.flatMap LogStep.attempted)) ∧
    ∀ s t : Severity, s.rank ≤ t.rank →
      (p.config environment).admits s = true → (p.config environment).admits t = true := by
  intro p fromEnvironment
  have h : p.Coherent environment := (Coherent.start environment logs).run actions
  refine ⟨⟨map_action_run environment actions _, h.length_filter_configures_le⟩, h.configured,
    ?_, ?_, ?_, ⟨h.answered, h.written⟩, fun s t hle => LogConfig.admits_mono hle⟩
  · rw [h.threshold, settledBy]
    rcases p.steps.find? LogStep.resolves with _ | ⟨_ | _ | _ | _, result, attempted⟩
    case none => rfl
    case some.configure => rfl
    all_goals exact congrArg Threshold.resolved (LogConfig.ofEnvironment_eq environment)
  · intro config hconfig more
    obtain ⟨later, hlater⟩ := exists_steps_run environment more p
    rw [(h.run more).threshold, hlater]
    exact settledBy_append_of_resolved (h.threshold.symm.trans hconfig) later
  · intro wanted hrefused
    refine ⟨rfl, ?_⟩
    cases hthreshold : p.console.threshold with
    | unresolved =>
        exact absurd (hrefused.symm.trans (configures_step_iff.mpr hthreshold)) (by simp)
    | resolved config =>
        simp [act, consoleAfter, hthreshold, Threshold.configure]

/-- An entry that is dropped settles the threshold as the environment says, and the configuration
behind it is refused; a batch that logs nothing leaves it open, and the configuration behind it is
accepted. -/
theorem threshold_settles_once_around_entry :
    let quiet : Action :=
      .request (.run [("a", .checker .any false)] ⟨.object 0 none [], "prop", none⟩)
    let dropped : Action := .log ⟨.info, .failureReported, []⟩
    let late := (start fun _ => .empty).run (some " Error ") [quiet, dropped, .configure .trace]
    let early := (start fun _ => .empty).run (some " Error ") [quiet, .configure .trace, dropped]
    (∃ before step, late.steps = before ++ [step] ∧ step.action = .configure .trace ∧
        step.configures = false) ∧
      (∀ more, (late.run (some " Error ") more).console.threshold = .resolved ⟨some .error⟩) ∧
      late.console.written = [] ∧
      (∃ before step after, early.steps = before ++ step :: after ∧
        step.action = .configure .trace ∧ step.configures = true) ∧
      (∀ more, (early.run (some " Error ") more).console.threshold = .resolved .trace) ∧
      early.console.written = [⟨.info, .failureReported, []⟩] := by
  intro quiet dropped late early
  obtain ⟨-, hlate, -, hlateStays, -⟩ :=
    threshold_settles_once (some " Error ") (fun _ => .empty) [quiet, dropped, .configure .trace]
  obtain ⟨-, hearly, -, hearlyStays, -⟩ :=
    threshold_settles_once (some " Error ") (fun _ => .empty) [quiet, .configure .trace, dropped]
  refine ⟨⟨[_, _], _, rfl, rfl, ?_⟩, hlateStays _ (by decide +kernel), by decide +kernel,
    ⟨[_], _, [_], rfl, rfl, ?_⟩, hearlyStays _ (by decide +kernel), by decide +kernel⟩
  · rw [← Bool.not_eq_true, hlate [_, _] _ [] .trace rfl rfl]
    decide
  · rw [hearly [_] _ [_] .trace rfl rfl]
    decide

end Process
end ShapeCheck
