import ShapeCheck.Log.Logged
import ShapeCheck.Log.Threshold

/-!
# The console

What the log calls of a running program work on: the threshold, and the lines that have been
written.  Every call asks the threshold, which settles it, and then writes the entry or drops it.

Keeping the entries of a computation and logging them one by one afterwards comes to the same as
logging at once, as long as the computation does nothing with the logger but to log.

* `Console.logAll_of_resolved`: once the threshold is settled, log calls only write.
* `Console.logAll_eq_write`: asking the threshold entry by entry comes to what `Threshold.write`
  says of them all.
* `Logged.replay_bind`, `Logged.replay_log`: logging afterwards, step by step.
-/

namespace ShapeCheck

namespace LogConfig

theorem filter_append (config : LogConfig) (first second : List LogEntry) :
    config.filter (first ++ second) = config.filter first ++ config.filter second :=
  List.filter_append first second

end LogConfig

/-- The threshold, and the entries that have been written, each as one line. -/
@[ext] structure Console where
  threshold : Threshold
  written : List LogEntry

namespace Console

/-- Asks whether entries of a severity are written, which settles the threshold. -/
def ask (environment : Option String) (severity : Severity) (console : Console) : Bool × Console :=
  let answer := console.threshold.enabled environment severity
  (answer.1, { console with threshold := answer.2 })

def write (entry : LogEntry) (console : Console) : Console :=
  { console with written := console.written ++ [entry] }

/-- A log call: the threshold is asked, and then the entry is written or dropped. -/
def log (environment : Option String) (console : Console) (entry : LogEntry) : Console :=
  let asked := console.ask environment entry.severity
  if asked.1 then asked.2.write entry else asked.2

/-- Log calls one after the other. -/
def logAll (environment : Option String) (entries : List LogEntry) (console : Console) : Console :=
  entries.foldl (log environment) console

section LogCalls

variable {environment : Option String} {entries : List LogEntry} {console : Console}

theorem log_eq (entry : LogEntry) :
    console.log environment entry =
      { threshold := .resolved (console.threshold.config environment)
        written :=
          console.written ++ (console.threshold.config environment).filter [entry] } := by
  cases hadmits : (console.threshold.config environment).admits entry.severity <;>
    simp [log, ask, write, Threshold.enabled, Threshold.resolve, LogConfig.filter, hadmits]

@[simp] theorem logAll_nil :
    console.logAll environment [] = console := by
  rfl

theorem logAll_cons (entry : LogEntry) :
    console.logAll environment (entry :: entries) =
      (console.log environment entry).logAll environment entries := by
  rfl

theorem logAll_append (later : List LogEntry) :
    console.logAll environment (entries ++ later) =
      (console.logAll environment entries).logAll environment later :=
  List.foldl_append

/-- Once the threshold is settled, log calls only write. -/
theorem logAll_of_resolved
    {config : LogConfig} (h : console.threshold = .resolved config) :
    console.logAll environment entries =
      { threshold := .resolved config
        written := console.written ++ config.filter entries } := by
  induction entries generalizing console with
  | nil =>
      ext1
      · exact h
      · exact (List.append_nil _).symm
  | cons entry rest ih =>
      have hconfig : console.threshold.config environment = config := by
        rw [h]
        rfl
      have hfirst : (console.log environment entry).threshold = .resolved config := by
        rw [log_eq, hconfig]
      rw [logAll_cons, ih hfirst, log_eq, hconfig, List.append_assoc, ← LogConfig.filter_append,
        List.singleton_append]

/-- Asking the threshold entry by entry comes to what it says of them all. -/
theorem logAll_eq_write :
    console.logAll environment entries =
      { threshold := (console.threshold.write environment entries).2
        written := console.written ++ (console.threshold.write environment entries).1 } := by
  cases entries with
  | nil =>
      ext1
      · rfl
      · exact (List.append_nil _).symm
  | cons entry rest =>
      have hfirst :
          (console.log environment entry).threshold =
            .resolved (console.threshold.config environment) := by
        rw [log_eq]
      rw [logAll_cons, logAll_of_resolved hfirst, log_eq, List.append_assoc,
        ← LogConfig.filter_append, List.singleton_append]
      rfl

end LogCalls

end Console

/-- A computation whose log calls work on the console, in an environment that settles the threshold
when nothing else has. -/
def Ambient (α : Type) : Type :=
  (environment : Option String) → Console → α × Console

namespace Ambient

variable {α β : Type}

instance : Monad Ambient where
  pure a := fun _ console => (a, console)
  bind x f := fun environment console =>
    f (x environment console).1 environment (x environment console).2

instance : Logger Ambient where
  enabled severity := fun environment console => console.ask environment severity
  write entry := fun _ console => ((), console.write entry)

theorem bind_apply
    (x : Ambient α) (f : α → Ambient β) (environment : Option String) (console : Console) :
    (x >>= f) environment console =
      f (x environment console).1 environment (x environment console).2 := by
  rfl

/-- A log call works on the console. -/
theorem log_apply
    (severity : Severity) (event : Event) (fields : List (String × String))
    (environment : Option String) (console : Console) :
    (Logger.log severity event fields : Ambient Unit) environment console =
      ((), console.log environment ⟨severity, event, fields⟩) := by
  have hasked : (Logger.enabled severity : Ambient Bool) environment console =
      console.ask environment severity := rfl
  rw [Logger.log, bind_apply, hasked]
  cases h : (console.ask environment severity).1 with
  | true =>
      simp only [Console.log, h, if_true]
      rfl
  | false =>
      simp only [Console.log, h, if_neg Bool.false_ne_true]
      rfl

end Ambient

namespace Logged

variable {α β : Type}

/-- The computation that logs the entries that have been kept, one by one. -/
def replay (x : Logged α) : Ambient α :=
  fun environment console => (x.value, console.logAll environment x.entries)

theorem replay_apply (x : Logged α) (environment : Option String) (console : Console) :
    x.replay environment console = (x.value, console.logAll environment x.entries) := by
  rfl

@[simp] theorem replay_pure (a : α) :
    (pure a : Logged α).replay = pure a := by
  rfl

@[simp] theorem replay_bind (x : Logged α) (f : α → Logged β) :
    (x >>= f).replay = x.replay >>= fun a => (f a).replay := by
  funext environment console
  simp only [replay_apply, Ambient.bind_apply, value_bind, entries_bind, Console.logAll_append]

@[simp] theorem replay_log
    (severity : Severity) (event : Event) (fields : List (String × String)) :
    (Logger.log severity event fields : Logged Unit).replay = Logger.log severity event fields := by
  funext environment console
  rw [replay_apply, Ambient.log_apply, entries_log, Console.logAll_cons, Console.logAll_nil]

end Logged
end ShapeCheck
