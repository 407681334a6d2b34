import ShapeCheck.Log.Entry

/-!
# Computations that log

A computation that logs asks, for each entry, whether entries of its severity are written, and
writes it if they are.  Where the entries go, and who answers the question, is left to the logger.

One logger answers always yes and gives the entries back, in order, next to the result.

Main statements: `Logged` is a lawful monad, `value_bind`, `entries_bind` and `entries_log`.
-/

namespace ShapeCheck

universe u

/-- What a log call needs. -/
class Logger (m : Type → Type) where
  /-- Whether entries of a severity are written. -/
  enabled : Severity → m Bool
  write : LogEntry → m Unit

/-- A log call: the entry is written if entries of its severity are, and dropped otherwise. -/
def Logger.log {m : Type → Type} [Monad m] [Logger m]
    (severity : Severity) (event : Event) (fields : List (String × String)) : m Unit := do
  if ← enabled severity then
    write ⟨severity, event, fields⟩

/-- A result and the entries logged on the way to it. -/
@[ext] structure Logged (α : Type u) where
  value : α
  entries : List LogEntry

namespace Logged

variable {α β : Type u}

instance : Monad Logged where
  pure a := ⟨a, []⟩
  bind x f := ⟨(f x.value).value, x.entries ++ (f x.value).entries⟩

/-- The logger that keeps every entry. -/
instance : Logger Logged where
  enabled _ := ⟨true, []⟩
  write entry := ⟨(), [entry]⟩

/-- A log call to this logger, for callers that log on their own account. -/
def log (severity : Severity) (event : Event) (fields : List (String × String)) : Logged Unit :=
  Logger.log severity event fields

@[simp] theorem value_pure (a : α) :
    (pure a : Logged α).value = a := by
  rfl

@[simp] theorem entries_pure (a : α) :
    (pure a : Logged α).entries = [] := by
  rfl

@[simp] theorem value_bind
    (x : Logged α) (f : α → Logged β) :
    (x >>= f).value = (f x.value).value := by
  rfl

@[simp] theorem entries_bind
    (x : Logged α) (f : α → Logged β) :
    (x >>= f).entries = x.entries ++ (f x.value).entries := by
  rfl

@[simp] theorem entries_log
    (severity : Severity) (event : Event) (fields : List (String × String)) :
    (Logger.log severity event fields : Logged Unit).entries = [⟨severity, event, fields⟩] := by
  rfl

instance : LawfulMonad Logged :=
  LawfulMonad.mk' Logged
    (fun x => by
      show (⟨x.value, x.entries ++ []⟩ : Logged _) = x
      simp)
    (fun a f => by
      show (⟨(f a).value, [] ++ (f a).entries⟩ : Logged _) = f a
      simp)
    (fun x f g => by
      apply Logged.ext <;> simp)

end Logged
end ShapeCheck
