import ShootMachines.Failure

/-!
# Traced runs

A run notes what happens on the way: messages of a log and the requests it sends. The notes never
decide anything, so the result of a run is that of its parts, run one after the other. The
statements on `result` say so for every way to build a run.
-/

namespace ShootMachines

/-- How important a message is. -/
inductive LogLevel where
  | info
  | debug
  deriving DecidableEq, Repr

/-- Whether a log that is kept down to a level shows a message of another level. -/
def LogLevel.shows : LogLevel → LogLevel → Bool
  | .debug, _ => true
  | .info, level => level = .info

/-- The level in words. -/
def LogLevel.name : LogLevel → String
  | .info => "INFO"
  | .debug => "DEBUG"

/-- Something that happens during a run. -/
inductive Event where
  | log (level : LogLevel) (message : String)
  | request (path : String)
  deriving DecidableEq, Repr

/-- The messages that a log shows, with their levels. -/
def Event.messages (kept : LogLevel) (events : List Event) : List (LogLevel × String) :=
  events.filterMap fun
    | .log level message => if kept.shows level then some (level, message) else none
    | .request _ => none

/-- A run: its events, in order, and how it ends. -/
structure Run (ε α : Type) where
  events : List Event
  result : Except ε α

/-- The runs of the library end with the same failures. -/
abbrev Traced := Run Failure

namespace Run

/-- A run without events. -/
def ofResult (result : Except ε α) : Run ε α := ⟨[], result⟩

/-- Run one step, then the next one with its value. -/
def andThen (first : Run ε α) (next : α → Run ε β) : Run ε β :=
  match first.result with
  | .ok value => ⟨first.events ++ (next value).events, (next value).result⟩
  | .error failure => ⟨first.events, .error failure⟩

instance : Monad (Run ε) where
  pure value := ofResult (.ok value)
  bind := andThen

instance : MonadLift (Except ε) (Run ε) := ⟨ofResult⟩

/-- Fail. -/
def fail (failure : ε) : Run ε α := ofResult (.error failure)

/-- Note an event. -/
def note (event : Event) : Run ε Unit := ⟨[event], .ok ()⟩

/-- Log a message on the course of a run. -/
def info (message : String) : Run ε Unit := note (.log .info message)

/-- Log a message for whoever looks for a fault. -/
def debug (message : String) : Run ε Unit := note (.log .debug message)

/-- The run with its failure changed. -/
def mapFailure (change : ε → ζ) (run : Run ε α) : Run ζ α :=
  ⟨run.events, run.result.mapError change⟩

@[simp]
theorem result_pure (value : α) : (pure value : Run ε α).result = .ok value := rfl

@[simp]
theorem result_bind (first : Run ε α) (next : α → Run ε β) :
    (first >>= next).result = first.result >>= fun value => (next value).result := by
  show (andThen first next).result = _
  unfold andThen
  cases first.result <;> rfl

@[simp]
theorem result_ofResult (result : Except ε α) : (ofResult result).result = result := rfl

@[simp]
theorem result_lift (result : Except ε α) : (liftM result : Run ε α).result = result := rfl

@[simp]
theorem result_monadLift (result : Except ε α) :
    (MonadLift.monadLift result : Run ε α).result = result := rfl

@[simp]
theorem result_fail (failure : ε) : (fail failure : Run ε α).result = .error failure := rfl

@[simp]
theorem result_info (message : String) : (info message : Run ε Unit).result = .ok () := rfl

@[simp]
theorem result_debug (message : String) : (debug message : Run ε Unit).result = .ok () := rfl

@[simp]
theorem result_note (event : Event) : (note event : Run ε Unit).result = .ok () := rfl

@[simp]
theorem result_mapFailure (change : ε → ζ) (run : Run ε α) :
    (run.mapFailure change).result = run.result.mapError change := rfl

/-- Run a step for every item of a list, in order, up to the first failure. -/
def forEach (step : α → Run ε β) : List α → Run ε (List β)
  | [] => pure []
  | item :: rest => do
      let value ← step item
      let others ← forEach step rest
      return value :: others

/-- The result of a run over a list is that of the results of its steps. -/
@[simp]
theorem result_forEach (step : α → Run ε β) (items : List α) :
    (forEach step items).result = items.mapM fun item => (step item).result := by
  induction items with
  | nil => rfl
  | cons item rest ih =>
      simp only [forEach, result_bind, ih, result_pure, List.mapM_cons]
      rfl

end Run

end ShootMachines
