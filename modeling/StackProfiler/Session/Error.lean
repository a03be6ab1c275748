import StackProfiler.Time
/-!
# What a session refuses

Operations that need a recorder fail on a session that is not started, and a session is started once at a
time. A scheduler fails for want of a session or because its interval is too short.
-/

namespace StackProfiler

/-- Why a session refuses an operation. -/
inductive SessionError
  | notInitialized
  | alreadyStarted
  deriving DecidableEq

/-- The wording of a refusal. -/
def SessionError.message : SessionError → String
  | .notInitialized => "session is not initialized (call start first)"
  | .alreadyStarted => "session already started"

/-- Why no flush thread is started. -/
inductive SchedulerError
  | intervalTooShort (interval : Duration)
  | session (error : SessionError)
  deriving DecidableEq

/-- The wording of a refusal; that of a session is passed on. -/
def SchedulerError.message : SchedulerError → String
  | .intervalTooShort interval =>
    s!"flush interval {interval.text} is too short (minimum is 1ms)"
  | .session error => error.message

end StackProfiler
