/-!
What a program tells about its own running: under which name, and in how much detail.
-/

namespace SiteReport

inductive LogLevel where
  | error
  | warn
  | info
  | debug
  | trace
  deriving DecidableEq, Inhabited

def LogLevel.name : LogLevel → String
  | .error => "ERROR"
  | .warn => "WARN"
  | .info => "INFO"
  | .debug => "DEBUG"
  | .trace => "TRACE"

structure Telemetry where
  serviceName : String
  /-- The level of what is shown on the console. -/
  level : LogLevel := .debug
  deriving DecidableEq

end SiteReport
