import QuizOverrides.Payload.Fault
import QuizOverrides.Site.Basic

set_option autoImplicit false

/-!
# Request tracing

Each request is told to the console before it is handled, with its query and its parameters, and
again when it has been answered. A request that throws is not told a second time.

## Main definitions

* `QuizOverrides.TracedRequest` — what is told about a request.
* `QuizOverrides.traced` — a handler with its request told.
-/

namespace QuizOverrides

/-- **What is told about a request.** -/
structure TracedRequest where
  method : Option Payload
  url : Option Payload
  query : Option Payload
  params : Option Payload
deriving Repr

namespace TracedRequest

/-- The context of the lines about requests. -/
def context : String := "LoggingInterceptor"

/-- The method and the address of a request. -/
def target (r : TracedRequest) : String :=
  s!"{Payload.wordOf r.method} {Payload.wordOf r.url}"

/-- The text of a part of a request that may be missing. -/
def partText (p : Option Payload) : String :=
  (p.map Payload.jsonText).getD "undefined"

/-- The message before a request is handled. -/
def before (r : TracedRequest) : String :=
  s!"Request: {r.target} \nQuery: {partText r.query} "
    ++ s!"\nParams: {partText r.params}"

/-- The message after a request has been answered, with the milliseconds that it took. -/
def after (r : TracedRequest) (elapsed : ClockReading) : String :=
  let shown := (elapsed.map Whole.text).getD "NaN"
  s!"Response: {r.target} {shown}ms"

end TracedRequest

/-- **A handler with its request told** to the console. -/
def traced {ε α : Type} (r : TracedRequest) (handler : Action ε α) : Action ε α := do
  onConsole (·.debug r.before TracedRequest.context)
  let start := (← get).clock
  let value ← handler
  let elapsed := (← get).clock.since start
  onConsole (·.debug (r.after elapsed) TracedRequest.context)
  pure value

end QuizOverrides
