import QuizOverrides.Config.Settings

set_option autoImplicit false

/-!
# Starting the service

What the service sets up before it answers requests, in order, and which origins may send it
requests from a browser.

## Main definitions

* `QuizOverrides.StartStep` — a step of the start.
* `QuizOverrides.AllowedOrigins` — the origins that are admitted.
* `QuizOverrides.Startup.ofSettings` — the start under given settings.
-/

namespace QuizOverrides

/-! ## Origins -/

/-- **The origins that are admitted.** -/
structure AllowedOrigins where
  origins : List String
deriving DecidableEq, Repr

namespace AllowedOrigins

/-- The origins that settings list, between commas; without a list the local one. -/
def ofSettings (settings : Settings) : AllowedOrigins :=
  let listed := settings.getD "CORS_ORIGIN" ""
  if listed = "" then ⟨["http://localhost:8080"]⟩
  else ⟨(listed.splitOn ",").map Text.trim⟩

/-- **A request is admitted** if its origin is listed. One that names none does not come from a
browser and is admitted too. -/
def admits (allowed : AllowedOrigins) (origin : Field String) : Bool :=
  !origin.isGiven || origin.toOption.any allowed.origins.contains

/-- The message for an origin that is not admitted. -/
def refusalMessage : String := "Not allowed by CORS"

end AllowedOrigins

/-! ## Steps -/

/-- **A step of the start.** The last one is taken only if the start fails. -/
inductive StartStep where
  | create (moduleName : String)
  | pipes (names : List String)
  | filters (names : List String)
  | interceptors (names : List String)
  | basePath (path : String)
  | origins (methods : String) (credentials : Bool)
  | document (title description version : String)
  | documentPath (path : String)
  | listen (portNumber : Whole) (host : String)
  | exit (code : Nat)
deriving DecidableEq, Repr

/-- **A step** as a payload: what is called, and with what. -/
def StartStep.payload (step : StartStep) : Payload :=
  let call (name : String) (values : List Payload) : Payload := .list (.text name :: values)
  let texts (values : List String) : List Payload := values.map .text
  match step with
  | create name => call "create" [.text name]
  | pipes names => call "useGlobalPipes" (texts names)
  | filters names => call "useGlobalFilters" (texts names)
  | interceptors names => call "useGlobalInterceptors" (texts names)
  | basePath path => call "setGlobalPrefix" [.text path]
  | origins methods credentials => call "enableCors" [.text methods, .bool credentials]
  | document title description version =>
    call "createDocument" (texts [title, description, version])
  | documentPath path => call "swaggerSetup" [.text path]
  | listen number host => call "listen" [.ofWhole number, .text host]
  | exit code => call "exit" [.ofNat code]

/-- The steps before the service listens, which do not depend on its settings. -/
def setupSteps : List StartStep :=
  [.create "AppModule",
    .pipes ["ValidationPipe"],
    .filters ["HttpExceptionFilter"],
    .interceptors ["LoggingInterceptor"],
    .basePath "api/v1",
    .origins "GET,HEAD,POST,DELETE,OPTIONS" true,
    .document "Quiz Override Import API" "Bulk import and export of quiz user and group overrides"
      "1.0",
    .documentPath "api/docs"]

/-- **A start**: its steps, the origins it admits and what it wrote to the console. -/
structure Startup where
  steps : List StartStep
  allowed : AllowedOrigins
  console : Console
deriving DecidableEq, Repr

namespace Startup

/-- The context of the lines that are written during the start. -/
def context : String := "Bootstrap"

/-- The console after its threshold has been set to the level of the settings. A text that is no
level is reported and changes nothing. -/
def setLevel (settings : Settings) (console : Console) : Console :=
  let level := settings.getD "LOG_LEVEL" "debug"
  if isConsoleLevel level then console.setThreshold level
  else console.warn s!"Unknown LOG_LEVEL '{level}', keeping debug" context

/-- **The start under given settings**, with what was written to the console before it. It fails,
and the process ends with an error, if the number to listen at is malformed. -/
def ofSettings (settings : Settings) (console : Console) : Startup :=
  let console := setLevel settings console
  let allowed := AllowedOrigins.ofSettings settings
  match settings.number "PORT" (.finite 5000) with
  | .ok portNumber =>
    { steps := setupSteps ++ [.listen portNumber (settings.getD "HOST" "0.0.0.0")]
      allowed
      console :=
        console.log s!"API listening on http://localhost:{portNumber.text}/api/v1" context }
  | .error _ =>
    { steps := setupSteps ++ [.exit 1]
      allowed
      console := console.error "Failed to start the API" .callStack context }

/-- The start in an environment without a file of settings. -/
def ofEnvironment (env : Settings) : Startup :=
  let (settings, lines) := Settings.load env none
  ofSettings settings { lines }

end Startup

end QuizOverrides
