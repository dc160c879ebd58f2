import QuizOverrides.Config.Settings

set_option autoImplicit false

/-!
# Database connections

How a site and the tool that changes its schema connect to the database.

## Main definitions

* `QuizOverrides.ConnectionUse` — who connects.
* `QuizOverrides.Connection` — the options of a connection, and `Connection.ofSettings`.
-/

namespace QuizOverrides

/-- **Who connects**: the service, or the tool that runs its migrations. -/
inductive ConnectionUse where
  | service
  | migrations
deriving DecidableEq, Repr

/-- **The options of a connection.** Some are given for one use only. -/
structure Connection where
  engine : String := "postgres"
  host : String
  portNumber : Whole
  username : String
  password : String
  database : String
  entityFiles : Option (List String)
  migrationFiles : Option (List String)
  loadsEntities : Option Bool
  synchronizes : Bool := false
  logsQueries : Bool
  encrypted : Option Bool
deriving DecidableEq, Repr

/-- The number at which a database listens if its settings name none. -/
def standardPortNumber : Whole := .finite 5432

/-- **The connection that settings describe.** Of several missing settings the first one in the
order of the fields is reported. Queries are logged in development only. -/
def Connection.ofSettings (use : ConnectionUse) (settings : Settings) :
    Except SettingFault Connection := do
  let host ← settings.required "DB_HOST"
  let portNumber ← settings.number "DB_PORT" standardPortNumber
  let username ← settings.required "DB_USERNAME"
  let password ← settings.required "DB_PASSWORD"
  let database ← settings.required "DB_DATABASE"
  let forMigrations := use == .migrations
  pure
    { host, portNumber, username, password, database
      entityFiles := if forMigrations then some ["dist/**/*.entity.js"] else none
      migrationFiles := if forMigrations then some ["dist/migrations/*.js"] else none
      loadsEntities := if forMigrations then none else some true
      logsQueries := settings.getD Settings.modeKey Settings.standardMode == Settings.standardMode
      encrypted := if forMigrations then none else some false }

/-- **The options of a connection** as a payload. -/
def Connection.payload (c : Connection) : Payload :=
  let texts (values : List String) : Payload := .list (values.map .text)
  .ofGiven
    [("type", some (.text c.engine)), ("host", some (.text c.host)),
      ("port", some (.ofWhole c.portNumber)), ("username", some (.text c.username)),
      ("password", some (.text c.password)), ("database", some (.text c.database)),
      ("synchronize", some (.bool c.synchronizes)), ("logging", some (.bool c.logsQueries)),
      ("entities", c.entityFiles.map texts), ("migrations", c.migrationFiles.map texts),
      ("autoLoadEntities", c.loadsEntities.map .bool), ("ssl", c.encrypted.map .bool)]

end QuizOverrides
