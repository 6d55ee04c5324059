import LeastGrant.Grants.Statement

/-! Running grant statements. They are run one after the other up to the first that a database
refuses. The one database at hand is empty and lives in memory. It answers queries, but knows no
accounts, and so refuses to grant or revoke anything. -/
namespace LeastGrant

open Text

/-- Why statements were not run. -/
inductive ApplyError where
  | cannotConnect (url : String)
  | refused (statement : String)
  deriving DecidableEq, Repr

/-- The scheme of a database address. -/
def databaseScheme? (url : String) : Option String :=
  let scheme := url.toList.takeWhile fun c => c.isAlphanum || c == '_' || c == '+'
  if scheme.isEmpty || !("://".toList.isPrefixOf (url.toList.drop scheme.length)) then none
  else some (String.ofList (scheme.map fun c => if c == '+' then '.' else c))

/-- Why there is no connection to an address. -/
def connectionFault (url : String) : String :=
  match databaseScheme? url with
  | some scheme => "Can't load plugin: sqlalchemy.dialects:" ++ scheme
  | none => "Could not parse SQLAlchemy URL from given URL string"

def ApplyError.message : ApplyError → String
  | .cannotConnect url => s!"Cannot connect with {quoted url}: {connectionFault url}"
  | .refused statement => s!"Applying grants failed: near {quoted statement}: syntax error"

/-- A database, as far as running statements goes. -/
structure Database where
  /-- The address as it is shown. -/
  address : String
  /-- Whether a statement is run after others of the same transaction. -/
  runs : (before : List String) → (statement : String) → Bool

/-- The address of the database in memory. -/
def memoryDatabase : String := "sqlite://"

/-- Whether the database in memory runs a statement. -/
def isQuery (statement : String) : Bool :=
  let word := (statement.toList.takeWhile Char.isAlpha).map Char.toUpper
  statement == "" || word == "SELECT".toList

def Database.inMemory : Database where
  address := memoryDatabase
  runs _ statement := isQuery statement

/-- The database at an address. -/
def databaseAt? (url : String) : Option Database :=
  if url = memoryDatabase then some .inMemory else none

/-- Runs statements up to the first that is refused, given those that have been run. -/
def runStatements (database : Database) (before : List String) :
    List String → Except ApplyError Unit × List Note
  | [] => (.ok (), [])
  | statement :: rest =>
    if database.runs before statement then
      let (result, notes) := runStatements database (before ++ [statement]) rest
      (result, .statementApplied statement :: notes)
    else (.error (.refused statement), [])

/-- Runs the statements of a text, and counts them. Databases are found by their addresses. -/
def applyGrantsTo (find? : String → Option Database) (text url : String) :
    Except ApplyError Nat × List Note :=
  match find? url with
  | some database =>
    let statements := splitStatements text
    match runStatements database [] statements with
    | (.ok (), notes) =>
      (.ok statements.length, notes ++ [.grantsApplied database.address statements.length])
    | (.error error, notes) => (.error error, notes)
  | none => (.error (.cannotConnect url), [])

/-- Runs the statements of a text on the database at hand. -/
def applyGrants (text url : String) : Except ApplyError Nat × List Note :=
  applyGrantsTo databaseAt? text url

end LeastGrant
