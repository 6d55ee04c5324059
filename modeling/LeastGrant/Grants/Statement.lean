import LeastGrant.Usage.Document
import LeastGrant.Text.Blank
import LeastGrant.Text.Lines
import LeastGrant.Note

/-! Grant statements: one line for each privilege that a record needs, and the way back from lines to
statements. -/
namespace LeastGrant

open Text

/-- The privileges that a record needs, in a fixed order. -/
def UsageRecord.privileges (record : UsageRecord) : List String :=
  (if record.select then ["SELECT"] else []) ++ record.writes.words

/-- Who receives grants, and which statements stand around them. -/
structure GrantOptions where
  username : String
  host : String
  clear : Bool
  flush : Bool

namespace GrantOptions

/-- The options for a user on any host. -/
def ofUser (username : String) : GrantOptions := ⟨username, "%", false, true⟩

/-- The account that receives the grants. -/
def account (options : GrantOptions) : String :=
  "'" ++ options.username ++ "'@'" ++ options.host ++ "'"

end GrantOptions

/-- The grants that a record needs. -/
def UsageRecord.grants (record : UsageRecord) (options : GrantOptions) : List String :=
  record.privileges.map fun privilege =>
    "GRANT " ++ privilege ++ " ON " ++ record.table.plain ++ " TO " ++ options.account ++ ";"

/-- All statements for a store, in order. -/
def grantStatements (store : UsageStore) (options : GrantOptions) : List String :=
  (if options.clear then
    ["REVOKE SELECT, INSERT, UPDATE, DELETE ON *.* FROM " ++ options.account ++ ";"] else []) ++
  store.records.flatMap (·.grants options) ++
  (if options.flush then ["FLUSH PRIVILEGES;"] else [])

/-- The statements as text, one to a line. -/
def grantText (store : UsageStore) (options : GrantOptions) : String :=
  "\n".intercalate (grantStatements store options)

def grantNote (store : UsageStore) (options : GrantOptions) : Note :=
  .grantsGenerated options.account (grantStatements store options).length

/-- A line as a statement: without blanks around it and semicolons after it. Blank lines are none. -/
def statement? (line : List Char) : Option String :=
  match trim line with
  | [] => none
  | text => some (String.ofList (text.reverse.dropWhile (· == ';')).reverse)

/-- The statements of a text, one to a line. -/
def splitStatements (text : String) : List String := (lines text.toList).filterMap statement?

end LeastGrant
