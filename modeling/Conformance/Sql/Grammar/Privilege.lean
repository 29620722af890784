import Conformance.Sql.Grammar.DataType

set_option autoImplicit false

/-!
# Privileges

What may be granted to whom, and taken away again: actions, the objects they are about, and the
people and roles that may do them.
-/

namespace Conformance.Sql.Grammar

open Conformance.Sql.Parser

/-- Actions of a few words that need nothing else. -/
def actionPhrases : List (List Keyword) :=
  [[.IMPORTED, .PRIVILEGES], [.ADD, .SEARCH, .OPTIMIZATION], [.ATTACH, .LISTING],
   [.ATTACH, .POLICY], [.BIND, .SERVICE, .ENDPOINT], [.EVOLVE, .SCHEMA], [.IMPORT, .SHARE],
   [.MANAGE, .VERSIONS], [.MANAGE, .RELEASES], [.OVERRIDE, .SHARE, .RESTRICTIONS],
   [.PURCHASE, .DATA, .EXCHANGE, .LISTING], [.RESOLVE, .ALL], [.READ, .SESSION], [.APPLYBUDGET],
   [.AUDIT], [.CONNECT], [.DELETE], [.FAILOVER], [.OPERATE], [.READ], [.REPLICATE], [.TEMPORARY],
   [.TRIGGER], [.TRUNCATE], [.USAGE], [.OWNERSHIP], [.DROP]]

/-- What `APPLY` may apply. -/
def applied : List (List Keyword) :=
  [[.AGGREGATION, .POLICY], [.AUTHENTICATION, .POLICY], [.JOIN, .POLICY], [.MASKING, .POLICY],
   [.PACKAGES, .POLICY], [.PASSWORD, .POLICY], [.PROJECTION, .POLICY], [.ROW, .ACCESS, .POLICY],
   [.SESSION, .POLICY], [.TAG]]

/-- What `CREATE` may be restricted to. -/
def created : List (List Keyword) :=
  [[.APPLICATION, .PACKAGE], [.COMPUTE, .POOL], [.DATA, .EXCHANGE, .LISTING],
   [.EXTERNAL, .VOLUME], [.FAILOVER, .GROUP], [.NETWORK, .POLICY], [.ORGANIZATION, .LISTING],
   [.REPLICATION, .GROUP], [.ACCOUNT], [.APPLICATION], [.DATABASE], [.INTEGRATION], [.ROLE],
   [.SCHEMA], [.SHARE], [.USER], [.WAREHOUSE]]

/-- What `EXECUTE` may be restricted to. -/
def executed : List (List Keyword) :=
  [[.DATA, .METRIC, .FUNCTION], [.MANAGED, .ALERT], [.MANAGED, .TASK], [.ALERT], [.TASK]]

/-- What `MANAGE` may manage. -/
def managed : List (List Keyword) :=
  [[.ACCOUNT, .SUPPORT, .CASES], [.EVENT, .SHARING], [.GRANTS], [.LISTING, .AUTO, .FULFILLMENT],
   [.ORGANIZATION, .SUPPORT, .CASES], [.USER, .SUPPORT, .CASES], [.WAREHOUSES]]

/-- What `MODIFY` may be restricted to. -/
def modified : List (List Keyword) :=
  [[.LOG, .LEVEL], [.TRACE, .LEVEL], [.SESSION, .LOG, .LEVEL], [.SESSION, .TRACE, .LEVEL]]

/-- What `MONITOR` may be restricted to. -/
def monitored : List (List Keyword) := [[.EXECUTION], [.SECURITY], [.USAGE]]

/-- An action that may be allowed or forbidden. -/
def action : Parser Unit := do
  if ← onePhrase actionPhrases then return ()
  else if ← onePhrase [[.DATABASE, .ROLE], [.ROLE]] then void objectName
  else
    match ← needOneOf [.APPLY, .CREATE, .EXEC, .EXECUTE, .MANAGE, .MODIFY, .MONITOR, .INSERT,
      .REFERENCES, .SELECT, .UPDATE] with
    | .APPLY => unless ← onePhrase applied do unexpected
    | .CREATE => void (onePhrase created)
    | .EXEC | .EXECUTE => void (onePhrase executed)
    | .MANAGE => unless ← onePhrase managed do unexpected
    | .MODIFY => void (onePhrase modified)
    | .MONITOR => void (onePhrase monitored)
    | _ => optionalColumnNames

/-- Objects of a kind that are named together. -/
def objectGroups : List (List Keyword) :=
  [[.ALL, .TABLES, .IN, .SCHEMA], [.ALL, .EXTERNAL, .TABLES, .IN, .SCHEMA],
   [.ALL, .VIEWS, .IN, .SCHEMA], [.ALL, .MATERIALIZED, .VIEWS, .IN, .SCHEMA],
   [.ALL, .FUNCTIONS, .IN, .SCHEMA], [.ALL, .SEQUENCES, .IN, .SCHEMA],
   [.FUTURE, .SCHEMAS, .IN, .DATABASE], [.FUTURE, .TABLES, .IN, .SCHEMA],
   [.FUTURE, .EXTERNAL, .TABLES, .IN, .SCHEMA], [.FUTURE, .VIEWS, .IN, .SCHEMA],
   [.FUTURE, .MATERIALIZED, .VIEWS, .IN, .SCHEMA], [.FUTURE, .SEQUENCES, .IN, .SCHEMA],
   [.RESOURCE, .MONITOR], [.COMPUTE, .POOL], [.FAILOVER, .GROUP], [.REPLICATION, .GROUP],
   [.EXTERNAL, .VOLUME]]

/-- The name of an object, whose parts may be stars. -/
def objectPattern : Parser Unit :=
  whileTrue do
    unless ← token star do void identifier
    token .period

/-- The objects that actions are about; `ON` has been read. -/
def privilegeObjects (level : Level) : Parser Unit := do
  if ← onePhrase objectGroups then listOf objectName
  else
    let kind ← oneOf [.SEQUENCE, .DATABASE, .SCHEMA, .TABLE, .VIEW, .WAREHOUSE, .INTEGRATION,
      .USER, .CONNECTION, .PROCEDURE, .FUNCTION]
    listOf objectPattern
    if kind == some .PROCEDURE || kind == some .FUNCTION then
      if ← parenthesisAhead then listOrNoneIn (dataType level)

/-- Actions, or all of them. -/
def privilegeActions : Parser Unit := do
  if ← keyword .ALL then skip [.PRIVILEGES] else listOf action

/-- Kinds of people and roles that have names. -/
def granteeKinds : List (List Keyword) :=
  [[.ROLE], [.USER], [.SHARE], [.GROUP], [.DATABASE, .ROLE], [.APPLICATION, .ROLE],
   [.APPLICATION]]

/-- The people and roles that actions are granted to.  A kind holds until another one is given, and
everybody is named by the kind alone. -/
def grantees : Parser Unit := do
  let _ ← iterate (fun (state : Bool × Bool) => do
    let (more, everybody) := state
    if !more then return none
    else
      let everybody ← if ← keyword .PUBLIC then pure true
        else if ← onePhrase granteeKinds then pure false
        else pure everybody
      unless everybody do
        void objectName
        if ← token colon then void identifier
      return some (← token .comma, everybody)) (true, false)

/-- Privileges that are granted; `GRANT` has been read. -/
def grantBody (level : Level) : Parser Unit := do
  privilegeActions
  clause .ON (privilegeObjects level)
  need .TO
  grantees
  skipPhrase [.WITH, .GRANT, .OPTION]
  unless ← phrase [.COPY, .CURRENT, .GRANTS] do skipPhrase [.REVOKE, .CURRENT, .GRANTS]
  clause .AS identifier
  phraseClause [.GRANTED, .BY] identifier

/-- Privileges that are forbidden; `DENY` has been read. -/
def denyBody (level : Level) : Parser Unit := do
  privilegeActions
  need .ON
  privilegeObjects level
  need .TO
  grantees
  skip [.CASCADE, .RESTRICT]
  clause .AS identifier

/-- Privileges that are taken away; `REVOKE` has been read. -/
def revokeBody (level : Level) : Parser Unit := do
  privilegeActions
  clause .ON (privilegeObjects level)
  need .FROM
  grantees
  phraseClause [.GRANTED, .BY] identifier

end Conformance.Sql.Grammar
