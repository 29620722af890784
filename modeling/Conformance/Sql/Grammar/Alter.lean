import Conformance.Sql.Grammar.Create
import Conformance.Sql.Grammar.Drop

set_option autoImplicit false

/-!
# Alterations

`ALTER` and the changes it may make to tables and other objects.
-/

namespace Conformance.Sql.Grammar

open Conformance.Sql.Parser

/-- A rule or a trigger that takes part or not. -/
def switched : Parser Unit := do
  let _ ← needOneOf [.RULE, .TRIGGER]
  void identifier

/-- A rule, a trigger or a security that takes part from now on; `ENABLE` has been read. -/
def enableBody : Parser Unit := do
  unless ← phrase [.ROW, .LEVEL, .SECURITY] do
    skip [.ALWAYS, .REPLICA]
    switched

/-- A rule, a trigger or a security that takes no part any more; `DISABLE` has been read. -/
def disableBody : Parser Unit := do
  unless ← phrase [.ROW, .LEVEL, .SECURITY] do switched

/-- A new name for a table or a column; `RENAME` has been read. -/
def renameBody : Parser Unit := do
  if ← anyOf [.TO, .AS] then void objectName
  else
    skip [.COLUMN]
    void identifier
    need .TO
    void identifier

/-- How the rows of a table are told apart in copies of it; `REPLICA IDENTITY` has been read. -/
def replicaIdentity : Parser Unit := do
  unless ← anyOf [.NONE, .FULL, .DEFAULT] do
    needAll [.USING, .INDEX]
    void identifier

/-- A setting with an optional equal sign; its name has been read. -/
def settingAmong (ks : List Keyword) : Parser Unit := do
  optionalEqual
  let _ ← needOneOf ks

/-- A change of a type; `TYPE` has been read. -/
def typeChange : Parser Unit := do
  void objectName
  if ← phrase [.RENAME, .TO] then void identifier
  else if ← phrase [.ADD, .VALUE] then
    optionalIfNotExists
    void identifier
    if ← anyOf [.BEFORE, .AFTER] then void identifier
  else
    needAll [.RENAME, .VALUE]
    void identifier
    need .TO
    void identifier

section

variable (level : Level)

/-- The parts of a table, between parentheses. -/
def parts : Parser Unit := partBody level .normal

/-- An addition to a table; `ADD` has been read. -/
def addBody : Parser Unit := do
  if ← tableConstraint level then skipPhrase [.NOT, .VALID]
  else
    optionalIfNotExists
    let found ← iterate (fun _ => do
      if ← keyword .PARTITION then
        parts level
        return some true
      else return none) false
    unless found do
      skip [.COLUMN]
      void (columnDef level)

/-- A removal from a table; `DROP` has been read. -/
def tableDropBody : Parser Unit := do
  if ← onePhrase [[.IF, .EXISTS, .PARTITION], [.PARTITION]] then parts level
  else if ← keyword .CONSTRAINT then
    optionalIfExists
    void identifier
    optionalDropBehavior
  else if ← phrase [.PRIMARY, .KEY] then optionalDropBehavior
  else if ← phrase [.FOREIGN, .KEY] then
    void identifier
    optionalDropBehavior
  else if ← keyword .INDEX then void identifier
  else
    skip [.PROJECTION]
    unless ← phrase [.CLUSTERING, .KEY] do
      skip [.COLUMN]
      optionalIfExists
      void identifier
      optionalDropBehavior

/-- A change of a column; `ALTER` has been read. -/
def columnChange : Parser Unit := do
  skip [.COLUMN]
  void identifier
  if ← onePhrase [[.SET, .NOT, .NULL], [.DROP, .NOT, .NULL], [.DROP, .DEFAULT]] then return ()
  else if ← phrase [.SET, .DEFAULT] then void (expression level .normal)
  else if ← onePhrase [[.SET, .DATA, .TYPE], [.TYPE]] then void (dataType level)
  else if ← phrase [.ADD, .GENERATED] then
    unless ← keyword .ALWAYS do skipPhrase [.BY, .DEFAULT]
    needAll [.AS, .IDENTITY]
    optionalSequence
  else unexpected

/-- A new type and new options for a column whose name has been read. -/
def newColumn : Parser Unit := do
  void (dataType level)
  plainColumnOptions level

/-- A change of a table that is no addition, no new name and no switch. -/
def laterTableChange : Parser Unit := do
  if ← keyword .DROP then tableDropBody level
  else if ← keyword .PARTITION then
    parts level
    needAll [.RENAME, .TO, .PARTITION]
    parts level
  else if ← keyword .CHANGE then
    skip [.COLUMN]
    void identifier
    void identifier
    newColumn level
  else if ← keyword .MODIFY then
    skip [.COLUMN]
    void identifier
    newColumn level
  else if ← keyword .ALTER then columnChange level
  else if ← keyword .SWAP then
    need .WITH
    void objectName
  else if ← phrase [.CLUSTER, .BY] then parts level
  else if ← onePhrase [[.SUSPEND, .RECLUSTER], [.RESUME, .RECLUSTER]] then return ()
  else if ← keyword .LOCK then settingAmong [.DEFAULT, .EXCLUSIVE, .NONE, .SHARED]
  else if ← keyword .ALGORITHM then settingAmong [.DEFAULT, .INSTANT, .INPLACE, .COPY]
  else if ← keyword .AUTO_INCREMENT then
    optionalEqual
    numberValue
  else if ← phrase [.REPLICA, .IDENTITY] then replicaIdentity
  else if ← phrase [.VALIDATE, .CONSTRAINT] then void identifier
  else if ← optionsAfterPhrase level [.SET, .TBLPROPERTIES] then return ()
  else if ← optionsAfter level .SET then return ()
  else unexpected

/-- One change of a table. -/
def tableChange : Parser Unit := do
  if ← keyword .ADD then addBody level
  else if ← keyword .RENAME then renameBody
  else if ← keyword .DISABLE then disableBody
  else if ← keyword .ENABLE then enableBody
  else
    skipPhrase [.CLEAR, .PROJECTION]
    skipPhrase [.MATERIALIZE, .PROJECTION]
    laterTableChange level

/-- Changes of a table; `TABLE` has been read. -/
def tableChanges : Parser Unit := do
  optionalIfExists
  skip [.ONLY]
  void objectName
  optionalCluster
  listOf (tableChange level)
  if ← onePhrase [[.LOCATION], [.SET, .LOCATION]] then void identifier

/-- A new query for a view; `VIEW` has been read. -/
def viewChange : Parser Unit := do
  void objectName
  optionalColumnNames
  void (optionsAfter level .WITH)
  need .AS
  level.query .normal

/-- A change of a policy; `POLICY` has been read. -/
def policyChange : Parser Unit := do
  void identifier
  need .ON
  void objectName
  if ← keyword .RENAME then
    need .TO
    void identifier
  else policyRules level

/-- A change of a connector; `CONNECTOR` has been read. -/
def connectorChange : Parser Unit := do
  void identifier
  need .SET
  void (optionsAfterPhrase level [.DCPROPERTIES])
  clause .URL textLiteral
  if ← keyword .OWNER then
    let _ ← needOneOf [.USER, .ROLE]
    void identifier

/-- A change of a schema; `SCHEMA` has been read. -/
def schemaChange : Parser Unit := do
  optionalIfExists
  void objectName
  if ← phraseAhead [.SET, .OPTIONS] then
    need .SET
    void (optionsAfter level .OPTIONS)
  else if ← phrase [.SET, .DEFAULT, .COLLATE] then void (expression level .normal)
  else if ← phrase [.ADD, .REPLICA] then
    void identifier
    void (optionsAfter level .OPTIONS)
  else if ← phrase [.DROP, .REPLICA] then void identifier
  else if ← phrase [.RENAME, .TO] then void objectName
  else
    needAll [.OWNER, .TO]
    owner

/-- A change of an object; `ALTER` has been read. -/
def alterBody : Parser Unit := do
  match ← needOneOf [.VIEW, .TYPE, .TABLE, .ICEBERG, .INDEX, .POLICY, .CONNECTOR, .SCHEMA] with
  | .VIEW => viewChange level
  | .TYPE => typeChange
  | .TABLE => tableChanges level
  | .ICEBERG =>
    need .TABLE
    tableChanges level
  | .INDEX =>
    void objectName
    needAll [.RENAME, .TO]
    void objectName
  | .POLICY => policyChange level
  | .CONNECTOR => connectorChange level
  | _ => schemaChange level

end

end Conformance.Sql.Grammar
