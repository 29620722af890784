import Conformance.Sql.Grammar.Alter
import Conformance.Sql.Grammar.Execution
import Conformance.Sql.Grammar.Expr
import Conformance.Sql.Grammar.Privilege
import Conformance.Sql.Grammar.Query
import Conformance.Sql.Grammar.Session
import Conformance.Sql.Grammar.Show
import Conformance.Sql.Grammar.Transfer

set_option autoImplicit false

/-!
# Statements

One statement at the front of some tokens.  Only table definitions are kept; of all others it
matters that they can be read.  Statements, queries and expressions together nest at most
`maxDepth` deep.
-/

namespace Conformance.Sql.Grammar

open Conformance.Sql.Parser

section

variable (level : Level)

/-- The form in which a plan is shown, if it is given. -/
def optionalPlanFormat : Parser Unit := do
  if ← keyword .FORMAT then
    optionalEqual
    let _ ← needOneOf [.TEXT, .GRAPHVIZ, .JSON, .TRADITIONAL]

/-- The plan of a statement, or the columns of a table.  A plan has no plan of its own. -/
def explainBody : Parser Statement := do
  unless ← onePhrase [[.QUERY, .PLAN], [.ESTIMATE]] do
    skip [.ANALYZE]
    skip [.VERBOSE]
    optionalPlanFormat
  match ← attempt level.statement with
  | some .explain => unexpected
  | some _ => return .explain
  | none =>
    skip [.EXTENDED, .FORMATTED]
    void objectName
    return .explain

/-- A statement that is no definition of a table, by its first word, which has been read. -/
def plainStatement (k : Keyword) : Parser Unit := do
  match k with
  | .DROP => dropBody level
  | .ALTER => alterBody level
  | .INSERT => insertBody level .normal
  | .UPDATE => updateBody level .normal
  | .DELETE => deleteBody level .normal
  | .MERGE => mergeBody level .normal
  | .CASE => caseStatement level
  | .IF => ifStatement level
  | .WHILE => whileStatement level
  | .RAISE => raiseBody level
  | .RAISERROR => raiseErrorBody level
  | .ANALYZE => analyzeBody level
  | .ATTACH => attachBody level
  | .CACHE => cacheBody level
  | .UNCACHE => uncacheBody
  | .MSCK => repairBody
  | .TRUNCATE => truncateBody level
  | .RENAME => tableRenamings
  | .COPY => copyBody level
  | .UNLOAD => unloadBody level
  | .EXPORT => exportBody level
  | .START =>
    need .TRANSACTION
    transactionModes
  | .BEGIN => beginBody
  | .COMMIT | .END => transactionChain
  | .ROLLBACK => rollbackBody
  | .SAVEPOINT => void identifier
  | .RELEASE =>
    skip [.SAVEPOINT]
    void identifier
  | .PRAGMA => pragmaBody
  | .VACUUM => vacuumBody
  | .SET => setBody level
  | .SHOW => showBody level
  | .USE => void objectName
  | .DISCARD => discardBody
  | .KILL => killBody
  | .GRANT => grantBody level
  | .DENY => denyBody level
  | .REVOKE => revokeBody level
  | .CALL => callBody level
  | .PREPARE => prepareBody level
  | .EXECUTE | .EXEC => executeBody level
  | .DEALLOCATE =>
    skip [.PREPARE]
    void identifier
  | .DECLARE => declareBody level
  | .FETCH => fetchStep
  | .OPEN => void identifier
  | .CLOSE => unless ← keyword .ALL do void identifier
  | .RETURN => void (attempt (expression level .normal))
  | .PRINT => void (expression level .normal)
  | .ASSERT => assertBody level
  | _ => unexpected

/-- A statement.  One that begins with `REPLACE` is an insertion that answers conflicts so. -/
def statementBody : Parser Statement := do
  let other (p : Parser Unit) : Parser Statement := do
    p
    return .other
  match ← peek? with
  | some .leftParen => other (level.query .normal)
  | some (.word _ (some k)) =>
    match k with
    | .SELECT | .WITH | .VALUES => other (level.query .normal)
    | .REPLACE => other (insertBody level .normal)
    | .CREATE =>
      void next?
      createBody level (tableChange level)
    | .EXPLAIN | .DESCRIBE | .DESC =>
      void next?
      explainBody level
    | _ =>
      void next?
      other (plainStatement level k)
  | _ => unexpected

end

/-- How deep statements, queries and expressions may nest. -/
def maxDepth : Nat := 50

/-- The readers with a number of levels left. -/
def levels : Nat → Level
  | 0 => ⟨fun _ _ => tooDeep, fun _ => tooDeep, tooDeep⟩
  | n + 1 =>
    { expr := fun mode precedence => delayed fun _ => exprAbove (levels n) mode precedence
      query := fun mode => delayed fun _ => queryBody (levels n) mode
      statement := delayed fun _ => statementBody (levels n) }

/-- Reads a statement at the front of some tokens; what is left over does not matter. -/
def Statement.read? (ts : List Token) : Except Failure Statement :=
  ((levels maxDepth).statement.run ts).map Prod.fst

end Conformance.Sql.Grammar
