import Conformance.Sql.Grammar.Statement
import Conformance.Sql.Lexer
import Conformance.Text.Fold
import Conformance.Text.Segments

set_option autoImplicit false

/-!
# The tables a text creates

A text of SQL is cut into pieces at its semicolons, and every piece that is not blank is read as
one statement.  A piece that cannot be read is malformed when its first word is `CREATE`; any
other such piece is passed over, as long as the text creates some table.
-/

namespace Conformance.Sql

open Grammar

/-- A table as a text declares it: its name, and its columns in order. -/
structure TableDefinition where
  name : String
  columns : List String
  deriving DecidableEq, Repr, Inhabited

namespace TableDefinition

/-- The table has a column of this name, up to the case of ASCII letters. -/
def hasColumn (table : TableDefinition) (name : String) : Bool :=
  table.columns.any fun column => Text.sameName column name

end TableDefinition

/-- Why a text is malformed. -/
inductive Malformation where
  | token (error : LexError)
  | statement (failure : Failure)
  deriving DecidableEq, Repr

namespace Malformation

/-- What is wrong with the text. -/
def message : Malformation → String
  | .token error => error.message
  | .statement .unexpected => "a statement does not follow the grammar"
  | .statement .tooDeep => "a statement is nested too deeply"

end Malformation

/-- The tokens between semicolons; a text without a semicolon is one piece. -/
def pieces (tokens : List Token) : List (List Token) := Text.segments .semicolon tokens

/-- The first token of a piece that is neither white space nor a comment. -/
def leading? (piece : List Token) : Option Token := piece.find? fun t => !t.isBlank

/-- The piece begins with the word `CREATE`, not quoted, in any case. -/
def leadsWithCreate (piece : List Token) : Bool :=
  (leading? piece).bind Token.keyword? == some .CREATE

/-- The pieces that hold a statement. -/
def statementPieces (tokens : List Token) : List (List Token) :=
  (pieces tokens).filter fun piece => (leading? piece).isSome

/-- The table a statement creates, if it creates one. -/
def created? : Statement → Option TableDefinition
  | .createTable name columns => some ⟨name, columns⟩
  | _ => none

/-- What the pieces of a text create, and how the first piece fails that cannot be read. -/
structure Survey where
  tables : List TableDefinition
  firstFailure : Option Failure
  deriving DecidableEq, Repr

/-- Reads pieces one by one, up to the first malformed `CREATE` statement. -/
def survey : List (List Token) → Except Failure Survey
  | [] => .ok ⟨[], none⟩
  | piece :: rest =>
    match Statement.read? piece with
    | .ok statement => do
      let later ← survey rest
      return { later with tables := (created? statement).toList ++ later.tables }
    | .error failure =>
      if leadsWithCreate piece then .error failure
      else do
        let later ← survey rest
        return { later with firstFailure := some failure }

/-- The tables among the pieces of a text; without any table, a piece that cannot be read is an
error. -/
def tablesOfPieces (ps : List (List Token)) : Except Failure (List TableDefinition) := do
  let found ← survey ps
  match found.tables, found.firstFailure with
  | [], some failure => .error failure
  | tables, _ => .ok tables

/-- The tables that a text creates, in the order of its statements. -/
def createdTables (text : String) : Except Malformation (List TableDefinition) :=
  match tokenize text.toList with
  | .error error => .error (.token error)
  | .ok tokens => (tablesOfPieces (statementPieces tokens)).mapError .statement

end Conformance.Sql
