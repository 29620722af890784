import Conformance.Sql.Grammar.DataType

set_option autoImplicit false

/-!
# Aliases

A word after a column or a table is an alias unless it begins the next clause; after `AS` any word
is one.
-/

namespace Conformance.Sql.Grammar

open Conformance.Sql.Parser

/-- Words that end a column and are no aliases of it. -/
def endsColumn : List Keyword :=
  [.WITH, .EXPLAIN, .ANALYZE, .SELECT, .WHERE, .GROUP, .SORT, .HAVING, .ORDER, .TOP, .LATERAL,
   .VIEW, .LIMIT, .OFFSET, .FETCH, .UNION, .EXCEPT, .EXCLUDE, .INTERSECT, .MINUS, .CLUSTER,
   .DISTRIBUTE, .RETURNING, .FROM, .INTO, .END]

/-- Words that end a table and are no aliases of it. -/
def endsTable : List Keyword :=
  [.WITH, .EXPLAIN, .ANALYZE, .SELECT, .WHERE, .GROUP, .SORT, .HAVING, .ORDER, .PIVOT, .UNPIVOT,
   .TOP, .LATERAL, .VIEW, .LIMIT, .OFFSET, .FETCH, .UNION, .EXCEPT, .INTERSECT, .MINUS, .ON,
   .JOIN, .INNER, .CROSS, .FULL, .LEFT, .RIGHT, .NATURAL, .USING, .CLUSTER, .DISTRIBUTE, .GLOBAL,
   .ANTI, .SEMI, .RETURNING, .ASOF, .MATCH_CONDITION, .OUTER, .SET, .QUALIFY, .WINDOW, .END, .FOR,
   .PARTITION, .PREWHERE, .SETTINGS, .FORMAT, .START, .CONNECT, .MATCH_RECOGNIZE, .SAMPLE,
   .TABLESAMPLE, .FROM, .OPEN]

/-- Words that end a column of a lateral view. -/
def endsViewColumn : List Keyword := [.WHERE, .GROUP, .CLUSTER, .HAVING, .LATERAL]

/-- An alias, if there is one: any word after `AS`, and otherwise a word that does not end what
it would name.  Tells whether one has been read. -/
def optionalAlias (ends : List Keyword) : Parser Bool := do
  if ← keyword .AS then
    void identifier
    return true
  else
    match ← peek? with
    | some (.word _ (some k)) =>
      if ends.contains k then return false
      else
        void next?
        return true
    | some (.word _ none) | some (.text _) =>
      void next?
      return true
    | _ => return false

/-- A column of an alias, perhaps with a type. -/
def aliasColumn (level : Level) : Parser Unit := do
  void identifier
  void (attempt (dataType level))

/-- The columns of an alias, if there are any. -/
def optionalAliasColumns (level : Level) : Parser Unit := do
  if ← parenthesisAhead then listIn (aliasColumn level)

/-- The alias of a table, if there is one. -/
def optionalTableAlias (level : Level) : Parser Unit := do
  if ← optionalAlias endsTable then optionalAliasColumns level

end Conformance.Sql.Grammar
