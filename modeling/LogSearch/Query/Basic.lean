import LogSearch.Query.Clause
import LogSearch.Query.Keyword

/-!
# Queries

A query is one clause, or several joined by `AND` or by `OR`.

* `AND` is looked for first. In a query with both keywords, `OR` is text like any other.
* The first clause that cannot be read decides the error.
-/

namespace LogSearch

open Text

/-- A condition made of clauses. -/
inductive Query where
  | single (clause : Clause)
  /-- All clauses must hold. -/
  | allOf (clauses : List Clause)
  /-- Some clause must hold. -/
  | anyOf (clauses : List Clause)
deriving DecidableEq, Repr

namespace Query

/-- The clauses of a query, in order. -/
def clauses : Query → List Clause
  | .single clause => [clause]
  | .allOf clauses | .anyOf clauses => clauses

/-- Reads one clause from each text, without the white space around it. -/
def parseClauses (compiler : Pattern.Compiler) (fragments : List (List Char)) :
    Except QueryError (List Clause) :=
  fragments.mapM fun fragment => Clause.parse compiler (.ofList (trim fragment))

/-- Reads a query. -/
def parse (compiler : Pattern.Compiler) (text : String) : Except QueryError Query :=
  let text := trim text.toList
  match Keyword.split Keyword.andWord text with
  | _ :: _ :: _ => .allOf <$> parseClauses compiler (Keyword.split Keyword.andWord text)
  | _ =>
    match Keyword.split Keyword.orWord text with
    | _ :: _ :: _ => .anyOf <$> parseClauses compiler (Keyword.split Keyword.orWord text)
    | _ => .single <$> Clause.parse compiler (.ofList text)

end Query

end LogSearch
