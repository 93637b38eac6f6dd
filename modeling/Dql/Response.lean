import Dql.Query.Basic

/-!
# Responses and fallbacks

A store leaves out what it has no value for. A query that carries a fallback gets
it filled into the response, under the name that its results appear under, at
every place where the query applies: the roots in the response itself, the
children of a query in every object that the query's own result holds, through
any nesting of lists. What the store did answer is never replaced.
-/

namespace Dql.Response

/-- A value with its objects replaced, through any nesting of lists; objects
inside of objects are not visited. -/
def mapObjects (f : List (String × Json) → List (String × Json)) : Json → Json
  | .object members => .object (f members)
  | .array items => .array (mapItems items)
  | scalar => scalar
where
  /-- Values with their objects replaced. -/
  mapItems : List Json → List Json
    | [] => []
    | x :: rest => mapObjects f x :: mapItems rest

mutual

/-- Fills an object with what queries have to say, one after the other. -/
def fill : List Query → List (String × Json) → List (String × Json)
  | [], members => members
  | q :: rest, members => fill rest (fillOne q members)

/-- Fills an object with what one query has to say: below its result if the object
has one, else its fallback. A query without a name says nothing. -/
def fillOne : Query → List (String × Json) → List (String × Json)
  | ⟨clause, fallback, children⟩, members =>
    let name := clause.resultName
    if name.isEmpty then members
    else
      match Json.member? name members, fallback with
      | some present, _ => SortedEntries.insert name (mapObjects (fill children) present) members
      | none, some value => SortedEntries.insert name value members
      | none, none => members

end

/-- A response with the fallbacks of queries filled in. -/
def applyFallbacks (queries : List Query) : Json → Json
  | .object members => .object (fill queries members)
  | other => other

end Dql.Response
