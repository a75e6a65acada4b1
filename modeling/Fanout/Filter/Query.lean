import Fanout.Filter.Loose

/-!
# Fanout — the query language

A query is an object. Each plain key is a path of field names between dots, and
constrains the value reached by it: either a literal that the value has to equal,
or an object of operators that all have to hold. `$or` lists queries of which one
has to hold. Keys that only page or sort results are passed over.

A query is compiled before it is used; what is no query is rejected with the
first offence on a walk in key order, depth first.

## Main definitions

* `Query.ofMembers` — compile the members of a query object.
* `Query.holds` — whether a compiled query accepts a record.
* `Condition.holds` — one condition on the value reached, if any.
-/

namespace Fanout

/-- Why an object is no query. -/
inductive QueryError where
  | orNotArray
  | orEntryNotObject
  | unsupportedOperator (key : String)
  /-- The operand of `$in` or `$nin` is not an array. -/
  | operandNotArray (operator : String)
  /-- An object has both operators and plain keys. -/
  | mixedOperators
  deriving DecidableEq

/-- The wording of an offence. -/
def QueryError.message : QueryError → String
  | .orNotArray => "$or expects an array"
  | .orEntryNotObject => "$or entries must be objects"
  | .unsupportedOperator key => "unsupported operator " ++ key
  | .operandNotArray operator => operator ++ " expects an array"
  | .mixedOperators => "operators cannot be mixed with plain fields"

/-! ## Conditions on a value -/

/-- A condition on the value at a path. -/
inductive Condition where
  | equals (literal : Json)
  | differs (operand : Json)
  | within (operands : List Json)
  | outside (operands : List Json)
  /-- Strictly on one side of the operand, or equal to it where `orEqual` says so. -/
  | compares (direction : Ordering) (orEqual : Bool) (operand : Json)

namespace Condition

/-- Whether a condition holds of the value reached. A missing value only differs. -/
def holds (condition : Condition) (value : Option Json) : Bool :=
  match condition, value with
  | .equals literal, some value => value.looselyEquals literal
  | .equals _, none => false
  | .differs operand, some value => !value.looselyEquals operand
  | .differs _, none => true
  | .within operands, some value => operands.any (value.looselyEquals ·)
  | .within _, none => false
  | .outside operands, some value => !operands.any (value.looselyEquals ·)
  | .outside _, none => true
  | .compares direction orEqual operand, some value =>
    match value.order? operand with
    | some .eq => orEqual
    | some ordering => ordering == direction
    | none => false
  | .compares _ _ _, none => false

/-- Whether a key is an operator. -/
def isOperator (key : String) : Bool := key.toList.head? == some '$'

/-- The condition of an operator and its operand. -/
def ofOperator (operator : String) (operand : Json) : Except QueryError Condition :=
  match operator with
  | "$ne" => .ok (.differs operand)
  | "$in" =>
    match operand with
    | .array operands => .ok (.within operands)
    | _ => .error (.operandNotArray operator)
  | "$nin" =>
    match operand with
    | .array operands => .ok (.outside operands)
    | _ => .error (.operandNotArray operator)
  | "$lt" => .ok (.compares .lt false operand)
  | "$lte" => .ok (.compares .lt true operand)
  | "$gt" => .ok (.compares .gt false operand)
  | "$gte" => .ok (.compares .gt true operand)
  | _ => .error (.unsupportedOperator operator)

/-- The conditions of operators, in order. -/
def ofOperators : List (String × Json) → Except QueryError (List Condition)
  | [] => .ok []
  | (operator, operand) :: rest => do
    let condition ← ofOperator operator operand
    return condition :: (← ofOperators rest)

/-- The conditions that a constraint stands for: those of an object that has operators only, or
equality with a literal. The empty object is a literal. -/
def ofConstraint : Json → Except QueryError (List Condition)
  | .object members =>
    if !members.any (fun member => isOperator member.1) then .ok [.equals (.object members)]
    else if members.all (fun member => isOperator member.1) then ofOperators members
    else .error .mixedOperators
  | literal => .ok [.equals literal]

end Condition

/-! ## Paths -/

/-- The segments between dots. -/
def segments : List Char → List (List Char)
  | [] => [[]]
  | c :: rest =>
    if c = '.' then [] :: segments rest
    else
      match segments rest with
      | [] => [[c]]
      | first :: others => (c :: first) :: others

/-- The field names of a path. -/
def path (key : String) : List String := (segments key.toList).map String.ofList

/-- The value that a path reaches through nested objects. -/
def Json.reach? (record : Json) : List String → Option Json
  | [] => some record
  | field :: rest =>
    match record.get? field with
    | some inner => inner.reach? rest
    | none => none

/-! ## Queries -/

/-- The conditions at one path. -/
structure FieldCondition where
  path : List String
  conditions : List Condition

/-- A compiled query: conditions that all have to hold, and, where there is an `$or`, queries of
which one has to hold. -/
inductive Query where
  | mk (fields : List FieldCondition) (anyOf : Option (List Query))

namespace Query

/-- The keys that page, sort or project results. -/
def pagingKeys : List String := ["$limit", "$skip", "$sort", "$select"]

mutual

/-- Compile the members of a query object, in key order. -/
def ofMembers : List (String × Json) → Except QueryError Query
  | [] => .ok (.mk [] none)
  | (key, value) :: rest =>
    -- the branches come first: their offences stand before those of later keys
    if key = "$or" then do
      let branches ← ofBranches value
      let .mk fields anyOf ← ofMembers rest
      return .mk fields (anyOf.or (some branches))
    else if pagingKeys.contains key then ofMembers rest
    else if Condition.isOperator key then .error (.unsupportedOperator key)
    else do
      let conditions ← Condition.ofConstraint value
      let .mk fields anyOf ← ofMembers rest
      return .mk (⟨path key, conditions⟩ :: fields) anyOf

/-- Compile the value of `$or`. -/
def ofBranches : Json → Except QueryError (List Query)
  | .array branches => ofBranchList branches
  | _ => .error .orNotArray

/-- Compile the branches of an `$or`, in order. -/
def ofBranchList : List Json → Except QueryError (List Query)
  | [] => .ok []
  | branch :: rest => do
    let query ← ofBranch branch
    return query :: (← ofBranchList rest)

/-- Compile one branch of an `$or`. -/
def ofBranch : Json → Except QueryError Query
  | .object members => ofMembers members
  | _ => .error .orEntryNotObject

end

/-- Whether all conditions at a path hold of a record. -/
def fieldHolds (record : Json) (field : FieldCondition) : Bool :=
  field.conditions.all (·.holds (record.reach? field.path))

mutual

/-- Whether a query accepts a record. -/
def holds (record : Json) : Query → Bool
  | .mk fields none => fields.all (fieldHolds record)
  | .mk fields (some branches) => fields.all (fieldHolds record) && anyHolds record branches

/-- Whether one of several queries accepts a record. -/
def anyHolds (record : Json) : List Query → Bool
  | [] => false
  | query :: rest => holds record query || anyHolds record rest

end

end Query

end Fanout
