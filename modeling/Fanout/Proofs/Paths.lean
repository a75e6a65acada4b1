import Fanout.Proofs.Selection

/-!
# Fanout — dotted paths

A dotted key is a walk through nested objects, one name at a time. Splitting at the
dots is undone by joining, so that the names of `a.b` are those of `a` and then those
of `b`, also where names are empty; and to walk both is to walk the one from where the
other has led. Where the first walk leads nowhere, the second may as well start from
the empty object.

What a walk is and what it consults is said here without the functions that split and
walk: `Json.Reaches` follows members of objects, and names between dots have no dots
themselves.

## Main definitions

* `Json.Reaches` — a value is reached through nested objects, by names.
* `Json.Stops` — a walk stops at a value that has no member of the name that is next.
* `Json.WalkedAlike` — two values that a walk of so many names cannot tell apart.
* `Builtin.PathLaws`, `Builtin.WalkLaws` — the laws of two keys, and of one.

## Results

* `path_append` — the names of two keys joined by a dot.
* `Json.reaches_iff`, `Json.stops_iff` — what the walk of the query language finds.
* `Builtin.paths_compose` — the laws.
-/

namespace Fanout

-- ---------------------------------------------------------------------------
-- Splitting at dots
-- ---------------------------------------------------------------------------

theorem segments_append (first second : List Char) :
    segments (first ++ '.' :: second) = segments first ++ segments second := by
  induction first with
  | nil => simp [segments]
  | cons c rest ih =>
    rw [List.cons_append]
    by_cases hDot : c = '.'
    · rw [segments, if_pos hDot, segments, if_pos hDot, ih, List.cons_append]
    · -- the character goes to the first segment of what follows it, on both sides
      obtain ⟨initial, others, hRest, hCons⟩ := segments_cons hDot rest
      rw [hRest] at ih
      rw [hCons, segments, if_neg hDot, ih, List.cons_append, List.cons_append]

/-- The names of two keys joined by a dot are those of the one and then those of the other. -/
theorem path_append (first second : String) :
    path (first ++ "." ++ second) = path first ++ path second := by
  have hJoined : (first ++ "." ++ second).toList = first.toList ++ '.' :: second.toList := by
    simp
  unfold path
  rw [hJoined, segments_append, List.map_append]

theorem path_ne_nil (key : String) : path key ≠ [] := (names_iff.mpr (rfl : path key = _)).nonempty

theorem isOperator_append {first : String} (h : Condition.isOperator first = false)
    (second : String) : Condition.isOperator (first ++ "." ++ second) = false := by
  unfold Condition.isOperator at h ⊢
  rw [String.toList_append, String.toList_append]
  -- the joined key starts as the first one does, or with the dot
  cases hFirst : first.toList with
  | nil => simp
  | cons c rest =>
    rw [hFirst] at h
    simpa using h

-- ---------------------------------------------------------------------------
-- Walks through nested objects
-- ---------------------------------------------------------------------------

namespace Json

/-- A value is reached through nested objects, by the names of members. -/
inductive Reaches : Json → List String → Json → Prop
  | here (value : Json) : Reaches value [] value
  | member {members name inner rest value} (hMember : Entries.find? name members = some inner)
      (h : Reaches inner rest value) : Reaches (.object members) (name :: rest) value

/-- A walk stops: it reaches a value that has no member of the name that is next, be it that it is
no object. -/
inductive Stops : Json → List String → Prop
  | here {value name rest} (h : ∀ members, value = .object members →
      name ∉ members.map Prod.fst) : Stops value (name :: rest)
  | member {members name inner rest} (hMember : Entries.find? name members = some inner)
      (h : Stops inner rest) : Stops (.object members) (name :: rest)

variable {record value : Json} {names : List String}

theorem get?_eq_some_iff {name : String} {inner : Json} : record.get? name = some inner ↔
    ∃ members, record = .object members ∧ Entries.find? name members = some inner := by
  cases record <;> simp [get?]

theorem get?_eq_none_iff {name : String} : record.get? name = none ↔
    ∀ members, record = .object members → name ∉ members.map Prod.fst := by
  cases record with
  | object members =>
    show Entries.find? name members = none ↔ _
    rw [← Option.not_isSome_iff_eq_none, Entries.find?_isSome_iff]
    simp
  | null | bool | number | string | array => simp [get?]

/-- The walk of the query language finds what is reached. -/
theorem reaches_iff : record.Reaches names value ↔ record.reach? names = some value := by
  induction names generalizing record with
  | nil =>
    constructor
    · rintro ⟨⟩
      rfl
    · rintro ⟨⟩
      exact .here _
  | cons name rest ih =>
    rw [reach?]
    constructor
    · rintro (_ | ⟨hMember, h⟩)
      rw [get?, hMember]
      exact ih.mp h
    · intro h
      cases hInner : record.get? name with
      | none => simp [hInner] at h
      | some inner =>
        obtain ⟨members, rfl, hMember⟩ := get?_eq_some_iff.mp hInner
        rw [hInner] at h
        exact .member hMember (ih.mpr h)

/-- It finds nothing where it stops. -/
theorem stops_iff : record.Stops names ↔ record.reach? names = none := by
  induction names generalizing record with
  | nil =>
    constructor
    · rintro ⟨⟩
    · intro h
      simp [reach?] at h
  | cons name rest ih =>
    rw [reach?]
    constructor
    · rintro (hNone | ⟨hMember, h⟩)
      · rw [get?_eq_none_iff.mpr hNone]
      · rw [get?, hMember]
        exact ih.mp h
    · intro h
      cases hInner : record.get? name with
      | none => exact .here (get?_eq_none_iff.mp hInner)
      | some inner =>
        obtain ⟨members, rfl, hMember⟩ := get?_eq_some_iff.mp hInner
        rw [hInner] at h
        exact .member hMember (ih.mpr h)

/-- A walk goes on from where it has led. -/
theorem reach?_append (record : Json) (early late : List String) :
    record.reach? (early ++ late) = (record.reach? early).bind (·.reach? late) := by
  induction early generalizing record with
  | nil => rfl
  | cons name rest ih =>
    rw [List.cons_append, reach?, reach?]
    cases record.get? name with
    | none => rfl
    | some inner => exact ih inner

/-- Nothing is reached inside what is no object. -/
theorem reach?_of_not_object (h : ∀ members, record ≠ .object members) (hNames : names ≠ []) :
    record.reach? names = none := by
  obtain ⟨name, rest, rfl⟩ := List.exists_cons_of_ne_nil hNames
  exact stops_iff.mp (.here (fun members hRecord => absurd hRecord (h members)))

theorem reach?_empty (hNames : names ≠ []) : (object []).reach? names = none := by
  obtain ⟨name, rest, rfl⟩ := List.exists_cons_of_ne_nil hNames
  rfl

/-- Two values that a walk of so many names without dots cannot tell apart: they are equal where
the walk ends, and up to there they have the same members that such a name can be of. -/
def WalkedAlike : Nat → Json → Json → Prop
  | 0, value, other => value = other
  | steps + 1, value, other => ∀ name, '.' ∉ name.toList →
      Option.Rel (WalkedAlike steps) (value.get? name) (other.get? name)

theorem WalkedAlike.reach?_eq {other : Json} (h : WalkedAlike names.length record other)
    (hUndotted : ∀ name ∈ names, '.' ∉ name.toList) :
    record.reach? names = other.reach? names := by
  induction names generalizing record other with
  | nil => exact congrArg some h
  | cons name rest ih =>
    obtain ⟨hName, hRest⟩ := List.forall_mem_cons.mp hUndotted
    have hInner := h name hName
    rw [reach?, reach?]
    generalize record.get? name = first, other.get? name = second at hInner
    cases hInner with
    | some hAlike => exact ih hAlike hRest
    | none => rfl

end Json

-- ---------------------------------------------------------------------------
-- The laws
-- ---------------------------------------------------------------------------

namespace Builtin

open Json (only nest WalkedAlike)

variable {first second field : String} {record other : Json}

/-- Records in which a path finds the same give the same answers. -/
theorem answers_congr {key : String} (hField : Condition.isOperator field = false)
    (hKey : Condition.isOperator key = false)
    (h : record.reach? (path field) = other.reach? (path key)) (constraint : Json) (answer : Bool) :
    Answers "query" (only field constraint) record answer ↔
      Answers "query" (only key constraint) other answer := by
  rw [answers_field_iff hField, answers_field_iff hKey, h]

/-- The laws of two keys joined by a dot. -/
structure PathLaws (first second : String) (constraint : Json) : Prop where
  compiles : Compiles "query" (only (first ++ "." ++ second) constraint) ↔
    Compiles "query" (only second constraint)
  refused : ∀ failure,
    module.compile "query" [only (first ++ "." ++ second) constraint] = .error failure ↔
      module.compile "query" [only second constraint] = .error failure
  /-- The second key is looked up where the first one leads. -/
  reached : ∀ {names : List String} {record value : Json}, Names first names →
    record.Reaches names value → ∀ answer,
    (Answers "query" (only (first ++ "." ++ second) constraint) record answer ↔
      Answers "query" (only second constraint) value answer)
  /-- If it leads nowhere, as well in the empty object. -/
  nowhere : ∀ {names : List String} {record : Json}, Names first names →
    (∀ value, ¬ record.Reaches names value) → ∀ answer,
    (Answers "query" (only (first ++ "." ++ second) constraint) record answer ↔
      Answers "query" (only second constraint) (.object []) answer)

/-- The laws of one key. -/
structure WalkLaws (field : String) : Prop where
  /-- No member whose key has a dot is consulted on the way. -/
  alike : ∀ {names : List String} {record other : Json}, Names field names →
    WalkedAlike names.length record other → ∀ constraint answer,
    (Answers "query" (only field constraint) record answer ↔
      Answers "query" (only field constraint) other answer)
  /-- What is no object is not entered. -/
  closed : ∀ {record : Json}, (∀ members, record ≠ .object members) → ∀ constraint answer,
    (Answers "query" (only field constraint) record answer ↔
      Answers "query" (only field constraint) (.object []) answer)
  /-- The negations hold where a walk stops, wherever that is. -/
  stopped : ∀ {names : List String} {record : Json}, Names field names → record.Stops names →
    (∀ operand, Selects "query" (operation field "$ne" operand) record) ∧
      ∀ items, Selects "query" (operation field "$nin" (.array items)) record

theorem path_laws (hFirst : Condition.isOperator first = false)
    (hSecond : Condition.isOperator second = false) (constraint : Json) :
    PathLaws first second constraint := by
  have hJoined := isOperator_append hFirst second
  have hReach : ∀ record : Json, record.reach? (path (first ++ "." ++ second)) =
      (record.reach? (path first)).bind (·.reach? (path second)) := by
    intro record
    rw [path_append, Json.reach?_append]
  constructor
  case compiles => rw [compiles_field_iff hJoined, compiles_field_iff hSecond]
  case refused =>
    intro failure
    unfold only
    rw [compile_object, compile_object, ofMembers_single hJoined, ofMembers_single hSecond]
    cases Condition.ofConstraint constraint <;> simp [Except.map]
  case reached =>
    intro names record value hNames hValue answer
    rw [names_iff.mp hNames, Json.reaches_iff] at hValue
    refine answers_congr hJoined hSecond ?_ constraint answer
    rw [hReach, hValue]
    rfl
  case nowhere =>
    intro names record hNames hNone answer
    have hStop : record.reach? (path first) = none := by
      refine Option.eq_none_iff_forall_ne_some.mpr (fun value hValue => hNone value ?_)
      rw [names_iff.mp hNames]
      exact Json.reaches_iff.mpr hValue
    refine answers_congr hJoined hSecond ?_ constraint answer
    rw [hReach, hStop, Json.reach?_empty (path_ne_nil second)]
    rfl

theorem walk_laws (hField : Condition.isOperator field = false) : WalkLaws field := by
  constructor
  case alike =>
    intro names record other hNames hAlike constraint answer
    have hFound := hAlike.reach?_eq hNames.undotted
    rw [names_iff.mp hNames] at hFound
    exact answers_congr hField hField hFound constraint answer
  case closed =>
    intro record hObject constraint answer
    refine answers_congr hField hField ?_ constraint answer
    rw [Json.reach?_of_not_object hObject (path_ne_nil field),
      Json.reach?_empty (path_ne_nil field)]
  case stopped =>
    intro names record hNames hStops
    rw [names_iff.mp hNames, Json.stops_iff] at hStops
    refine ⟨fun operand => answers_operation hField rfl rfl ?_,
      fun items => answers_operation hField rfl rfl ?_⟩
    all_goals
      rw [hStops]
      rfl

/-- Dotted paths compose: a key that two keys are joined to by a dot constrains what the second one
reaches from where the first one leads. On the way no member is consulted whose key has a dot,
nothing but objects is entered, and negations hold where the way ends early. -/
theorem paths_compose :
    (∀ first second, Condition.isOperator first = false → Condition.isOperator second = false →
      ∀ constraint, PathLaws first second constraint) ∧
    ∀ field, Condition.isOperator field = false → WalkLaws field :=
  ⟨fun _ _ => path_laws, fun _ => walk_laws⟩

/-- A key with an empty name in the middle: it is found where it leads, a member of the same key is
not, and an array on the way is not entered. -/
theorem paths_compose_doubled_dot :
    Condition.isOperator "a." = false ∧ Condition.isOperator "b" = false ∧
      Names "a." ["a", ""] ∧ PathLaws "a." "b" (.string "x") ∧
      Selects "query" (only "a..b" (.string "x")) (nest ["a", "", "b"] (.string "x")) ∧
      Rejects "query" (only "a..b" (.string "x")) (only "a..b" (.string "x")) ∧
      Selects "query" (operation "a..b" "$ne" (.string "x"))
        (only "a" (.array [nest ["", "b"] (.string "x")])) := by
  obtain ⟨hTwo, hOne⟩ := paths_compose
  have hFirst : Condition.isOperator "a." = false := by decide
  have hSecond : Condition.isOperator "b" = false := by decide
  have hBoth : Condition.isOperator "a..b" = false := by decide
  have hNames : Names "a." ["a", ""] := names_iff.mpr (by decide)
  have hAll : Names "a..b" ["a", "", "b"] := names_iff.mpr (by decide)
  have hLaws := hTwo "a." "b" hFirst hSecond (.string "x")
  have hWalk := hOne "a..b" hBoth
  have hLiteral : Condition.ofConstraint (.string "x") = .ok [.equals (.string "x")] := rfl
  refine ⟨hFirst, hSecond, hNames, hLaws, ?_, ?_, ?_⟩
  · refine (hLaws.reached hNames (.member rfl (.member rfl (.here _))) true).mpr ?_
    rw [answers_only_iff hSecond hLiteral]
    rfl
  · -- the record is walked like the empty one
    have hAlike : WalkedAlike 3 (only "a..b" (.string "x")) (.object []) := by
      intro name hName
      have hOther : name ≠ "a..b" := by
        rintro rfl
        exact hName (by decide)
      simp [only, Json.get?, Entries.find?, hOther]
    refine (hWalk.alike hAll hAlike _ false).mpr ?_
    rw [answers_only_iff hBoth hLiteral]
    rfl
  · have hStops : (only "a" (.array [nest ["", "b"] (.string "x")])).Stops ["a", "", "b"] :=
      .member rfl (.here (by simp))
    exact (hWalk.stopped hAll hStops).1 _

end Builtin

end Fanout
