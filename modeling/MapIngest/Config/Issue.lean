import MapIngest.Value.Display

/-!
# What is wrong with a configuration

A configuration is refused with a report.  The report names the record that
was being read and lists every issue found, each with its kind and the place
of the offending value.  A record whose fields are all acceptable may still
break an ordering between two of its fields; such a breach is an issue of its
own kind, without a place inside the record.
-/

namespace MapIngest.Config

/-- One step of the way from a record to a value inside it. -/
inductive Place where
  | field (name : String)
  | item (index : Int)
deriving DecidableEq

/-- The step to what stands under a key: texts and integers of 64 bits as they are. -/
def Place.ofKey : Scalar → Place
  | .text name => .field name
  | .bool truth => .item (if truth then 1 else 0)
  | .int number =>
    if -2 ^ 63 ≤ number ∧ number < 2 ^ 63 then
      .item number
    else
      .field (Decimal.intText number)
  | key => .field key.quoted

/-- Two fields of the engine parameters stand in the wrong order. -/
inductive Breach where
  /-- The lower threshold exceeds the upper one. -/
  | thresholds (lower upper : Float)
  /-- The floor of the shown height band exceeds its ceiling. -/
  | heights (floor ceiling : Float)
deriving DecidableEq

/-- The text of a breach. -/
def Breach.message : Breach → String
  | .thresholds lower upper =>
    "threshold_min (" ++ Decimal.floatText lower ++ ") must not exceed threshold_max (" ++
      Decimal.floatText upper ++ ")"
  | .heights floor ceiling =>
    "visualize_min_z (" ++ Decimal.floatText floor ++ ") must not exceed visualize_max_z (" ++
      Decimal.floatText ceiling ++ ")"

/-- Why a value is refused. -/
inductive Refusal where
  | notAbove
  | notAtLeast
  | notBelow
  | notAtMost
  | unreadableFloat
  | notFloat
  | unreadableInteger
  | oversizedInteger
  | fractional
  | notFinite
  | notInteger
  | unreadableTruth
  | notTruth
  | notText
  | undecodable
  | shortText
  | notList
  | notRecord
  | invalidKey
  | unknownName
  | unknownAttribute
  | breach (cause : Breach)
deriving DecidableEq

/-- The word for a refusal in a report. -/
def Refusal.label : Refusal → String
  | .notAbove => "greater_than"
  | .notAtLeast => "greater_than_equal"
  | .notBelow => "less_than"
  | .notAtMost => "less_than_equal"
  | .unreadableFloat => "float_parsing"
  | .notFloat => "float_type"
  | .unreadableInteger => "int_parsing"
  | .oversizedInteger => "int_parsing_size"
  | .fractional => "int_from_float"
  | .notFinite => "finite_number"
  | .notInteger => "int_type"
  | .unreadableTruth => "bool_parsing"
  | .notTruth => "bool_type"
  | .notText => "string_type"
  | .undecodable => "string_unicode"
  | .shortText => "string_too_short"
  | .notList => "list_type"
  | .notRecord => "model_type"
  | .invalidKey => "invalid_key"
  | .unknownName => "extra_forbidden"
  | .unknownAttribute => "no_such_attribute"
  | .breach _ => "value_error"

/-- A refused value and its place. -/
structure Issue where
  refusal : Refusal
  place : List Place
deriving DecidableEq

/-- The text that goes with an issue, if it has one. -/
def Issue.message? (issue : Issue) : Option String :=
  match issue.refusal with
  | .breach cause => some ("Value error, " ++ cause.message)
  | _ => none

/-- Move an issue of a nested record to its place in the outer one. -/
def Issue.under (outer : Place) (issue : Issue) : Issue :=
  { issue with place := outer :: issue.place }

/-- All that is wrong with one record. -/
structure Report where
  record : String
  issues : List Issue
deriving DecidableEq

/-- The first line of a report: how many issues, and in which record. -/
def Report.headline (report : Report) : String :=
  let count := report.issues.length
  let noun := if count = 1 then " validation error for " else " validation errors for "
  Decimal.intText count ++ noun ++ report.record

end MapIngest.Config
