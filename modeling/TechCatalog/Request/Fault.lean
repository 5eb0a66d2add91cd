/-!
# Faults of a request

A request that cannot be accepted is answered with the list of everything that is wrong with it.
A `Fault` says what is wrong and where: the place is the path of keys and positions that leads from
the whole request to the value at fault. `FaultKind.code` and `FaultKind.message` hold the wording.
-/

namespace TechCatalog.Request

/-- One step of the path to a value. -/
inductive Step where
  /-- Into an object, under this key. -/
  | key (name : String)
  /-- Into an array, at this position. -/
  | index (i : Nat)
  deriving DecidableEq, Repr

/-- The kinds of things that can be wrong with a value. -/
inductive FaultKind where
  /-- A required member is absent. -/
  | missing
  /-- The value should be an object of this form. -/
  | notModel (form : String)
  /-- The value of a body should be an object. -/
  | notAttributes
  /-- The value should be text. -/
  | notText
  /-- The value should be a truth value. -/
  | notBool
  /-- The value may stand for a truth value but stands for none. -/
  | unclearBool
  /-- The value should be an integer. -/
  | notInteger
  /-- The text does not write an integer. -/
  | unclearInteger
  /-- The number is too large for an integer that is sent as text or as a floating-point number. -/
  | hugeInteger
  /-- The floating-point number has a fractional part. -/
  | fractional
  /-- The floating-point number is infinite or NaN. -/
  | notFinite
  /-- The value should be a number. -/
  | notNumber
  /-- The text does not write a number. -/
  | unclearNumber
  /-- The value should be one of these words. -/
  | notOneOf (words : List String)
  /-- The value should be a fixed row of values. -/
  | notTuple
  /-- The value should be an array. -/
  | notList
  /-- The value should be an object. -/
  | notObject
  /-- The number should be at least this. -/
  | below (least : Int)
  /-- The number should be greater than this. -/
  | notAbove (bound : Int)
  /-- A rule of the form is broken. -/
  | broken (rule : String)
  /-- The value should be a moment. -/
  | notMoment
  /-- The number stands for no moment. -/
  | unclearMoment (reason : String)
  /-- The text should begin with a date. -/
  | notDate (reason : String)
  /-- The value cannot be changed. -/
  | frozen
  /-- There is no such member. -/
  | unknownMember
  /-- The body of a request is no document. -/
  | notDocument
  deriving DecidableEq, Repr

/-- Something that is wrong with a value, and where the value stands. -/
structure Fault where
  /-- What is wrong. -/
  kind : FaultKind
  /-- The path to the value. -/
  path : List Step := []
  deriving DecidableEq, Repr

/-- The word that names a kind of fault. -/
def FaultKind.code : FaultKind → String
  | .missing => "missing"
  | .notModel _ => "model_type"
  | .notAttributes => "model_attributes_type"
  | .notText => "string_type"
  | .notBool => "bool_type"
  | .unclearBool => "bool_parsing"
  | .notInteger => "int_type"
  | .unclearInteger => "int_parsing"
  | .hugeInteger => "int_parsing_size"
  | .fractional => "int_from_float"
  | .notFinite => "finite_number"
  | .notNumber => "float_type"
  | .unclearNumber => "float_parsing"
  | .notOneOf _ => "literal_error"
  | .notTuple => "tuple_type"
  | .notList => "list_type"
  | .notObject => "dict_type"
  | .below _ => "greater_than_equal"
  | .notAbove _ => "greater_than"
  | .broken _ => "value_error"
  | .notMoment => "datetime_type"
  | .unclearMoment _ => "datetime_parsing"
  | .notDate _ => "datetime_from_date_parsing"
  | .frozen => "frozen_instance"
  | .unknownMember => "extra_forbidden"
  | .notDocument => "json_invalid"

/-- A choice between words, in quotes, with "or" before the last. -/
def choice : List String → String
  | [] => ""
  | [w] => "'" ++ w ++ "'"
  | [v, w] => "'" ++ v ++ "' or '" ++ w ++ "'"
  | w :: rest => "'" ++ w ++ "', " ++ choice rest

/-- What is said of a kind of fault. -/
def FaultKind.message : FaultKind → String
  | .missing => "Field required"
  | .notModel form => "Input should be a valid dictionary or instance of " ++ form
  | .notAttributes => "Input should be a valid dictionary or object to extract fields from"
  | .notText => "Input should be a valid string"
  | .notBool => "Input should be a valid boolean"
  | .unclearBool => "Input should be a valid boolean, unable to interpret input"
  | .notInteger => "Input should be a valid integer"
  | .unclearInteger => "Input should be a valid integer, unable to parse string as an integer"
  | .hugeInteger => "Unable to parse input string as an integer, exceeded maximum size"
  | .fractional => "Input should be a valid integer, got a number with a fractional part"
  | .notFinite => "Input should be a finite number"
  | .notNumber => "Input should be a valid number"
  | .unclearNumber => "Input should be a valid number, unable to parse string as a number"
  | .notOneOf words => "Input should be " ++ choice words
  | .notTuple => "Input should be a valid tuple"
  | .notList => "Input should be a valid list"
  | .notObject => "Input should be a valid dictionary"
  | .below least => "Input should be greater than or equal to " ++ toString least
  | .notAbove bound => "Input should be greater than " ++ toString bound
  | .broken rule => "Value error, " ++ rule
  | .notMoment => "Input should be a valid datetime"
  | .unclearMoment reason => "Input should be a valid datetime, " ++ reason
  | .notDate reason => "Input should be a valid datetime or date, " ++ reason
  | .frozen => "Instance is frozen"
  | .unknownMember => "Extra inputs are not permitted"
  | .notDocument => "JSON decode error"

end TechCatalog.Request
