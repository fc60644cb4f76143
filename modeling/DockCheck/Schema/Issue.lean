import DockCheck.Text

/-!
# Issues

What can be wrong with data that are to have a certain form.  An `Issue` is a `Problem` with the
way to its place, and a `Rejection` collects all issues of a value.
-/

namespace DockCheck.Schema

/-- A step on the way from a value to a part of it. -/
inductive Step where
  | field (name : Text)
  | index (n : Nat)
  deriving DecidableEq, Repr

/-- What is wrong at a place. -/
inductive Problem where
  | missing
  | notText
  | undecodableText
  | notList
  | notModel (model : Text)
  | notFields
  | notPath
  | unknownChoice (choices : List Text)
  | unknownTag (field tag : Text) (tags : List Text)
  | noTag (field : Text)
  | unknownField
  | refused (reason : Text)
  deriving DecidableEq, Repr

namespace Problem

/-- The name of a problem. -/
def kind : Problem → Text
  | missing => "missing"
  | notText => "string_type"
  | undecodableText => "string_unicode"
  | notList => "list_type"
  | notModel _ => "model_type"
  | notFields => "model_attributes_type"
  | notPath => "path_type"
  | unknownChoice _ => "literal_error"
  | unknownTag _ _ _ => "union_tag_invalid"
  | noTag _ => "union_tag_not_found"
  | unknownField => "extra_forbidden"
  | refused _ => "value_error"

/-- A text between single quotes, as it is. -/
def inQuotes (t : Text) : Text := '\'' :: (t ++ ['\''])

/-- Texts in quotes, with commas and before the last one an `or` between them. -/
def alternatives : List Text → Text
  | [] => []
  | [t] => inQuotes t
  | [t, u] => inQuotes t ++ " or " ++ inQuotes u
  | t :: rest => inQuotes t ++ ", " ++ alternatives rest

/-- The wording of a problem. -/
def message : Problem → Text
  | missing => "Field required"
  | notText => "Input should be a valid string"
  | undecodableText =>
    "Input should be a valid string, unable to parse raw data as a unicode string"
  | notList => "Input should be a valid list"
  | notModel model => "Input should be a valid dictionary or instance of " ++ model
  | notFields => "Input should be a valid dictionary or object to extract fields from"
  | notPath => "Input is not a valid path for <class 'pathlib.Path'>"
  | unknownChoice choices => "Input should be " ++ alternatives choices
  | unknownTag field tag tags =>
    "Input tag " ++ inQuotes tag ++ " found using " ++ inQuotes field
      ++ " does not match any of the expected tags: " ++ Text.join ", " (tags.map inQuotes)
  | noTag field => "Unable to extract tag using discriminator " ++ inQuotes field
  | unknownField => "Extra inputs are not permitted"
  | refused reason => "Value error, " ++ reason

end Problem

/-- A problem and the way to its place. -/
structure Issue where
  location : List Step
  problem : Problem
  deriving DecidableEq, Repr

/-- All that is wrong with a value that was to be of the named form. -/
structure Rejection where
  title : Text
  issues : List Issue
  deriving DecidableEq, Repr

/-- The first line of the report on a rejected value. -/
def Rejection.headline (rejection : Rejection) : Text :=
  let count := rejection.issues.length
  Text.ofNat count ++ " validation error" ++ (if count = 1 then "" else "s") ++ " for "
    ++ rejection.title

end DockCheck.Schema
