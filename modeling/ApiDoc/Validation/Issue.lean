/-
This file defines the issues that reading a typed value from JSON can find, and the reading that goes
on after an issue so that all of them are reported, in the order of the declared fields.
-/
import ApiDoc.Json.Basic

namespace ApiDoc

/-- One step from a value into one of its parts. -/
inductive LocationStep where
  | key (name : Text)
  | index (position : Nat)
  deriving DecidableEq, Repr

/-- What is wrong with a value. -/
inductive IssueKind where
  | missing
  | notString
  | notBoolean
  | unreadableBoolean
  | notInteger
  | unreadableInteger
  | fractionalInteger
  | infiniteInteger
  | notDictionary
  | notList
  | notModel
  | unencodableKey
  | invalidAddress
  deriving DecidableEq, Repr

/-- The code under which an issue is reported. -/
def IssueKind.code : IssueKind → Text
  | .missing => "missing"
  | .notString => "string_type"
  | .notBoolean => "bool_type"
  | .unreadableBoolean => "bool_parsing"
  | .notInteger => "int_type"
  | .unreadableInteger => "int_parsing"
  | .fractionalInteger => "int_from_float"
  | .infiniteInteger => "finite_number"
  | .notDictionary => "dict_type"
  | .notList => "list_type"
  | .notModel => "model_type"
  | .unencodableKey => "string_unicode"
  | .invalidAddress => "url_parsing"

/-- An issue and where it is. -/
structure Issue where
  location : List LocationStep
  kind : IssueKind
  deriving DecidableEq, Repr

/-- A value that has been read, or every issue that was found on the way. -/
inductive Validated (α : Type) where
  | valid (value : α)
  | invalid (issues : List Issue)
  deriving Repr

namespace Validated

variable {α β : Type}

/-- The issues of both sides are kept. -/
def combine (first : Validated (α → β)) (second : Validated α) : Validated β :=
  match first, second with
  | .valid function, .valid argument => .valid (function argument)
  | .valid _, .invalid issues => .invalid issues
  | .invalid issues, .valid _ => .invalid issues
  | .invalid issues, .invalid others => .invalid (issues ++ others)

instance : Applicative Validated where
  pure := .valid
  seq first second := combine first (second ())

/-- A value with a single issue. -/
def issue (kind : IssueKind) : Validated α := .invalid [{ location := [], kind }]

/-- The issues of a part, seen from the whole. -/
def within (step : LocationStep) : Validated α → Validated α
  | .valid value => .valid value
  | .invalid issues =>
    .invalid (issues.map fun issue => { issue with location := step :: issue.location })

/-- The value, or the issues as an error. -/
def toExcept : Validated α → Except (List Issue) α
  | .valid value => .ok value
  | .invalid issues => .error issues

end Validated

end ApiDoc
