/-
This file reads a JSON value from text. The tokens drive a machine with a stack of open arrays and
objects; the first token that has no place decides the defect. An object that names a key twice keeps
the first place and the last value. How many arrays and objects may be open at once is up to whoever
reads.
-/
import ApiDoc.Json.Token

namespace ApiDoc.Json

/-- Why a text holds no value that can be read. -/
inductive ReadDefect where
  | malformed
  | integerTooLong
  | tooDeep
  deriving DecidableEq, Repr

/-- How many arrays and objects may be open at once where no other limit is known. Reading one within
another takes a call. An interpreter allows a thousand calls within each other, of which about thirty
are open already when the body of an answer is read. -/
def maximalDepth : Nat := 970

namespace Reader

/-- An array or object that is still open, with what it holds so far in reverse order. -/
inductive Frame where
  | array (items : List Json)
  | object (members : List (Text × Json)) (key : Text)
  deriving Repr

/-- What may come next. -/
inductive Expectation where
  | value
  | itemOrClose
  | memberOrClose
  | key (members : List (Text × Json))
  | colon (members : List (Text × Json)) (key : Text)
  | ending (value : Json)
  deriving Repr

/-- The open arrays and objects, innermost first, and what may come next. -/
structure State where
  stack : List Frame
  expectation : Expectation
  deriving Repr

/-- A new array or object inside of the open ones. -/
def State.enter (limit : Nat) (stack : List Frame) (inside : Expectation) (opened : List Frame) :
    Except ReadDefect State :=
  if limit < stack.length + 1 then .error .tooDeep
  else .ok { stack := opened, expectation := inside }

/-- The value that begins with a token where a value may come. -/
def begin (limit : Nat) (stack : List Frame) : Token → Except ReadDefect State
  | .openArray => State.enter limit stack .itemOrClose (.array [] :: stack)
  | .openObject => State.enter limit stack .memberOrClose stack
  | .word value => .ok { stack, expectation := .ending value }
  | .integer negative digits =>
    if maximalDigits < digits.length then .error .integerTooLong
    else
      let value := Numeral.signed negative (valueOfDigits digits)
      .ok { stack, expectation := .ending (.integer value) }
  | .double value => .ok { stack, expectation := .ending (.double value) }
  | .string value => .ok { stack, expectation := .ending (.string value) }
  | _ => .error .malformed

/-- What a token does where a value has just ended. -/
def close (value : Json) : List Frame → Token → Except ReadDefect State
  | .array items :: stack, .comma =>
    .ok { stack := .array (value :: items) :: stack, expectation := .value }
  | .array items :: stack, .closeArray =>
    .ok { stack, expectation := .ending (.array (value :: items).reverse) }
  | .object members key :: stack, .comma =>
    .ok { stack, expectation := .key ((key, value) :: members) }
  | .object members key :: stack, .closeObject =>
    let object := Dict.ofEntries ((key, value) :: members).reverse
    .ok { stack, expectation := .ending (.object object) }
  | _, _ => .error .malformed

/-- The state after a token. -/
def step (limit : Nat) (state : State) (token : Token) : Except ReadDefect State :=
  match state.expectation, token with
  | .value, token => begin limit state.stack token
  | .itemOrClose, .closeArray =>
    .ok { stack := state.stack.drop 1, expectation := .ending (.array []) }
  | .itemOrClose, token => begin limit state.stack token
  | .memberOrClose, .closeObject => .ok { state with expectation := .ending (.object []) }
  | .memberOrClose, .string key => .ok { state with expectation := .colon [] key }
  | .memberOrClose, _ => .error .malformed
  | .key members, .string key => .ok { state with expectation := .colon members key }
  | .key _, _ => .error .malformed
  | .colon members key, .colon =>
    .ok { stack := .object members key :: state.stack, expectation := .value }
  | .colon .., _ => .error .malformed
  | .ending value, token => close value state.stack token

/-- The value that has ended when the tokens are used up. -/
def result (state : State) : Except ReadDefect Json :=
  match state with
  | { stack := [], expectation := .ending value } => .ok value
  | _ => .error .malformed

/-- The state after all tokens. -/
def run (limit : Nat) (state : State) : List Token → Except ReadDefect State
  | [] => .ok state
  | token :: rest => match step limit state token with
    | .ok next => run limit next rest
    | .error defect => .error defect

end Reader

/-- The value that a text holds. -/
def read (text : Text) (limit : Nat := maximalDepth) : Except ReadDefect Json := do
  Reader.result (← Reader.run limit { stack := [], expectation := .value } (Token.list text))

end ApiDoc.Json
