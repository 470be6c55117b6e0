/-
This file reads files of environment variables. A line binds a name to a value, which may stand
between quotes and then go on over several lines; a line that is no binding is passed over. A value
may refer to variables that are bound before it or come from the environment.
-/
import ApiDoc.Dict
import ApiDoc.Text.Blank
import ApiDoc.Text.Search

namespace ApiDoc.EnvFile

/-! ### Lines -/

/-- The text with every line ended by a line feed alone. -/
def normalizeLines : Text → Text
  | [] => []
  | .char '\r' :: .char '\n' :: rest => .char '\n' :: normalizeLines rest
  | .char '\r' :: rest => .char '\n' :: normalizeLines rest
  | point :: rest => point :: normalizeLines rest

/-- A blank within a line. -/
def isLineBlank (point : CodePoint) : Bool := point.isBlank && point ≠ .char '\n'

/-- The text without blanks of its first line. -/
def skipLineBlanks (text : Text) : Text := text.dropWhile isLineBlank

/-- The text after its first line. -/
def skipLine (text : Text) : Text := (text.dropWhile (· ≠ .char '\n')).drop 1

/-- The text after a comment, if one starts in it. -/
def skipComment (text : Text) : Text :=
  match skipLineBlanks text with
  | .char '#' :: rest => rest.dropWhile (· ≠ .char '\n')
  | _ => text

/-- The text after the end of a line, if nothing but blanks comes before it. -/
def endLine? (text : Text) : Option Text :=
  match skipLineBlanks text with
  | [] => some []
  | .char '\n' :: rest => some rest
  | _ => none

/-! ### Quoted values -/

/-- What stands before a quote that no backslash precedes, and what follows it. -/
def cutUnescaped? (quote : CodePoint) : Text → Option (Text × Text)
  | [] => none
  | .char '\\' :: second :: rest =>
    if second = quote then
      (cutUnescaped? quote rest).map fun (value, after) => (.char '\\' :: quote :: value, after)
    else (cutUnescaped? quote (second :: rest)).map fun (value, after) =>
      (.char '\\' :: value, after)
  | point :: rest =>
    if point = quote then some ([], rest)
    else (cutUnescaped? quote rest).map fun (value, after) => (point :: value, after)

/-- What stands before the last quote, and what follows it. -/
def cutLast? (quote : CodePoint) : Text → Option (Text × Text)
  | [] => none
  | point :: rest => match cutLast? quote rest with
    | some (value, after) => some (point :: value, after)
    | none => if point = quote then some ([], rest) else none

/-- A value and what follows its closing quote. Where every quote is escaped the last one closes. -/
def takeQuoted? (quote : CodePoint) (text : Text) : Option (Text × Text) :=
  (cutUnescaped? quote text).or (cutLast? quote text)

/-- The code points that escapes between double quotes stand for. -/
def doubleQuoteEscapes : List (CodePoint × CodePoint) :=
  [(.char '\\', .char '\\'), (.char '\x27', .char '\x27'), (.char '"', .char '"'),
    (.char 'a', .char '\x07'), (.char 'b', .char '\x08'), (.char 'f', .char '\x0c'),
    (.char 'n', .char '\n'), (.char 'r', .char '\r'), (.char 't', .char '\t'),
    (.char 'v', .char '\x0b')]

/-- The code points that escapes between single quotes stand for. -/
def singleQuoteEscapes : List (CodePoint × CodePoint) :=
  [(.char '\\', .char '\\'), (.char '\x27', .char '\x27')]

/-- The value with its escapes replaced; another backslash stands for itself. -/
def unescape (escapes : List (CodePoint × CodePoint)) : Text → Text
  | [] => []
  | .char '\\' :: second :: rest => match escapes.lookup second with
    | some meaning => meaning :: unescape escapes rest
    | none => .char '\\' :: unescape escapes (second :: rest)
  | point :: rest => point :: unescape escapes rest

/-! ### Bindings -/

/-- A value without the comment that follows a blank in it. -/
def dropComment : Text → Text
  | [] => []
  | point :: rest =>
    if point.isBlank && (rest.dropWhile CodePoint.isBlank).head? = some (.char '#') then []
    else point :: dropComment rest

/-- The value after an equals sign, and what follows it. -/
def takeValue? (text : Text) : Option (Text × Text) :=
  match text with
  | .char '\x27' :: rest =>
    (takeQuoted? (.char '\x27') rest).map fun (value, after) =>
      (unescape singleQuoteEscapes value, after)
  | .char '"' :: rest =>
    (takeQuoted? (.char '"') rest).map fun (value, after) =>
      (unescape doubleQuoteEscapes value, after)
  | _ =>
    let line := text.takeWhile (· ≠ .char '\n')
    some ((dropComment line).trimEnd, text.dropWhile (· ≠ .char '\n'))

/-- The text after the word that marks an exported variable, if it is there. -/
def skipExport (text : Text) : Text :=
  if ("export" : Text).isPrefixOf text then
    let after := text.drop 6
    if (skipLineBlanks after).length < after.length then skipLineBlanks after else text
  else text

/-- A point that may stand in a name without quotes. -/
def isNamePoint (point : CodePoint) : Bool :=
  point ≠ .char '=' && point ≠ .char '#' && !point.isBlank

/-- The name at the start of a binding and what follows it; a comment has no name. -/
def takeName? (text : Text) : Option (Option Text × Text) :=
  match text with
  | .char '#' :: _ => some (none, text)
  | .char '\x27' :: rest => match Text.cutFirst? (.char '\x27') rest with
    | some (point :: name, after) => some (some (point :: name), after)
    | _ => none
  | _ =>
    let name := text.takeWhile isNamePoint
    if name.isEmpty then none else some (some name, text.dropWhile isNamePoint)

/-- What a line binds: a name, and a value if there is an equals sign. -/
structure Binding where
  name : Text
  value : Option Text
  deriving DecidableEq, Repr

/-- The binding after a name. What is wrong in the line yields the text at which it is. -/
def takeBinding (name : Option Text) (text : Text) : Except Text (Option Binding × Text) :=
  let atSign := skipLineBlanks text
  let finish (value : Option Text) (after : Text) : Except Text (Option Binding × Text) :=
    let after := skipComment after
    match endLine? after with
    | some rest => .ok (name.map fun name => { name, value }, rest)
    | none => .error after
  match atSign with
  | .char '=' :: rest =>
    let start := skipLineBlanks rest
    match takeValue? start with
    | some (value, after) => finish (some value) after
    | none => .error start
  | _ => finish none atSign

/-- The bindings of a text; `lines` bounds their number. -/
def bindingsWithin : Nat → Text → List Binding
  | 0, _ => []
  | lines + 1, text => match text.trimStart with
    | [] => []
    | start =>
      let start := skipExport start
      match takeName? start with
      | none => bindingsWithin lines (skipLine start)
      | some (name, after) => match takeBinding name after with
        | .error faulty => bindingsWithin lines (skipLine faulty)
        | .ok (binding, rest) => binding.toList ++ bindingsWithin lines rest

/-- The bindings of a text in order. -/
def bindings (text : Text) : List Binding :=
  let text := normalizeLines text
  bindingsWithin (text.length + 1) text

/-! ### References -/

/-- The name and the default of a reference whose opening brace has been passed, and what follows
its closing brace. -/
def takeReference? (text : Text) : Option (Text × Text × Text) :=
  let name := text.takeWhile fun point => point ≠ .char '\x7d' && point ≠ .char ':'
  match text.drop name.length with
  | .char '\x7d' :: after => some (name, [], after)
  | .char ':' :: .char '-' :: rest =>
    (Text.cutFirst? (.char '\x7d') rest).map fun (default, after) => (name, default, after)
  | _ => none

/-- The value with its references replaced, where `passed` points belong to the last reference. -/
def expandFrom (lookup : Text → Option Text) : Nat → Text → Text
  | _, [] => []
  | passed + 1, _ :: rest => expandFrom lookup passed rest
  | 0, point :: rest =>
    let reference := match point, rest with
      | .char '$', .char '\x7b' :: inside => takeReference? inside
      | _, _ => none
    match reference with
    | some (name, default, after) =>
      (lookup name).getD default ++ expandFrom lookup (rest.length - after.length) rest
    | none => point :: expandFrom lookup 0 rest

/-- The variables that bindings define, in order. A reference takes the value bound before, else the
one of the environment; a name without a value has the empty one. -/
def define (environment : Dict Text) (defined : Dict (Option Text)) :
    List Binding → Dict (Option Text)
  | [] => defined
  | binding :: rest =>
    let lookup (name : Text) : Option Text := match defined.get? name with
      | some value => some (value.getD [])
      | none => environment.get? name
    define environment
      (defined.insert binding.name (binding.value.map (expandFrom lookup 0))) rest

/-- The variables that a file defines and gives a value. -/
def definitions (environment : Dict Text) (text : Text) : Dict Text :=
  (define environment [] (bindings text)).filterMap fun (name, value) =>
    value.map fun value => (name, value)

end ApiDoc.EnvFile
