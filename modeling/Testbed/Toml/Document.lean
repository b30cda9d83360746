import Testbed.Toml.Definition
import Testbed.Toml.Scalar
import Testbed.Toml.Text

/-!
# TOML documents

A document is a list of statements, each on a line of its own. Arrays and tables between braces may
go over several lines, with comments, and may end with a comma. They may not stand too deep in one
another.
-/

namespace Testbed.Toml

/-- How deep arrays and tables between braces may stand in one another. -/
def maxNesting : Nat := 80

mutual

/-- The value at the beginning of `cs`, and what follows it. So many arrays and tables as `room`
says may stand in one another. `fuel` bounds the nesting and the number of items. -/
def value? : Nat → Nat → List Char → Option (Value × List Char)
  | 0, _, _ => none
  | fuel + 1, room, cs =>
    match cs, room with
    | '\x22' :: _, _ | '\x27' :: _, _ => (string? cs).map fun (s, rest) => (.string s, rest)
    | '[' :: _, 0 | '\x7b' :: _, 0 => none
    | '[' :: rest, room + 1 => do
      let (values, rest) ← items? fuel room (← skipBlank rest)
      return (.array values, rest)
    | '\x7b' :: rest, room + 1 => do
      let (entries, rest) ← members? fuel room (← skipBlank rest)
      return (← inlineTable? entries, rest)
    | _, _ =>
      let (scalar, rest) := scalarChars cs
      (scalarValue? scalar).map fun v => (v, rest)

/-- The rest of an array: its items, and what follows the bracket that ends it. -/
def items? : Nat → Nat → List Char → Option (List Value × List Char)
  | 0, _, _ => none
  | fuel + 1, room, cs =>
    match cs with
    | ']' :: rest => some ([], rest)
    | _ => do
      let (item, rest) ← value? fuel room cs
      match ← skipBlank rest with
      | ',' :: rest => do
        let (items, rest) ← items? fuel room (← skipBlank rest)
        return (item :: items, rest)
      | ']' :: rest => return ([item], rest)
      | _ => none

/-- The rest of a table between braces: its keys with their values, and what follows. -/
def members? : Nat → Nat → List Char → Option (List (List String × Value) × List Char)
  | 0, _, _ => none
  | fuel + 1, room, cs =>
    match cs with
    | '\x7d' :: rest => some ([], rest)
    | _ => do
      let (member, rest) ← member? fuel room cs
      match ← skipBlank rest with
      | ',' :: rest => do
        let (members, rest) ← members? fuel room (← skipBlank rest)
        return (member :: members, rest)
      | '\x7d' :: rest => return ([member], rest)
      | _ => none

/-- A key, an equals sign and a value between braces, where they may stand on lines of their own. -/
def member? : Nat → Nat → List Char → Option ((List String × Value) × List Char)
  | 0, _, _ => none
  | fuel + 1, room, cs => do
    let (path, rest) ← key? cs
    match ← skipBlank rest with
    | '=' :: rest => do
      let (value, rest) ← value? fuel room (← skipBlank rest)
      return ((path, value), rest)
    | _ => none

end

/-- A key, an equals sign and a value at the beginning of a line. -/
def assignment? (cs : List Char) : Option ((List String × Value) × List Char) := do
  let (path, rest) ← key? cs
  match rest with
  | '=' :: rest => do
    let (value, rest) ← value? (2 * cs.length + 2) maxNesting (skipSpaces rest)
    return ((path, value), rest)
  | _ => none

/-- The statement at the beginning of a line, and what follows its line. -/
def statement? (cs : List Char) : Option (Statement × List Char) :=
  match cs with
  | '[' :: '[' :: rest => do
    let (path, rest) ← key? (skipSpaces rest)
    match rest with
    | ']' :: ']' :: rest => return (.element path, ← endLine rest)
    | _ => none
  | '[' :: rest => do
    let (path, rest) ← key? (skipSpaces rest)
    match rest with
    | ']' :: rest => return (.table path, ← endLine rest)
    | _ => none
  | _ => do
    let ((path, value), rest) ← assignment? cs
    return (.define path value, ← endLine rest)

/-- The statements of a document. `fuel` bounds their number. -/
def statements? : Nat → List Char → Option (List Statement)
  | 0, _ => none
  | fuel + 1, cs => do
    match ← skipBlank cs with
    | [] => return []
    | cs => do
      let (statement, rest) ← statement? cs
      return statement :: (← statements? fuel rest)

/-- The table that a document defines. A byte order mark before it does not count. -/
def parse? (text : String) : Option Value := do
  let cs := match text.toList with
    | '\uFEFF' :: rest => rest
    | cs => cs
  tableOf? (← statements? (cs.length + 1) cs)

end Testbed.Toml
