import Testbed.Text.Digit

/-!
# Blanks, keys and strings of TOML

Everything that is made of characters and not of other values. Control characters other than the tab
may stand nowhere, line ends are LF or CRLF, and a lone carriage return is refused.
-/

namespace Testbed.Toml

/-- Characters that a comment or a string may hold as they are. -/
def isPlain (c : Char) : Bool :=
  c = '\t' || (0x20 ≤ c.toNat && c.toNat ≠ 0x7F)

def isSpace (c : Char) : Bool := c = ' ' || c = '\t'

def skipSpaces (cs : List Char) : List Char := cs.dropWhile isSpace

/-- What follows the line end at the beginning of `cs`. -/
def lineEnd? : List Char → Option (List Char)
  | '\n' :: rest | '\r' :: '\n' :: rest => some rest
  | _ => none

/-- What follows a comment, if there is one: the line end, or nothing. -/
def skipComment : List Char → Option (List Char)
  | '#' :: rest =>
    let cs := rest.dropWhile isPlain
    if cs.isEmpty || (lineEnd? cs).isSome then some cs else none
  | cs => some cs

/-- What follows the rest of a line, which may hold a comment. -/
def endLine (cs : List Char) : Option (List Char) := do
  let cs ← skipComment (skipSpaces cs)
  if cs.isEmpty then some [] else lineEnd? cs

/-- What follows spaces, line ends and comments. `fuel` bounds the number of lines. -/
def skipLines : Nat → List Char → Option (List Char)
  | 0, _ => none
  | fuel + 1, cs => do
    let cs ← skipComment (skipSpaces cs)
    match lineEnd? cs with
    | some rest => skipLines fuel rest
    | none => some cs

/-- What follows all spaces, line ends and comments. -/
def skipBlank (cs : List Char) : Option (List Char) :=
  skipLines (cs.length + 1) cs

/-! ## Escapes -/

/-- The character with a code point, unless it is half of a surrogate pair or too large. -/
def scalar? (n : Nat) : Option Char :=
  if n.isValidChar then some (Char.ofNat n) else none

/-- The character written by exactly `width` hexadecimal digits. -/
def codePoint? (width : Nat) (cs : List Char) : Option Char := do
  let ds := cs.take width
  if ds.length = width then scalar? (← Text.number? 16 ds) else none

/-- The character that stands for itself after a backslash, or has a letter there. -/
def shortEscape? : Char → Option Char
  | 'b' => some '\x08'
  | 't' => some '\t'
  | 'n' => some '\n'
  | 'f' => some '\x0C'
  | 'r' => some '\r'
  | 'e' => some '\x1B'
  | '\x22' => some '\x22'
  | '\\' => some '\\'
  | _ => none

/-- How many digits follow a backslash and this letter. -/
def escapeWidth? : Char → Option Nat
  | 'x' => some 2
  | 'u' => some 4
  | 'U' => some 8
  | _ => none

/-- The character written after a backslash, and what follows it. -/
def escape? : List Char → Option (Char × List Char)
  | [] => none
  | c :: rest =>
    match escapeWidth? c with
    | some width => (codePoint? width rest).map fun d => (d, rest.drop width)
    | none => (shortEscape? c).map fun d => (d, rest)

/-! ## Strings -/

/-- A string ends here: the characters read, and what follows. -/
abbrev Rest := List Char × List Char

/-- The rest of a string between single quotation marks. -/
def literalString : List Char → Option Rest
  | [] => none
  | '\x27' :: rest => some ([], rest)
  | c :: rest =>
    if isPlain c then (literalString rest).map fun (s, rest) => (c :: s, rest) else none

/-- The rest of a string between quotation marks. -/
def basicString : Nat → List Char → Option Rest
  | 0, _ | _, [] => none
  | _, '\x22' :: rest => some ([], rest)
  | fuel + 1, '\\' :: rest => do
    let (c, rest) ← escape? rest
    let (s, rest) ← basicString fuel rest
    return (c :: s, rest)
  | fuel + 1, c :: rest =>
    if isPlain c then (basicString fuel rest).map fun (s, rest) => (c :: s, rest) else none

/-- The end of a string between tripled marks: up to two marks before the last three belong to the
string. -/
def closing? (mark : Char) (cs : List Char) : Option Rest :=
  let marks := (cs.takeWhile (· = mark)).length
  if 3 ≤ marks then
    let inside := min (marks - 3) 2
    some (List.replicate inside mark, cs.drop (inside + 3))
  else none

/-- A character that may stand in a string of several lines, and what follows it. -/
def lineChar? : List Char → Option (List Char × List Char)
  | '\n' :: rest => some (['\n'], rest)
  | '\r' :: '\n' :: rest => some (['\r', '\n'], rest)
  | c :: rest => if isPlain c then some ([c], rest) else none
  | [] => none

/-- The rest of a string of several lines between tripled single quotation marks. -/
def longLiteralString : Nat → List Char → Option Rest
  | 0, _ => none
  | fuel + 1, cs =>
    closing? '\x27' cs <|> do
      let (c, rest) ← lineChar? cs
      let (s, rest) ← longLiteralString fuel rest
      return (c ++ s, rest)

/-- What follows a backslash that ends a line: blanks and line ends do not count after it. -/
def joinLines? (cs : List Char) : Option (List Char) := do
  let rest ← lineEnd? (skipSpaces cs)
  go rest.length rest
where
  go : Nat → List Char → Option (List Char)
    | 0, cs => some cs
    | fuel + 1, cs => match lineEnd? (skipSpaces cs) with
      | some rest => go fuel rest
      | none => some (skipSpaces cs)

/-- The rest of a string of several lines between tripled quotation marks. -/
def longBasicString : Nat → List Char → Option Rest
  | 0, _ => none
  | fuel + 1, cs =>
    closing? '\x22' cs <|> match cs with
      | '\\' :: rest => match joinLines? rest with
        | some rest => longBasicString fuel rest
        | none => do
          let (c, rest) ← escape? rest
          let (s, rest) ← longBasicString fuel rest
          return (c :: s, rest)
      | _ => do
        let (c, rest) ← lineChar? cs
        let (s, rest) ← longBasicString fuel rest
        return (c ++ s, rest)

/-- A line end right after the opening marks does not count. -/
def afterOpening (cs : List Char) : List Char := (lineEnd? cs).getD cs

/-- The string at the beginning of `cs`, and what follows it. -/
def string? (cs : List Char) : Option (String × List Char) :=
  let fuel := cs.length + 1
  let rest : Option Rest := match cs with
    | '\x22' :: '\x22' :: '\x22' :: rest => longBasicString fuel (afterOpening rest)
    | '\x27' :: '\x27' :: '\x27' :: rest => longLiteralString fuel (afterOpening rest)
    | '\x22' :: rest => basicString fuel rest
    | '\x27' :: rest => literalString rest
    | _ => none
  rest.map fun (s, rest) => (.ofList s, rest)

/-! ## Keys -/

def isBareKeyChar (c : Char) : Bool :=
  c.isAlphanum || c = '_' || c = '-'

/-- One part of a key, and what follows it. -/
def keyPart? (cs : List Char) : Option (String × List Char) :=
  match cs with
  | '\x22' :: rest => (basicString (cs.length + 1) rest).map fun (s, rest) => (.ofList s, rest)
  | '\x27' :: rest => (literalString rest).map fun (s, rest) => (.ofList s, rest)
  | _ => match cs.takeWhile isBareKeyChar with
    | [] => none
    | part => some (.ofList part, cs.dropWhile isBareKeyChar)

/-- The parts of a key after the first one, which are fewer than `room`. -/
def keyTail : Nat → List Char → Option (List String × List Char)
  | 0, _ => none
  | room + 1, cs => match skipSpaces cs with
    | '.' :: rest => do
      let (part, rest) ← keyPart? (skipSpaces rest)
      let (parts, rest) ← keyTail room rest
      return (part :: parts, rest)
    | rest => some ([], rest)

/-- How many parts a key may have. -/
def maxParts : Nat := 80

/-- A key with all its parts, and what follows it and the spaces after it. -/
def key? (cs : List Char) : Option (List String × List Char) := do
  let (part, rest) ← keyPart? cs
  let (parts, rest) ← keyTail maxParts rest
  return (part :: parts, rest)

end Testbed.Toml
