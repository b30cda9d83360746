/-!
# Reading UTF-8

Bytes are read one at a time. What comes out are pieces: characters, and maximal ill-formed runs,
that is, runs that begin a character and are cut off, or single bytes that begin none. `decodeLossy`
writes U+FFFD for each ill-formed run; `decode` refuses them.
-/

namespace Testbed.Text.Utf8

/-- A character, or the bytes of a maximal ill-formed run. -/
abbrev Piece := Except (List UInt8) Char

/-- A character of which the first bytes have been read. -/
structure Partial where
  /-- The bytes read so far. -/
  read : List UInt8
  /-- The bits of the bytes read so far. -/
  bits : Nat
  /-- How many bytes are missing after the next one. -/
  more : Nat
  /-- The least next byte that can follow. -/
  low : UInt8
  /-- The greatest next byte that can follow. -/
  high : UInt8

/-- Reads a byte that begins a character. -/
def start (b : UInt8) : List Piece × Option Partial :=
  let n := b.toNat
  if n < 0x80 then ([.ok (Char.ofNat n)], none)
  else if 0xC2 ≤ n && n ≤ 0xDF then ([], some ⟨[b], n % 0x20, 0, 0x80, 0xBF⟩)
  else if 0xE0 ≤ n && n ≤ 0xEF then
    ([], some ⟨[b], n % 0x10, 1, if n = 0xE0 then 0xA0 else 0x80, if n = 0xED then 0x9F else 0xBF⟩)
  else if 0xF0 ≤ n && n ≤ 0xF4 then
    ([], some ⟨[b], n % 0x08, 2, if n = 0xF0 then 0x90 else 0x80, if n = 0xF4 then 0x8F else 0xBF⟩)
  else ([.error [b]], none)

/-- Reads a byte after the first bytes of a character. A byte that cannot follow ends an ill-formed
run and begins a character of its own. -/
def resume (p : Partial) (b : UInt8) : List Piece × Option Partial :=
  if p.low ≤ b && b ≤ p.high then
    let bits := p.bits * 0x40 + b.toNat % 0x40
    match p.more with
    | 0 => ([.ok (Char.ofNat bits)], none)
    | more + 1 => ([], some ⟨p.read ++ [b], bits, more, 0x80, 0xBF⟩)
  else
    let (pieces, rest) := start b
    (.error p.read :: pieces, rest)

def piecesFrom : Option Partial → List UInt8 → List Piece
  | none, [] => []
  | some p, [] => [.error p.read]
  | none, b :: bytes =>
    let (pieces, rest) := start b
    pieces ++ piecesFrom rest bytes
  | some p, b :: bytes =>
    let (pieces, rest) := resume p b
    pieces ++ piecesFrom rest bytes

/-- The characters and ill-formed runs of a byte string, in order. -/
def pieces (bytes : List UInt8) : List Piece :=
  piecesFrom none bytes

/-- The text of a byte string, with U+FFFD for each maximal ill-formed run. -/
def decodeLossy (bytes : List UInt8) : String :=
  .ofList <| (pieces bytes).map fun
    | .ok c => c
    | .error _ => '\uFFFD'

/-- The text of a well-formed byte string. -/
def decode (bytes : List UInt8) : Option String :=
  ((pieces bytes).mapM fun (piece : Piece) => piece.toOption).map .ofList

/-- The bytes of a text. -/
def encode (s : String) : List UInt8 :=
  s.toUTF8.data.toList

end Testbed.Text.Utf8
