import Mathlib.Data.List.Forall2
import Testbed.Log.Record
import Testbed.Proofs.TimestampReading

/-!
# Reading a log

What an engine writes of the output of a container is a stream of bytes: lines, each with the time
it was written at. Reading gives one record for each line, whatever the bytes are, and the record of
a line that an engine has written holds the time and the content that the engine wrote. All that
this takes of the reader of timestamps is that it undoes printing.
-/

namespace Testbed

/-! ## Texts with one byte for each character -/

namespace Text.Utf8

theorem encode_ofList (cs : List Char) :
    encode (.ofList cs) = cs.flatMap String.utf8EncodeChar := by
  simp [encode, String.toUTF8, List.utf8Encode]

theorem encodeChar_of_lt {c : Char} (h : c.toNat < 0x80) :
    String.utf8EncodeChar c = [UInt8.ofNat c.toNat] := by
  have small : c.val ≤ 127 := UInt32.le_iff_toNat_le.2 (Nat.le_of_lt_succ h)
  exact String.utf8EncodeChar_eq_singleton (Char.utf8Size_eq_one_iff.2 small)

theorem encode_ascii {s : String} (h : ∀ c ∈ s.toList, c.toNat < 0x80) :
    encode s = s.toList.map fun c => UInt8.ofNat c.toNat := by
  have bytes : ∀ cs : List Char, (∀ c ∈ cs, c.toNat < 0x80) →
      cs.flatMap String.utf8EncodeChar = cs.map fun c => UInt8.ofNat c.toNat := by
    intro cs small
    induction cs with
    | nil => rfl
    | cons c cs ih =>
      rw [List.forall_mem_cons] at small
      simp [encodeChar_of_lt small.1, ih small.2]
  rw [← bytes _ h, ← encode_ofList, String.ofList_toList]

theorem pieces_ascii {cs : List Char} (h : ∀ c ∈ cs, c.toNat < 0x80) :
    pieces (cs.map fun c => UInt8.ofNat c.toNat) = cs.map .ok := by
  induction cs with
  | nil => rfl
  | cons c cs ih =>
    rw [List.forall_mem_cons] at h
    have byte : (UInt8.ofNat c.toNat).toNat = c.toNat := by
      rw [UInt8.toNat_ofNat']
      omega
    have first : start (UInt8.ofNat c.toNat) = ([.ok c], none) := by
      simp [start, byte, h.1]
    simpa [pieces, piecesFrom, first] using ih h.2

theorem decode_encode_ascii {s : String} (h : ∀ c ∈ s.toList, c.toNat < 0x80) :
    decode (encode s) = some s := by
  have whole (cs : List Char) :
      (cs.map Except.ok).mapM (fun (piece : Piece) => piece.toOption) = some cs := by
    induction cs with
    | nil => rfl
    | cons c cs ih =>
      rw [List.map_cons, List.mapM_cons, ih]
      rfl
  rw [decode, encode_ascii h, pieces_ascii h, whole, Option.map_some, String.ofList_toList]

end Text.Utf8

/-! ## Lines -/

def lineFeed : UInt8 := 0x0A

def carriageReturn : UInt8 := 0x0D

/-- The lines that a stream is made of. Each of them ends at a line feed, but the last one may be
cut off at the end of the stream, unless nothing is there of it. -/
inductive Lines : List UInt8 → List (List UInt8) → Prop
  | done : Lines [] []
  | cutOff {line : List UInt8} (plain : lineFeed ∉ line) (some : line ≠ []) : Lines line [line]
  | ended {line bytes : List UInt8} {lines : List (List UInt8)} (plain : lineFeed ∉ line)
      (rest : Lines bytes lines) : Lines (line ++ lineFeed :: bytes) (line :: lines)

section Lines

variable {b : UInt8} {line bytes : List UInt8} {lines : List (List UInt8)}

theorem linesOf_lineFeed : linesOf (lineFeed :: bytes) = [] :: linesOf bytes :=
  if_pos rfl

theorem linesOf_last (h : b ≠ lineFeed) (none : linesOf bytes = []) :
    linesOf (b :: bytes) = [[b]] := by
  have other : b ≠ 0x0A := h
  rw [linesOf, if_neg other, none]

theorem linesOf_cons (h : b ≠ lineFeed) (some : linesOf bytes = line :: lines) :
    linesOf (b :: bytes) = (b :: line) :: lines := by
  have other : b ≠ 0x0A := h
  rw [linesOf, if_neg other, some]

theorem linesOf_ended (h : lineFeed ∉ line) (bytes : List UInt8) :
    linesOf (line ++ lineFeed :: bytes) = line :: linesOf bytes := by
  induction line with
  | nil => exact linesOf_lineFeed
  | cons b line ih =>
    rw [List.mem_cons, not_or] at h
    exact linesOf_cons (Ne.symm h.1) (ih h.2)

theorem linesOf_cutOff (h : lineFeed ∉ line) (some : line ≠ []) : linesOf line = [line] := by
  induction line with
  | nil => exact absurd rfl some
  | cons b line ih =>
    rw [List.mem_cons, not_or] at h
    cases line with
    | nil => exact linesOf_last (Ne.symm h.1) rfl
    | cons b' line => exact linesOf_cons (Ne.symm h.1) (ih h.2 (by simp))

theorem lines_linesOf (bytes : List UInt8) : Lines bytes (linesOf bytes) := by
  induction bytes with
  | nil => exact .done
  | cons b bytes ih =>
    by_cases feed : b = lineFeed
    · rw [feed, linesOf_lineFeed]
      exact .ended (List.not_mem_nil (a := lineFeed)) ih
    · -- A byte that ends no line is the first one of the line after it.
      have plain {line : List UInt8} (h : lineFeed ∉ line) : lineFeed ∉ b :: line := by
        simp [h, Ne.symm feed]
      generalize eq : linesOf bytes = lines at ih
      cases ih with
      | done =>
        rw [linesOf_last feed eq]
        exact .cutOff (plain (by simp)) (by simp)
      | cutOff rest some =>
        rw [linesOf_cons feed eq]
        exact .cutOff (plain rest) (by simp)
      | ended first rest =>
        rw [linesOf_cons feed eq]
        exact .ended (plain first) rest

/-- A stream is made of one list of lines only. -/
theorem linesOf_eq_iff : linesOf bytes = lines ↔ Lines bytes lines := by
  constructor
  · rintro rfl
    exact lines_linesOf bytes
  · intro h
    induction h with
    | done => rfl
    | cutOff plain some => exact linesOf_cutOff plain some
    | ended plain rest ih => rw [linesOf_ended plain, ih]

end Lines

/-- `rest` is what is read of a line: the line without one carriage return at its end. -/
def Strips (line rest : List UInt8) : Prop :=
  line = rest ++ [carriageReturn] ∨ line = rest ∧ rest.getLast? ≠ some carriageReturn

theorem withoutReturn_return (rest : List UInt8) :
    withoutReturn (rest ++ [carriageReturn]) = rest := by
  simp [withoutReturn, carriageReturn]

theorem withoutReturn_of_ne {rest : List UInt8} (h : rest.getLast? ≠ some carriageReturn) :
    withoutReturn rest = rest :=
  if_neg h

theorem strips_withoutReturn (line : List UInt8) : Strips line (withoutReturn line) := by
  by_cases h : line.getLast? = some carriageReturn
  · obtain ⟨rest, rfl⟩ := List.getLast?_eq_some_iff.1 h
    rw [withoutReturn_return]
    exact .inl rfl
  · rw [withoutReturn_of_ne h]
    exact .inr ⟨rfl, h⟩

/-! ## Records -/

namespace LogRecord

variable {reader : Timestamp.Reader} {source : LogSource} {line stamp content : List UInt8}
  {t : Timestamp}

/-- A line is split at the first blank in it. -/
theorem splitAtBlank_eq_some_iff {before after : List UInt8} :
    splitAtBlank line = some (before, after) ↔
      line = before ++ blank :: after ∧ blank ∉ before := by
  induction line generalizing before with
  | nil => simp [splitAtBlank]
  | cons b line ih =>
    by_cases first : b = blank
    · rw [splitAtBlank, if_pos first, first]
      cases before with
      | nil => simp [eq_comm]
      | cons b' before =>
        simp only [List.cons_append, List.cons.injEq, List.mem_cons, not_or]
        constructor
        · rintro ⟨⟩
        · rintro ⟨⟨same, -⟩, ⟨other, -⟩⟩
          exact absurd same other
    · rw [splitAtBlank, if_neg first]
      cases before with
      | nil => simp [first]
      | cons b' before =>
        have later : blank ∉ b' :: before ↔ blank ≠ b' ∧ blank ∉ before := by simp
        simp only [Option.map_eq_some_iff, Prod.exists, Prod.mk.injEq, List.cons.injEq, later,
          List.cons_append]
        constructor
        · rintro ⟨before', after', split, ⟨rfl, rfl⟩, rfl⟩
          obtain ⟨rfl, plain⟩ := ih.1 split
          exact ⟨⟨rfl, rfl⟩, Ne.symm first, plain⟩
        · rintro ⟨⟨rfl, rfl⟩, -, plain⟩
          exact ⟨before, after, ih.2 ⟨rfl, plain⟩, ⟨rfl, rfl⟩, rfl⟩

/-- The bytes are a text that is read as the timestamp. -/
def Stamps (reader : Timestamp.Reader) (stamp : List UInt8) (t : Timestamp) : Prop :=
  ∃ text, Text.Utf8.decode stamp = some text ∧ reader text.toList = some t

theorem timestamped?_eq_some_iff :
    timestamped? reader line = some (t, content) ↔
      ∃ stamp, line = stamp ++ blank :: content ∧ blank ∉ stamp ∧ Stamps reader stamp t := by
  simp only [timestamped?, Option.bind_eq_bind, Option.bind_eq_some_iff, Option.pure_def,
    Option.some.injEq, Prod.mk.injEq, Prod.exists, splitAtBlank_eq_some_iff, Stamps]
  constructor
  · rintro ⟨stamp, -, ⟨rfl, plain⟩, text, decoded, time, parsed, rfl, rfl⟩
    exact ⟨stamp, rfl, plain, text, decoded, parsed⟩
  · rintro ⟨stamp, rfl, plain, text, decoded, parsed⟩
    exact ⟨stamp, content, ⟨rfl, plain⟩, text, decoded, t, parsed, rfl, rfl⟩

/-- The record of a line: what follows the first blank if a timestamp stands before it, else the
whole line. -/
inductive ReadsAs (reader : Timestamp.Reader) (source : LogSource) : List UInt8 → LogRecord → Prop
  | stamped {stamp content : List UInt8} {t : Timestamp} (plain : blank ∉ stamp)
      (time : Stamps reader stamp t) :
      ReadsAs reader source (stamp ++ blank :: content) ⟨some t, source, content⟩
  | whole {line : List UInt8}
      (unstamped : ∀ stamp content t, line = stamp ++ blank :: content → blank ∉ stamp →
        ¬ Stamps reader stamp t) : ReadsAs reader source line ⟨none, source, line⟩

theorem ofLineBy_stamped (plain : blank ∉ stamp) (time : Stamps reader stamp t) :
    ofLineBy reader source (stamp ++ blank :: content) = ⟨some t, source, content⟩ := by
  have read : timestamped? reader (stamp ++ blank :: content) = some (t, content) :=
    timestamped?_eq_some_iff.2 ⟨stamp, rfl, plain, time⟩
  rw [ofLineBy, read]

theorem readsAs_ofLineBy (reader : Timestamp.Reader) (source : LogSource) (line : List UInt8) :
    ReadsAs reader source line (ofLineBy reader source line) := by
  match eq : timestamped? reader line with
  | some (t, content) =>
    obtain ⟨stamp, rfl, plain, time⟩ := timestamped?_eq_some_iff.1 eq
    rw [ofLineBy_stamped plain time]
    exact .stamped plain time
  | none =>
    rw [ofLineBy, eq]
    refine .whole fun stamp content t split plain time => ?_
    rw [timestamped?_eq_some_iff.2 ⟨stamp, split, plain, time⟩] at eq
    cases eq

end LogRecord

/-! ## What an engine prints -/

/-- What an engine prints of a container at a time. -/
structure Printed where
  time : Timestamp
  content : List UInt8

/-- What a line ends with. -/
inductive LineEnd where
  | lineFeed
  | returnLineFeed

def LineEnd.bytes : LineEnd → List UInt8
  | lineFeed => [Testbed.lineFeed]
  | returnLineFeed => [carriageReturn, Testbed.lineFeed]

namespace Printed

/-- The time and the content with a blank between them. -/
def bytes (p : Printed) : List UInt8 :=
  Text.Utf8.encode p.time.text ++ LogRecord.blank :: p.content

def record (source : LogSource) (p : Printed) : LogRecord :=
  ⟨some p.time, source, p.content⟩

/-- A time with a year of four digits and a content that is all on one line. -/
structure Plain (p : Printed) : Prop where
  valid : p.time.Valid
  first : 0 ≤ p.time.year
  last : p.time.year ≤ 9999
  oneLine : lineFeed ∉ p.content
  noReturn : p.content.getLast? ≠ some carriageReturn

variable {p : Printed} {reader : Timestamp.Reader} {source : LogSource}

theorem Plain.ascii (h : p.Plain) {c : Char} (mem : c ∈ p.time.text.toList) : c.toNat < 0x80 := by
  have := Timestamp.visible_of_mem_text h.first h.last mem
  omega

/-- No byte of a printed time is a blank or ends a line. -/
theorem Plain.visible (h : p.Plain) {b : UInt8} (mem : b ∈ Text.Utf8.encode p.time.text) :
    0x20 < b.toNat := by
  rw [Text.Utf8.encode_ascii fun c => h.ascii, List.mem_map] at mem
  obtain ⟨c, mem, rfl⟩ := mem
  have := Timestamp.visible_of_mem_text h.first h.last mem
  rw [UInt8.toNat_ofNat']
  omega

theorem Plain.stamps (h : p.Plain) (reads : reader.UndoesPrinting) :
    LogRecord.Stamps reader (Text.Utf8.encode p.time.text) p.time :=
  ⟨p.time.text, Text.Utf8.decode_encode_ascii fun _ => h.ascii,
    reads p.time h.valid h.first h.last⟩

theorem Plain.ofLineBy_bytes (h : p.Plain) (reads : reader.UndoesPrinting) :
    LogRecord.ofLineBy reader source p.bytes = p.record source :=
  LogRecord.ofLineBy_stamped (fun mem => absurd (h.visible mem) (by decide)) (h.stamps reads)

theorem Plain.lineFeed_notMem (h : p.Plain) : lineFeed ∉ p.bytes := by
  simp only [bytes, List.mem_append, List.mem_cons, not_or]
  exact ⟨fun mem => absurd (h.visible mem) (by decide), by decide, h.oneLine⟩

theorem Plain.getLast?_bytes (h : p.Plain) : p.bytes.getLast? ≠ some carriageReturn := by
  have noReturn := h.noReturn
  rw [bytes, List.getLast?_append, List.getLast?_cons]
  cases eq : p.content.getLast? with
  | none => simp [LogRecord.blank, carriageReturn]
  | some b => simpa [eq] using noReturn

/-- A printed line that has come to its end is read as its record, before the lines after it. -/
theorem Plain.recordsBy_ended (h : p.Plain) (reads : reader.UndoesPrinting) (e : LineEnd)
    (rest : List UInt8) :
    recordsBy reader source (p.bytes ++ (e.bytes ++ rest)) =
      p.record source :: recordsBy reader source rest := by
  cases e with
  | lineFeed =>
    have split : p.bytes ++ (LineEnd.lineFeed.bytes ++ rest) = p.bytes ++ lineFeed :: rest := rfl
    rw [split, recordsBy, linesOf_ended h.lineFeed_notMem, List.map_cons,
      withoutReturn_of_ne h.getLast?_bytes, h.ofLineBy_bytes reads, recordsBy]
  | returnLineFeed =>
    -- The carriage return is the last byte of the line, and is taken off with it.
    have split : p.bytes ++ (LineEnd.returnLineFeed.bytes ++ rest)
        = (p.bytes ++ [carriageReturn]) ++ lineFeed :: rest := by
      simp [LineEnd.bytes]
    have plain : lineFeed ∉ p.bytes ++ [carriageReturn] := by
      rw [List.mem_append, not_or]
      exact ⟨h.lineFeed_notMem, by decide⟩
    rw [split, recordsBy, linesOf_ended plain, List.map_cons, withoutReturn_return,
      h.ofLineBy_bytes reads, recordsBy]

theorem Plain.recordsBy_cutOff (h : p.Plain) (reads : reader.UndoesPrinting) :
    recordsBy reader source p.bytes = [p.record source] := by
  have some : p.bytes ≠ [] := by simp [bytes]
  rw [recordsBy, linesOf_cutOff h.lineFeed_notMem some, List.map_cons,
    withoutReturn_of_ne h.getLast?_bytes, h.ofLineBy_bytes reads, List.map_nil]

end Printed

/-! ## Whole streams -/

/-- What an engine writes for a container: lines that have come to their ends, and what there is of
a line that has not. -/
structure Printout where
  ended : List (Printed × LineEnd)
  last : Option Printed

namespace Printout

def lines (out : Printout) : List Printed :=
  out.ended.map Prod.fst ++ out.last.toList

def bytes (out : Printout) : List UInt8 :=
  out.ended.flatMap (fun line => line.1.bytes ++ line.2.bytes) ++
    out.last.toList.flatMap Printed.bytes

end Printout

/-- There is one record for each line of `bytes`, of what is left of it without one carriage return
at its end. -/
def LineByLine (reader : Timestamp.Reader) (source : LogSource) (bytes : List UInt8)
    (records : List LogRecord) : Prop :=
  ∃ lines : List (List UInt8), (∀ lines', Lines bytes lines' ↔ lines' = lines) ∧
    List.Forall₂ (fun line record => ∃ rest, Strips line rest ∧
      LogRecord.ReadsAs reader source rest record) lines records

theorem recordsBy_lineByLine (reader : Timestamp.Reader) (source : LogSource)
    (bytes : List UInt8) : LineByLine reader source bytes (recordsBy reader source bytes) := by
  refine ⟨linesOf bytes, fun lines' => ?_, ?_⟩
  · rw [← linesOf_eq_iff, eq_comm]
  · rw [recordsBy, List.forall₂_map_right_iff, List.forall₂_same]
    exact fun line _ => ⟨_, strips_withoutReturn line, LogRecord.readsAs_ofLineBy reader source _⟩

theorem recordsBy_printout {reader : Timestamp.Reader} (reads : reader.UndoesPrinting)
    (source : LogSource) (out : Printout) (plain : ∀ p ∈ out.lines, p.Plain) :
    recordsBy reader source out.bytes = out.lines.map (·.record source) := by
  obtain ⟨ended, last⟩ := out
  induction ended with
  | nil =>
    cases last with
    | none => rfl
    | some p =>
      have read : recordsBy reader source p.bytes = [p.record source] :=
        (plain p (by simp [Printout.lines])).recordsBy_cutOff reads
      simpa [Printout.lines, Printout.bytes] using read
  | cons line ended ih =>
    rw [Printout.lines, List.map_cons, List.cons_append, List.forall_mem_cons] at plain
    have first : recordsBy reader source
          (line.1.bytes ++ (line.2.bytes ++ Printout.bytes ⟨ended, last⟩)) =
        line.1.record source :: recordsBy reader source (Printout.bytes ⟨ended, last⟩) :=
      plain.1.recordsBy_ended reads line.2 _
    rw [ih plain.2] at first
    simpa [Printout.lines, Printout.bytes] using first

/-- Reading undoes printing: each line that an engine has printed, the last one also without an end,
is read as the time and the content it was printed with, and nothing else is read. A stream of any
other bytes is read line by line as well: each line without one carriage return at its end is a
record, of what follows its first blank if a timestamp stands before it and of the whole line
otherwise. Any other reader of timestamps also has streams read line by line, and printed lines as
they were printed if it undoes the printing of timestamps. -/
theorem recordsOf_undoes_printing :
    (∀ (source : LogSource) (out : Printout), (∀ p ∈ out.lines, p.Plain) →
      recordsOf source out.bytes = out.lines.map (·.record source)) ∧
    (∀ (source : LogSource) (bytes : List UInt8),
      LineByLine Timestamp.parse source bytes (recordsOf source bytes)) ∧
    ∀ reader : Timestamp.Reader,
      (reader.UndoesPrinting → ∀ (source : LogSource) (out : Printout), (∀ p ∈ out.lines, p.Plain) →
        recordsBy reader source out.bytes = out.lines.map (·.record source)) ∧
      ∀ (source : LogSource) (bytes : List UInt8),
        LineByLine reader source bytes (recordsBy reader source bytes) := by
  refine ⟨?_, recordsBy_lineByLine Timestamp.parse, fun reader => ⟨?_, ?_⟩⟩
  · exact recordsBy_printout Timestamp.parse_undoesPrinting
  · intro reads source out plain
    exact recordsBy_printout reads source out plain
  · exact recordsBy_lineByLine reader

/-- Contents that look like a line with a time, are no text, or are nothing at all. -/
def deceptivePrintout : Printout where
  ended :=
    [(⟨⟨2024, 3, 5, 10, 11, 12, 123456789⟩,
      Text.Utf8.encode "2023-01-01T00:00:00.000000000Z ready"⟩, .returnLineFeed),
    (⟨⟨0, 12, 31, 23, 59, 59, 1⟩, [0x20, carriageReturn, 0x20, 0xFF]⟩, .lineFeed)]
  last := some ⟨⟨9999, 1, 1, 0, 0, 0, 0⟩, []⟩

theorem recordsOf_deceptivePrintout :
    (∀ p ∈ deceptivePrintout.lines, p.Plain) ∧
      Timestamp.Reader.UndoesPrinting Timestamp.parse ∧
      recordsOf .stderr deceptivePrintout.bytes =
        [⟨some ⟨2024, 3, 5, 10, 11, 12, 123456789⟩, .stderr,
          Text.Utf8.encode "2023-01-01T00:00:00.000000000Z ready"⟩,
        ⟨some ⟨0, 12, 31, 23, 59, 59, 1⟩, .stderr, [0x20, carriageReturn, 0x20, 0xFF]⟩,
        ⟨some ⟨9999, 1, 1, 0, 0, 0, 0⟩, .stderr, []⟩] := by
  have plain : ∀ p ∈ deceptivePrintout.lines, p.Plain := by
    simp only [deceptivePrintout, Printout.lines, List.map_cons, List.map_nil, List.cons_append,
      List.nil_append, Option.toList_some, List.forall_mem_cons]
    exact ⟨⟨by decide, by decide, by decide, by decide, by decide⟩,
      ⟨by decide, by decide, by decide, by decide, by decide⟩,
      ⟨by decide, by decide, by decide, by decide, by decide⟩, by simp⟩
  have reads := Timestamp.parse_undoesPrinting
  have read := (recordsOf_undoes_printing.2.2 Timestamp.parse).1 reads .stderr _ plain
  exact ⟨plain, reads, read⟩

end Testbed
