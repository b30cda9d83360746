import Mathlib.Data.List.TakeWhile
import Testbed.Proofs.ArgumentReading
import Testbed.Proofs.ClientEnds

/-!
# Reading a published port

A client that is asked for a port writes the addresses that the port is published on, one on each
line. The port is what stands after the last colon of the first line, blanks aside. It is read if it
is a decimal number that a port can have, and nothing else is read as a port.
-/

namespace Testbed

namespace Text

variable {p : Char → Bool} {sep : Char} {cs core field : List Char}

/-! ## Blanks at the ends of a text -/

/-- `core` is what is left of `cs` when all that satisfies `p` is taken off at both ends. -/
inductive Trims (p : Char → Bool) : List Char → List Char → Prop
  | mk {left core right : List Char} (before : ∀ c ∈ left, p c = true)
      (after : ∀ c ∈ right, p c = true) (first : ∀ c ∈ core.head?, p c = false)
      (last : ∀ c ∈ core.getLast?, p c = false) : Trims p (left ++ core ++ right) core

theorem dropEndWhile_append {right : List Char} (h : ∀ c ∈ right, p c = true) (cs : List Char) :
    dropEndWhile p (cs ++ right) = dropEndWhile p cs := by
  have same : ∀ c ∈ right.reverse, p c = true := fun c mem => h c (List.mem_reverse.1 mem)
  rw [dropEndWhile, List.reverse_append, List.dropWhile_append_of_pos same, dropEndWhile]

theorem not_of_mem_head?_dropWhile {c : Char} (h : c ∈ (cs.dropWhile p).head?) : p c = false := by
  have first := List.head?_dropWhile_not p cs
  rwa [Option.mem_def.1 h] at first

/-- What is taken off at the end. -/
theorem exists_dropEndWhile_append (p : Char → Bool) (cs : List Char) :
    ∃ right, cs = dropEndWhile p cs ++ right ∧ (∀ c ∈ right, p c = true) ∧
      ∀ c ∈ (dropEndWhile p cs).getLast?, p c = false := by
  refine ⟨(cs.reverse.takeWhile p).reverse, ?_, fun c mem => ?_, fun c mem => ?_⟩
  · rw [dropEndWhile, ← List.reverse_append, List.takeWhile_append_dropWhile, List.reverse_reverse]
  · exact List.mem_takeWhile_imp (List.mem_reverse.1 mem)
  · rw [dropEndWhile, List.getLast?_reverse] at mem
    exact not_of_mem_head?_dropWhile mem

theorem trims_trimWhile (p : Char → Bool) (cs : List Char) : Trims p cs (trimWhile p cs) := by
  obtain ⟨right, eq, after, last⟩ := exists_dropEndWhile_append p (cs.dropWhile p)
  have first : ∀ c ∈ (trimWhile p cs).head?, p c = false := by
    intro c mem
    -- What is taken off at the end comes later, so the text began with `c` before that too.
    have core : (dropEndWhile p (cs.dropWhile p)).head? = some c := mem
    have begins : (cs.dropWhile p).head? = some c := by
      rw [eq, List.head?_append, core, Option.some_or]
    exact not_of_mem_head?_dropWhile begins
  have whole : cs = cs.takeWhile p ++ trimWhile p cs ++ right := by
    rw [List.append_assoc, trimWhile, ← eq, List.takeWhile_append_dropWhile]
  have trims : Trims p (cs.takeWhile p ++ trimWhile p cs ++ right) (trimWhile p cs) :=
    .mk (fun c => List.mem_takeWhile_imp) after first last
  rwa [← whole] at trims

/-- Only one text is left. -/
theorem trimWhile_eq_iff : trimWhile p cs = core ↔ Trims p cs core := by
  constructor
  · rintro rfl
    exact trims_trimWhile p cs
  · rintro ⟨before, after, first, last⟩
    rw [trimWhile, List.append_assoc, List.dropWhile_append_of_pos before]
    cases core with
    | nil =>
      rw [List.nil_append, List.dropWhile_eq_nil_iff.2 after]
      rfl
    | cons c core =>
      rw [List.cons_append, List.dropWhile_cons_of_neg (by simp [first c rfl]), ← List.cons_append,
        dropEndWhile_append after, dropEndWhile_eq_self last]

/-- Nothing is taken off at the end of a text that ends with none of `p`. -/
theorem trims_behind (before : List Char) (h : p sep = false) (plain : ∀ c ∈ field, p c = false) :
    Trims p (before ++ sep :: field) (before.dropWhile p ++ sep :: field) := by
  have first : ∀ c ∈ (before.dropWhile p ++ sep :: field).head?, p c = false := by
    intro c mem
    rw [Option.mem_def, List.head?_append, Option.or_eq_some_iff] at mem
    obtain begins | ⟨-, next⟩ := mem
    · exact not_of_mem_head?_dropWhile begins
    · exact Option.some.inj next ▸ h
  have last : ∀ c ∈ (before.dropWhile p ++ sep :: field).getLast?, p c = false := by
    intro c mem
    rw [List.getLast?_append, List.getLast?_cons, Option.some_or, ← List.getLast?_cons] at mem
    obtain rfl | inside := List.mem_cons.1 (List.mem_of_getLast? mem)
    · exact h
    · exact plain c inside
  have trims : Trims p (before.takeWhile p ++ (before.dropWhile p ++ sep :: field) ++ [])
      (before.dropWhile p ++ sep :: field) :=
    .mk (fun c => List.mem_takeWhile_imp) nofun first last
  rwa [List.append_nil, ← List.append_assoc, List.takeWhile_append_dropWhile] at trims

/-! ## The last part of a text -/

/-- `field` is the last part of a text between separators. -/
inductive LastPart (sep : Char) (field : List Char) : List Char → Prop
  | whole (plain : sep ∉ field) : LastPart sep field field
  | behind (plain : sep ∉ field) (before : List Char) : LastPart sep field (before ++ sep :: field)

theorem splitOn_ne_nil (sep : Char) (cs : List Char) : splitOn sep cs ≠ [] := by
  cases cs with
  | nil => exact List.cons_ne_nil _ _
  | cons c cs =>
    unfold splitOn
    split
    · exact List.cons_ne_nil _ _
    · split <;> exact List.cons_ne_nil _ _

/-- A text is cut at each separator by itself. -/
theorem splitOn_append_cons (sep : Char) (before after : List Char) :
    splitOn sep (before ++ sep :: after) = splitOn sep before ++ splitOn sep after := by
  induction before with
  | nil => simp [splitOn]
  | cons c before ih =>
    obtain ⟨part, parts, eq⟩ := List.exists_cons_of_ne_nil (splitOn_ne_nil sep before)
    rw [List.cons_append, splitOn, splitOn, ih, eq]
    split <;> rfl

theorem exists_lastPart (sep : Char) (cs : List Char) : ∃ field, LastPart sep field cs := by
  induction cs with
  | nil => exact ⟨[], .whole List.not_mem_nil⟩
  | cons c cs ih =>
    obtain ⟨field, plain | ⟨plain, before⟩⟩ := ih
    · by_cases same : c = sep
      · exact ⟨cs, same ▸ .behind plain []⟩
      · exact ⟨c :: cs, .whole (by simp [plain, Ne.symm same])⟩
    · exact ⟨field, .behind plain (c :: before)⟩

theorem getLast?_splitOn_eq_some_iff :
    (splitOn sep cs).getLast? = some field ↔ LastPart sep field cs := by
  have reads {field : List Char} (h : LastPart sep field cs) :
      (splitOn sep cs).getLast? = some field := by
    cases h with
    | whole plain => rw [splitOn_of_notMem plain]; rfl
    | behind plain before => simp [splitOn_append_cons, splitOn_of_notMem plain]
  refine ⟨fun last => ?_, reads⟩
  -- There is a last part, and it is the one that was read.
  obtain ⟨field', h⟩ := exists_lastPart sep cs
  obtain rfl : field' = field := Option.some.inj ((reads h).symm.trans last)
  exact h

end Text

namespace Docker

/-! ## Decimal numbers -/

/-- One or more decimal digits, perhaps after a plus sign, and the number that they write. -/
inductive Numeral : List Char → Nat → Prop
  | plain {digits : List Char} (some : digits ≠ []) (decimal : ∀ c ∈ digits, c.isDigit = true) :
      Numeral digits (Nat.ofDigitChars 10 digits 0)
  | signed {digits : List Char} (some : digits ≠ []) (decimal : ∀ c ∈ digits, c.isDigit = true) :
      Numeral ('+' :: digits) (Nat.ofDigitChars 10 digits 0)

/-- `cs` without a plus sign in front. -/
def withoutPlus : List Char → List Char
  | '+' :: rest => rest
  | cs => cs

theorem withoutPlus_cases (cs : List Char) : (∃ rest, cs = '+' :: rest) ∨ withoutPlus cs = cs := by
  unfold withoutPlus
  split
  · exact .inl ⟨_, rfl⟩
  · exact .inr rfl

theorem withoutPlus_of_decimal {digits : List Char} (h : ∀ c ∈ digits, c.isDigit = true) :
    withoutPlus digits = digits := by
  obtain ⟨rest, rfl⟩ | plain := withoutPlus_cases digits
  · -- A plus sign is no digit.
    exact absurd (h '+' List.mem_cons_self) (by decide)
  · exact plain

theorem numeral_iff {cs : List Char} {n : Nat} :
    Numeral cs n ↔ withoutPlus cs ≠ [] ∧ (∀ c ∈ withoutPlus cs, c.isDigit = true) ∧
      Nat.ofDigitChars 10 (withoutPlus cs) 0 = n := by
  constructor
  · rintro (⟨some, decimal⟩ | ⟨some, decimal⟩)
    · rw [withoutPlus_of_decimal decimal]
      exact ⟨some, decimal, rfl⟩
    · exact ⟨some, decimal, rfl⟩
  · rintro ⟨some, decimal, rfl⟩
    obtain ⟨rest, rfl⟩ | plain := withoutPlus_cases cs
    · exact .signed some decimal
    · rw [plain] at some decimal ⊢
      exact .plain some decimal

theorem portOfDigits?_eq (cs : List Char) :
    portOfDigits? cs =
      if (withoutPlus cs).isEmpty || !(withoutPlus cs).all Char.isDigit then none
      else if Nat.ofDigitChars 10 (withoutPlus cs) 0 ≤ 65535 then
        some (.ofNat (Nat.ofDigitChars 10 (withoutPlus cs) 0))
      else none := by
  have value (digits : List Char) : Nat.ofDigitChars 10 digits 0 =
      digits.foldl (fun n c => n * 10 + (c.toNat - '0'.toNat)) 0 := by
    simp only [Nat.ofDigitChars, Nat.mul_comm]
  simp only [value]
  unfold portOfDigits? withoutPlus
  split <;> simp

theorem portOfDigits?_of_numeral {cs : List Char} {n : Nat} (h : Numeral cs n) :
    portOfDigits? cs = if n ≤ 65535 then some (.ofNat n) else none := by
  obtain ⟨some, decimal, rfl⟩ := numeral_iff.1 h
  rw [portOfDigits?_eq, List.isEmpty_eq_false_iff.2 some, List.all_eq_true.2 decimal]
  rfl

theorem portOfDigits?_of_not_numeral {cs : List Char} (h : ∀ n, ¬ Numeral cs n) :
    portOfDigits? cs = none := by
  rw [portOfDigits?_eq]
  refine if_pos ?_
  by_contra digits
  rw [Bool.or_eq_true, not_or, List.isEmpty_iff, Bool.not_eq_true', Bool.not_eq_false,
    List.all_eq_true] at digits
  exact h _ (numeral_iff.2 ⟨digits.1, digits.2, rfl⟩)

/-- A port is read from the numerals of its number, and from nothing else. -/
theorem portOfDigits?_eq_some_iff {cs : List Char} {port : Port} :
    portOfDigits? cs = some port ↔ Numeral cs port.toNat := by
  constructor
  · intro read
    by_cases written : ∃ n, Numeral cs n
    · obtain ⟨n, h⟩ := written
      rw [portOfDigits?_of_numeral h] at read
      split at read
      · next small =>
        obtain rfl := Option.some.inj read
        rwa [UInt16.toNat_ofNat', Nat.mod_eq_of_lt (Nat.lt_succ_of_le small)]
      · cases read
    · rw [portOfDigits?_of_not_numeral (not_exists.1 written)] at read
      cases read
  · intro h
    rw [portOfDigits?_of_numeral h, if_pos (Nat.le_of_lt_succ port.toNat_lt), UInt16.ofNat_toNat]

theorem portOfDigits?_eq_none_iff {cs : List Char} :
    portOfDigits? cs = none ↔ ∀ n, Numeral cs n → 65536 ≤ n := by
  constructor
  · intro unread n h
    rw [portOfDigits?_of_numeral h] at unread
    split at unread
    · cases unread
    · next large => exact Nat.not_le.1 large
  · intro large
    by_cases written : ∃ n, Numeral cs n
    · obtain ⟨n, h⟩ := written
      rw [portOfDigits?_of_numeral h, if_neg (Nat.not_le.2 (large n h))]
    · exact portOfDigits?_of_not_numeral (not_exists.1 written)

theorem numeral_port (port : Port) : Numeral (toString port).toList port.toNat :=
  portOfDigits?_eq_some_iff.1 (portOfDigits?_port port)

theorem decimal_port (port : Port) : ∀ c ∈ (toString port).toList, c.isDigit = true := by
  rw [toList_port]
  exact fun c mem => Nat.isDigit_of_mem_toDigits (by decide) (by decide) mem

theorem isBlankChar_of_isDigit {c : Char} (h : c.isDigit = true) : Text.isBlankChar c = false := by
  have bounds := Char.isDigit_iff_toNat.1 h
  unfold Text.isBlankChar
  grind

/-! ## The first line -/

/-- What follows a line: nothing, or a line feed and any text. The line feed may come after a
carriage return. -/
inductive LineEnd : List Char → Prop
  | last : LineEnd []
  | feed (more : List Char) : LineEnd ('\n' :: more)
  | returnFeed (more : List Char) : LineEnd ('\r' :: '\n' :: more)

/-- `field` is the last part of the first line of a text, which is cut at colons once there are no
blanks at its ends. -/
inductive FirstField (field : List Char) : List Char → Prop
  | mk {line ending core : List Char} (plain : '\n' ∉ line) (ends : LineEnd ending)
      (trims : Text.Trims Text.isBlankChar line core) (last : Text.LastPart ':' field core) :
      FirstField field (line ++ ending)

/-- The first line of a text, as it is read. A carriage return in front of a line feed belongs to
it. -/
def firstLine (cs : List Char) : List Char := cs.takeWhile (· ≠ '\n')

theorem exists_firstLine_append (cs : List Char) :
    ∃ ending, cs = firstLine cs ++ ending ∧ '\n' ∉ firstLine cs ∧ LineEnd ending := by
  refine ⟨cs.dropWhile (· ≠ '\n'), List.takeWhile_append_dropWhile.symm, fun mem => ?_, ?_⟩
  · simpa using List.mem_takeWhile_imp mem
  · cases rest : cs.dropWhile (· ≠ '\n') with
    | nil => exact .last
    | cons c more =>
      have begins : (cs.dropWhile (· ≠ '\n')).head? = some c := by rw [rest, List.head?_cons]
      obtain rfl : c = '\n' := by simpa using Text.not_of_mem_head?_dropWhile begins
      exact .feed more

/-- A carriage return is a blank, so it makes no difference. -/
theorem LineEnd.trims_firstLine {line ending core : List Char} (h : LineEnd ending)
    (plain : '\n' ∉ line) (trims : Text.Trims Text.isBlankChar line core) :
    Text.Trims Text.isBlankChar (firstLine (line ++ ending)) core := by
  have inside : ∀ c ∈ line, decide (c ≠ '\n') = true := by
    intro c mem
    have other : c ≠ '\n' := ne_of_mem_of_not_mem mem plain
    exact decide_eq_true other
  -- What is read as the line may have a carriage return more.
  have keeps : firstLine (line ++ ending) = line ++ firstLine ending :=
    List.takeWhile_append_of_pos inside
  rw [keeps]
  have blank : ∀ c ∈ firstLine ending, Text.isBlankChar c = true := by
    cases h with
    | last | feed more => simp [firstLine]
    | returnFeed more => simp [firstLine]; rfl
  obtain ⟨before, after, first, last⟩ := trims
  rw [List.append_assoc]
  exact .mk before (by simpa [or_imp, forall_and] using ⟨after, blank⟩) first last

theorem firstField_iff {field cs : List Char} :
    FirstField field cs ↔
      (Text.splitOn ':' (Text.trimWhile Text.isBlankChar (firstLine cs))).getLast? =
        some field := by
  rw [Text.getLast?_splitOn_eq_some_iff]
  constructor
  · rintro ⟨plain, ends, trims, last⟩
    rwa [Text.trimWhile_eq_iff.2 (ends.trims_firstLine plain trims)]
  · intro last
    obtain ⟨ending, whole, plain, ends⟩ := exists_firstLine_append cs
    have field := FirstField.mk plain ends (Text.trims_trimWhile _ _) last
    rwa [← whole] at field

theorem exists_firstField (cs : List Char) : ∃ field, FirstField field cs := by
  obtain ⟨field, last⟩ := Text.exists_lastPart ':' (Text.trimWhile Text.isBlankChar (firstLine cs))
  exact ⟨field, firstField_iff.2 (Text.getLast?_splitOn_eq_some_iff.2 last)⟩

/-! ## What is read as a port -/

variable {output : String} {port : Port}

theorem mappedPort?_of_firstField {field : List Char} (h : FirstField field output.toList) :
    mappedPort? output = portOfDigits? field := by
  rw [firstField_iff] at h
  unfold mappedPort? firstLine?
  split
  · next empty =>
    -- There is not even an empty line, but an empty one could not be read either.
    subst empty
    cases h
    rfl
  · rw [firstLine] at h
    simp only [Option.bind_eq_bind, Option.bind_some, h, Option.getD_some]

theorem mappedPort?_eq_some_iff :
    mappedPort? output = some port ↔
      ∃ field, FirstField field output.toList ∧ Numeral field port.toNat := by
  constructor
  · intro read
    obtain ⟨field, h⟩ := exists_firstField output.toList
    rw [mappedPort?_of_firstField h] at read
    exact ⟨field, h, portOfDigits?_eq_some_iff.1 read⟩
  · rintro ⟨field, h, numeral⟩
    rw [mappedPort?_of_firstField h]
    exact portOfDigits?_eq_some_iff.2 numeral

/-- Nothing is read: there is no line or only a blank one first, or its last part writes no number,
or one that is too large. -/
inductive Unreadable : String → Prop
  | empty : Unreadable ""
  | blank {line ending : List Char} (plain : '\n' ∉ line)
      (blank : ∀ c ∈ line, Text.isBlankChar c = true) (ends : LineEnd ending) :
      Unreadable (.ofList (line ++ ending))
  | noNumber {output : String} {field : List Char} (last : FirstField field output.toList)
      (h : ∀ n, ¬ Numeral field n) : Unreadable output
  | tooLarge {output : String} {field : List Char} {n : Nat}
      (last : FirstField field output.toList) (numeral : Numeral field n) (large : 65536 ≤ n) :
      Unreadable output

theorem not_numeral_nil (n : Nat) : ¬ Numeral [] n :=
  fun h => (numeral_iff.1 h).1 rfl

theorem firstField_of_blank {line ending : List Char} (plain : '\n' ∉ line)
    (blank : ∀ c ∈ line, Text.isBlankChar c = true) (ends : LineEnd ending) :
    FirstField [] (line ++ ending) := by
  have trims : Text.Trims Text.isBlankChar line [] := by
    have trims : Text.Trims Text.isBlankChar (line ++ [] ++ []) [] := .mk blank nofun nofun nofun
    rwa [List.append_nil, List.append_nil] at trims
  exact .mk plain ends trims (.whole List.not_mem_nil)

theorem mappedPort?_eq_none_iff : mappedPort? output = none ↔ Unreadable output := by
  constructor
  · intro unread
    obtain ⟨field, h⟩ := exists_firstField output.toList
    rw [mappedPort?_of_firstField h, portOfDigits?_eq_none_iff] at unread
    by_cases written : ∃ n, Numeral field n
    · obtain ⟨n, numeral⟩ := written
      exact .tooLarge h numeral (unread n numeral)
    · exact .noNumber h (not_exists.1 written)
  · rintro (_ | ⟨plain, blank, ends⟩ | ⟨last, none⟩ | ⟨last, numeral, large⟩)
    · rfl
    · have last := firstField_of_blank plain blank ends
      rw [← String.toList_ofList (l := _ ++ _)] at last
      rw [mappedPort?_of_firstField last]
      exact portOfDigits?_of_not_numeral not_numeral_nil
    · rw [mappedPort?_of_firstField last]
      exact portOfDigits?_of_not_numeral none
    · rw [mappedPort?_of_firstField last, portOfDigits?_of_numeral numeral,
        if_neg (Nat.not_le.2 large)]

/-- An address is on the first line, whatever is on the others. -/
theorem firstField_address (a : Address) {ending : List Char} (plain : '\n' ∉ a.host.toList)
    (ends : LineEnd ending) :
    FirstField (toString a.port).toList (a.text.toList ++ ending) := by
  have digits := decimal_port a.port
  have noFeed : '\n' ∉ a.host.toList ++ ':' :: (toString a.port).toList := by
    rw [List.mem_append, List.mem_cons, not_or, not_or]
    exact ⟨plain, by decide, fun mem => absurd (digits _ mem) (by decide)⟩
  have trims := Text.trims_behind a.host.toList (show Text.isBlankChar ':' = false from rfl)
    fun c mem => isBlankChar_of_isDigit (digits c mem)
  rw [Address.text_toList]
  exact .mk noFeed ends trims (.behind (colon_notMem_port a.port) _)

theorem mappedPort?_address (a : Address) {ending : List Char} (plain : '\n' ∉ a.host.toList)
    (ends : LineEnd ending) : mappedPort? (a.text ++ .ofList ending) = some a.port := by
  refine mappedPort?_eq_some_iff.2 ⟨_, ?_, numeral_port a.port⟩
  rw [String.toList_append, String.toList_ofList]
  exact firstField_address a plain ends

/-! ## What is returned as a port -/

namespace Config

variable {config : Config} {name : String} {containerPort : Port}
  {t : List (Prog.Event Client.onSystem)}

/-- What the error says when the client has written no port. -/
def unexpectedPorts (config : Config) (args : List String) (output : String) : Error :=
  .commandFailed (config.describe args)
    s!"unexpected port mapping output: {Text.trim output}" false

/-- What is returned when the client has written this. -/
def readPort (config : Config) (args : List String) (output : String) : Except Error Port :=
  match mappedPort? output with
  | some port => .ok port
  | none => .error (config.unexpectedPorts args output)

/-- What is returned when the client has ended in this way. -/
def toldPort (config : Config) (args : List String) :
    Except String Completion → Except Error Port
  | .error reason => .error (config.notRun args reason)
  | .ok c => c.result (config.describe args) >>= config.readPort args

/-- Nothing is requested for what is known. -/
theorem result_bind_run {α β : Type} {f : α → CallAttempt β} {g : α → Except Error β}
    (result : Except Error α) (h : ∀ a, (f a).run = .done (g a)) :
    ((liftM result : CallAttempt α) >>= f).run = .done (result >>= g) := by
  cases result with
  | error e => rfl
  | ok a => exact h a

/-- The client is run once. -/
theorem mappedPort_run :
    (config.mappedPort name containerPort).run =
      Prog.ask (I := Client.onSystem) (.inl (.execute (Arguments.mappedPort name containerPort)))
        fun outcome =>
          .done (config.toldPort (Arguments.mappedPort name containerPort) outcome) := by
  refine congrArg (Prog.ask (I := Client.onSystem) _) (funext fun outcome => ?_)
  cases outcome with
  | error reason => rfl
  | ok c =>
    refine result_bind_run (c.result _) fun output => ?_
    unfold readPort
    cases mappedPort? output <;> rfl

/-- The event of a client that was asked for a published port, and how it ended. -/
def portAsked (name : String) (containerPort : Port) (outcome : Except String Completion) :
    Prog.Event Client.onSystem :=
  ⟨.inl (.execute (Arguments.mappedPort name containerPort)), outcome⟩

theorem mappedPort_yields_iff {r : Except Error Port} :
    Prog.Yields (config.mappedPort name containerPort).run t r ↔
      ∃ outcome, t = [portAsked name containerPort outcome] ∧
        r = config.toldPort (Arguments.mappedPort name containerPort) outcome := by
  rw [mappedPort_run]
  constructor
  · rintro (_ | ⟨outcome, ⟨⟩⟩)
    exact ⟨outcome, rfl, rfl⟩
  · rintro ⟨outcome, rfl, rfl⟩
    exact .ask (I := Client.onSystem) (r := .inl (.execute _)) outcome (.done _)

theorem toldPort_of_success {args : List String} {c : Completion} (h : c.status.success = true) :
    config.toldPort args (.ok c) = config.readPort args c.outputText := by
  rw [toldPort, Completion.result, if_pos h]
  rfl

theorem readPort_eq_ok_iff {args : List String} :
    config.readPort args output = .ok port ↔ mappedPort? output = some port := by
  unfold readPort
  cases mappedPort? output <;> simp

theorem readPort_of_unreadable {args : List String} (h : Unreadable output) :
    config.readPort args output = .error (config.unexpectedPorts args output) := by
  rw [readPort, mappedPort?_eq_none_iff.2 h]

/-- Only a client that succeeds tells a port. -/
theorem toldPort_eq_ok_iff {args : List String} {outcome : Except String Completion} :
    config.toldPort args outcome = .ok port ↔
      ∃ c, outcome = .ok c ∧ c.status.success = true ∧ mappedPort? c.outputText = some port := by
  constructor
  · intro told
    cases outcome with
    | error reason => cases told
    | ok c =>
      by_cases success : c.status.success = true
      · rw [toldPort_of_success success, readPort_eq_ok_iff] at told
        exact ⟨c, rfl, success, told⟩
      · rw [toldPort, Completion.result, if_neg success] at told
        cases told
  · rintro ⟨c, rfl, success, read⟩
    rw [toldPort_of_success success]
    exact readPort_eq_ok_iff.2 read

/-- A port is read if it is a number from 0 to 65535 that is written in decimal digits, perhaps
after a plus sign, as the last part of the first line, and only then. So the port of an address is
read back, whatever its host is if that has no line feed, and whatever follows on other lines. A
client that has succeeded but has written no such number makes the request fail, however large the
number is that it has written, and only a number that was written is returned. -/
theorem published_port_is_read_exactly (config : Config) (name : String) (containerPort : Port) :
    (∀ output port, mappedPort? output = some port ↔
      ∃ field, FirstField field output.toList ∧ Numeral field port.toNat) ∧
    (∀ (a : Address) (ending : List Char), '\n' ∉ a.host.toList → LineEnd ending →
      mappedPort? (a.text ++ .ofList ending) = some a.port) ∧
    (∀ c : Completion, c.status.success = true → Unreadable c.outputText → ∀ r,
      Prog.Yields (config.mappedPort name containerPort).run
          [portAsked name containerPort (.ok c)] r ↔
        r = .error (config.unexpectedPorts (Arguments.mappedPort name containerPort)
          c.outputText)) ∧
    ∀ t port, Prog.Yields (config.mappedPort name containerPort).run t (.ok port) ↔
      ∃ c field, t = [portAsked name containerPort (.ok c)] ∧ c.status.success = true ∧
        FirstField field c.outputText.toList ∧ Numeral field port.toNat := by
  refine ⟨fun output port => mappedPort?_eq_some_iff, fun a ending => mappedPort?_address a,
    fun c success unreadable r => ?_, fun t port => ?_⟩
  · rw [← readPort_of_unreadable unreadable, ← toldPort_of_success success, mappedPort_yields_iff]
    constructor
    · rintro ⟨outcome, same, rfl⟩
      cases same
      rfl
    · rintro rfl
      exact ⟨_, rfl, rfl⟩
  · rw [mappedPort_yields_iff]
    constructor
    · rintro ⟨outcome, rfl, told⟩
      obtain ⟨c, rfl, success, read⟩ := toldPort_eq_ok_iff.1 told.symm
      obtain ⟨field, last, numeral⟩ := mappedPort?_eq_some_iff.1 read
      exact ⟨c, field, rfl, success, last, numeral⟩
    · rintro ⟨c, field, rfl, success, last, numeral⟩
      have read := mappedPort?_eq_some_iff.2 ⟨field, last, numeral⟩
      exact ⟨.ok c, rfl, (toldPort_eq_ok_iff.2 ⟨c, rfl, success, read⟩).symm⟩

/-- A client that has written `stdout` and exits with 0. -/
def printing (stdout : String) : Completion :=
  ⟨.exited 0, Text.Utf8.encode stdout, []⟩

/-- The port of an IPv6 address is read, and a number that is too large is not taken for the port
that it is modulo 65536. -/
theorem port_of_literal_is_read :
    mappedPort? "[::]:49153\r\n0.0.0.0:49154\n" = some 49153 ∧
    Prog.Yields (({} : Config).mappedPort "redis" 6379).run
      [portAsked "redis" 6379 (.ok (printing "[::]:49153\n"))] (.ok 49153) ∧
    Prog.Yields (({} : Config).mappedPort "redis" 6379).run
      [portAsked "redis" 6379 (.ok (printing "0.0.0.0:65616\n"))]
      (.error (.commandFailed "docker port redis 6379/tcp"
        "unexpected port mapping output: 0.0.0.0:65616" false)) := by
  obtain ⟨-, back, fails, tells⟩ := published_port_is_read_exactly {} "redis" 6379
  refine ⟨?_, ?_, ?_⟩
  · have written : "[::]:49153\r\n0.0.0.0:49154\n" =
        Address.text ⟨"[::]", 49153⟩ ++ .ofList "\r\n0.0.0.0:49154\n".toList := by decide +kernel
    rw [written]
    exact back _ _ (by decide) (.returnFeed _)
  · have output : (printing "[::]:49153\n").outputText = "[::]:49153\n" := by decide +kernel
    have numeral : Numeral "49153".toList 49153 := .plain (by decide) (List.all_eq_true.1 rfl)
    refine (tells _ _).2 ⟨_, "49153".toList, rfl, rfl, ?_, numeral⟩
    rw [output]
    exact firstField_iff.2 (by decide +kernel)
  · have output : (printing "0.0.0.0:65616\n").outputText = "0.0.0.0:65616\n" := by
      decide +kernel
    have last : FirstField "65616".toList "0.0.0.0:65616\n".toList :=
      firstField_iff.2 (by decide +kernel)
    have numeral : Numeral "65616".toList 65616 := .plain (by decide) (List.all_eq_true.1 rfl)
    have large : Unreadable "0.0.0.0:65616\n" := .tooLarge last numeral (by decide)
    rw [fails _ rfl (output ▸ large), output]
    decide +kernel

end Config

end Docker

end Testbed
