import QuadControl.Lib.Text

/-! # Reading JSON

The grammar of RFC 8259 as a reader: whitespace, strings with every escape and surrogate pairs,
numbers with a fraction and an exponent, arrays, objects and the three names. An object keeps
its members in the order of the text. A surrogate without the other half names no character and
is not read.
-/

namespace QuadControl.Lib

/-- `mantissa * 10 ^ exponent`. -/
structure Number where
  mantissa : ℤ
  exponent : ℤ
  deriving Repr, DecidableEq

inductive Json where
  | null
  | bool (value : Bool)
  | number (value : Number)
  | string (value : Text)
  | array (items : List Json)
  | object (members : List (Text × Json))
  deriving Repr

namespace Json

def isSpace (c : Char) : Bool := c = ' ' || c = '\t' || c = '\n' || c = '\r'

def skip (s : Text) : Text := s.dropWhile isSpace

/-! ### Strings -/

def hexDigit (c : Char) : Option ℕ :=
  if '0' ≤ c ∧ c ≤ '9' then some (c.toNat - '0'.toNat)
  else if 'a' ≤ c ∧ c ≤ 'f' then some (c.toNat - 'a'.toNat + 10)
  else if 'A' ≤ c ∧ c ≤ 'F' then some (c.toNat - 'A'.toNat + 10)
  else none

/-- What the escapes of one letter stand for. -/
def letter (c : Char) : Option Char :=
  if c = '"' ∨ c = '\\' ∨ c = '/' then some c
  else if c = 'b' then some '\x08'
  else if c = 'f' then some '\x0c'
  else if c = 'n' then some '\n'
  else if c = 'r' then some '\r'
  else if c = 't' then some '\t'
  else none

/-- What the reader of a string is in the middle of, maybe behind a high surrogate. -/
inductive Mode where
  | plain
  | pair (high : ℕ)
  | escape (high : Option ℕ)
  | unicode (high : Option ℕ) (digits : List ℕ)
  deriving Repr, DecidableEq

def isHigh (code : ℕ) : Bool := 0xd800 ≤ code && code < 0xdc00

def isLow (code : ℕ) : Bool := 0xdc00 ≤ code && code < 0xe000

/-- What the four digits of an escape stand for. -/
def escaped (high : Option ℕ) (code : ℕ) : Option (Text × Mode) :=
  match high with
  | none =>
      if isHigh code then some ([], .pair code)
      else if isLow code then none
      else some ([Char.ofNat code], .plain)
  | some high =>
      if isLow code then
        some ([Char.ofNat (0x10000 + (high - 0xd800) * 0x400 + (code - 0xdc00))], .plain)
      else none

/-- The characters that one of the text makes up, and what the reader is in then. -/
def step : Mode → Char → Option (Text × Mode)
  | .plain, c =>
      if c = '\\' then some ([], .escape none)
      else if c.toNat < 0x20 then none
      else some ([c], .plain)
  | .pair high, c => if c = '\\' then some ([], .escape (some high)) else none
  | .escape high, c =>
      if c = 'u' then some ([], .unicode high [])
      else if high = none then (letter c).map fun c => ([c], .plain)
      else none
  | .unicode high digits, c =>
      (hexDigit c).bind fun digit =>
        if digits.length < 3 then some ([], .unicode high (digits ++ [digit]))
        else escaped high ((digits ++ [digit]).foldl (fun code digit => 16 * code + digit) 0)

/-- The characters up to the closing quote. -/
def charactersFrom (mode : Mode) : Text → Option (Text × Text)
  | [] => none
  | c :: rest =>
      if mode = .plain ∧ c = '"' then some ([], rest)
      else
        (step mode c).bind fun (read, next) =>
          (charactersFrom next rest).map fun (later, rest) => (read ++ later, rest)

def characters (s : Text) : Option (Text × Text) := charactersFrom .plain s

/-! ### Numbers -/

def digits (s : Text) : Option (Text × Text) :=
  let read := s.takeWhile Char.isDigit
  if read = [] then none else some (read, s.dropWhile Char.isDigit)

/-- Only zero itself begins with one. -/
def whole (s : Text) : Option (Text × Text) :=
  (digits s).bind fun (read, rest) =>
    if read.head? = some '0' ∧ read ≠ ['0'] then none else some (read, rest)

def sign : Text → Bool × Text
  | '-' :: rest => (true, rest)
  | s => (false, s)

def fraction : Text → Option (Text × Text)
  | '.' :: rest => digits rest
  | s => some ([], s)

def signed (negative : Bool) (value : ℕ) : ℤ := if negative then -value else value

def exponent (s : Text) : Option (ℤ × Text) :=
  let read (rest : Text) :=
    let (negative, rest) :=
      match rest with
      | '+' :: rest => (false, rest)
      | rest => sign rest
    (digits rest).map fun (read, rest) => (signed negative (Nat.ofDigitChars 10 read 0), rest)
  match s with
  | 'e' :: rest => read rest
  | 'E' :: rest => read rest
  | s => some (0, s)

def numeral (s : Text) : Option (Number × Text) := do
  let (negative, s) := sign s
  let (whole, s) ← whole s
  let (fraction, s) ← fraction s
  let (exponent, s) ← exponent s
  return (⟨signed negative (Nat.ofDigitChars 10 (whole ++ fraction) 0),
    exponent - fraction.length⟩, s)

/-! ### Values -/

section Lists

variable {α : Type}

/-- What is separated by commas, up to the closing character; the number bounds how much. -/
def sequence (item : Text → Option (α × Text)) (close : Char) : ℕ → Text → Option (List α × Text)
  | 0, _ => none
  | bound + 1, s =>
      (item s).bind fun (first, s) =>
        match skip s with
        | [] => none
        | c :: rest =>
            if c = close then some ([first], rest)
            else if c = ',' then
              (sequence item close bound rest).map fun (later, rest) => (first :: later, rest)
            else none

def list (item : Text → Option (α × Text)) (close : Char) (s : Text) : Option (List α × Text) :=
  match skip s with
  | [] => none
  | c :: rest => if c = close then some ([], rest) else sequence item close s.length s

end Lists

def member (value : Text → Option (Json × Text)) (s : Text) : Option ((Text × Json) × Text) := do
  let s ← Text.stripPrefix ['"'] (skip s)
  let (key, s) ← characters s
  let s ← Text.stripPrefix [':'] (skip s)
  let (value, s) ← value s
  return ((key, value), s)

def name (word : Text) (json : Json) (s : Text) : Option (Json × Text) :=
  (Text.stripPrefix word s).map fun rest => (json, rest)

/-- A value whose arrays and objects are less deep than a bound. -/
def value : ℕ → Text → Option (Json × Text)
  | 0, _ => none
  | depth + 1, s =>
      match skip s with
      | [] => none
      | c :: rest =>
          if c = '\x7b' then
            (list (member (value depth)) '\x7d' rest).map fun (members, rest) =>
              (.object members, rest)
          else if c = '[' then
            (list (value depth) ']' rest).map fun (items, rest) => (.array items, rest)
          else if c = '"' then
            (characters rest).map fun (value, rest) => (.string value, rest)
          else if c = 't' then name "true".toList (.bool true) (c :: rest)
          else if c = 'f' then name "false".toList (.bool false) (c :: rest)
          else if c = 'n' then name "null".toList .null (c :: rest)
          else (numeral (c :: rest)).map fun (value, rest) => (.number value, rest)

/-- The value a whole text is; no value is deeper than its text is long. -/
def parse (s : Text) : Option Json :=
  match value s.length s with
  | some (json, rest) => if skip rest = [] then some json else none
  | none => none

/-! ### What a writer's words are read as -/

theorem charactersFrom_cons {mode next : Mode} {c : Char} {read : Text} (rest : Text)
    (more : ¬ (mode = .plain ∧ c = '"')) (stepped : step mode c = some (read, next)) :
    charactersFrom mode (c :: rest) =
      (charactersFrom next rest).map fun (later, rest) => (read ++ later, rest) := by
  rw [charactersFrom, if_neg more, stepped, Option.bind_some]

/-- A character of the text that completes none of the string. -/
theorem charactersFrom_silent {mode next : Mode} {c : Char} (rest : Text)
    (more : ¬ (mode = .plain ∧ c = '"')) (stepped : step mode c = some ([], next)) :
    charactersFrom mode (c :: rest) = charactersFrom next rest := by
  rw [charactersFrom_cons rest more stepped]
  exact Option.map_id'

/-- A word that a string's reader takes for a character. -/
def Spells (word : Text) (c : Char) : Prop :=
  ∀ rest, charactersFrom .plain (word ++ rest) =
    (charactersFrom .plain rest).map fun (later, rest) => (c :: later, rest)

/-- A character that stands for itself. -/
def isPlain (c : Char) : Bool := c ≠ '"' ∧ c ≠ '\\' ∧ 0x20 ≤ c.toNat

theorem spells_plain {c : Char} (plain : isPlain c = true) : Spells [c] c := by
  obtain ⟨quote, backslash, printed⟩ := of_decide_eq_true plain
  intro rest
  have stepped : step .plain c = some ([c], .plain) := by
    rw [step, if_neg backslash, if_neg (Nat.not_lt.mpr printed)]
  exact charactersFrom_cons rest (fun ended => quote ended.2) stepped

theorem spells_letter {c d : Char} (read : letter c = some d) : Spells ['\\', c] d := by
  intro rest
  have other : c ≠ 'u' := by
    rintro rfl
    cases read
  have stepped : step (.escape none) c = some ([d], .plain) := by
    rw [step, if_neg other, if_pos rfl, read]
    rfl
  refine (charactersFrom_silent _ (by decide) rfl).trans ?_
  exact charactersFrom_cons rest (by simp) stepped

theorem spells_unicode {a b c d : Char} {i j k l : ℕ} (first : hexDigit a = some i)
    (second : hexDigit b = some j) (third : hexDigit c = some k) (fourth : hexDigit d = some l)
    {code : ℕ} (value : [i, j, k, l].foldl (fun code digit => 16 * code + digit) 0 = code)
    (single : isHigh code = false ∧ isLow code = false) :
    Spells ['\\', 'u', a, b, c, d] (Char.ofNat code) := by
  intro rest
  have more (digits : List ℕ) (c : Char) :
      ¬ (Mode.unicode none digits = .plain ∧ c = '"') := by simp
  have last : step (.unicode none [i, j, k]) d = some ([Char.ofNat code], .plain) := by
    have whole : step (.unicode none [i, j, k]) d = escaped none code := by
      rw [step, fourth, ← value]
      rfl
    simp [whole, escaped, single]
  refine (charactersFrom_silent _ (by decide) rfl).trans ?_
  refine (charactersFrom_silent _ (by simp) rfl).trans ?_
  refine (charactersFrom_silent _ (more _ _) (by rw [step, first]; rfl)).trans ?_
  refine (charactersFrom_silent _ (more _ _) (by rw [step, second]; rfl)).trans ?_
  refine (charactersFrom_silent _ (more _ _) (by rw [step, third]; rfl)).trans ?_
  exact charactersFrom_cons rest (more _ _) last

/-- A string each character of which is spelled. -/
theorem characters_spelled {spell : Char → Text} {s : Text} (rest : Text)
    (spells : ∀ c ∈ s, Spells (spell c) c) :
    characters (s.flatMap spell ++ '"' :: rest) = some (s, rest) := by
  unfold characters
  induction s with
  | nil => rfl
  | cons c s ih =>
      rw [List.flatMap_cons, List.append_assoc, spells c List.mem_cons_self,
        ih fun d inside => spells d (List.mem_cons_of_mem _ inside)]
      rfl

theorem characters_plain {s : Text} (rest : Text) (plain : s.all isPlain = true) :
    characters (s ++ '"' :: rest) = some (s, rest) := by
  have spelled := @characters_spelled (fun c => [c]) s rest fun c inside =>
    spells_plain (List.all_eq_true.mp plain c inside)
  rwa [List.flatMap_singleton'] at spelled

/-! ### What a writer's values are read as -/

/-- What may stand behind a value. -/
def Ends (rest : Text) : Prop := ∀ c ∈ rest.head?, c = ',' ∨ c = ']' ∨ c = '\x7d'

/-- A text that begins no whitespace and no closing. -/
def Begins (s : Text) : Prop := ∃ c t, s = c :: t ∧ isSpace c = false ∧ c ≠ ']' ∧ c ≠ '\x7d'

/-- A text that is read as an item, whatever ends it. -/
structure Reads {α : Type} (item : Text → Option (α × Text)) (s : Text) (a : α) : Prop where
  begins : Begins s
  read : ∀ rest, Ends rest → item (s ++ rest) = some (a, rest)

theorem skip_cons {c : Char} (rest : Text) (visible : isSpace c = false) :
    skip (c :: rest) = c :: rest := by
  rw [skip, List.dropWhile_cons_of_neg (by simp [visible])]

theorem value_cons (depth : ℕ) {c : Char} (rest : Text) (visible : isSpace c = false) :
    value (depth + 1) (c :: rest) =
      if c = '\x7b' then
        (list (member (value depth)) '\x7d' rest).map fun (members, rest) =>
          (.object members, rest)
      else if c = '[' then
        (list (value depth) ']' rest).map fun (items, rest) => (.array items, rest)
      else if c = '"' then (characters rest).map fun (value, rest) => (.string value, rest)
      else if c = 't' then name "true".toList (.bool true) (c :: rest)
      else if c = 'f' then name "false".toList (.bool false) (c :: rest)
      else if c = 'n' then name "null".toList .null (c :: rest)
      else (numeral (c :: rest)).map fun (value, rest) => (.number value, rest) := by
  rw [value, skip_cons rest visible]

theorem reads_string (depth : ℕ) {body s : Text}
    (read : ∀ rest, characters (body ++ '"' :: rest) = some (s, rest)) :
    Reads (value (depth + 1)) ('"' :: body ++ ['"']) (.string s) where
  begins := ⟨'"', body ++ ['"'], rfl, by decide, by decide, by decide⟩
  read rest _ := by
    rw [List.append_assoc, List.cons_append, value_cons depth _ (by decide)]
    exact congrArg (Option.map _) (read rest)

theorem reads_bool (depth : ℕ) (flag : Bool) :
    Reads (value (depth + 1)) (if flag then "true".toList else "false".toList) (.bool flag) := by
  cases flag with
  | true =>
      refine ⟨⟨'t', "rue".toList, rfl, by decide, by decide, by decide⟩, fun rest _ => ?_⟩
      exact value_cons depth _ (by decide)
  | false =>
      refine ⟨⟨'f', "alse".toList, rfl, by decide, by decide, by decide⟩, fun rest _ => ?_⟩
      exact value_cons depth _ (by decide)

/-! #### Numbers -/

theorem isDigit_toDigits {n : ℕ} : ∀ c ∈ Nat.toDigits 10 n, c.isDigit = true := fun _ inside =>
  Nat.isDigit_of_mem_toDigits (by decide) (by decide) inside

/-- Only zero is written with a zero in front. -/
theorem toDigits_of_head {n : ℕ} (zero : (Nat.toDigits 10 n).head? = some '0') :
    Nat.toDigits 10 n = ['0'] := by
  induction n using Nat.strong_induction_on with
  | _ n ih =>
      by_cases small : n < 10
      · rw [Nat.toDigits_of_lt_base small] at zero ⊢
        rw [List.head?_cons, Option.some_inj] at zero
        rw [zero]
      · have tens : 10 ≤ n := Nat.not_lt.mp small
        have shape := Nat.toDigits_of_base_le (by decide) tens
        rw [shape, List.head?_append_of_ne_nil _ Nat.toDigits_ne_nil] at zero
        have front := ih (n / 10) (by omega) zero
        have vanished := congrArg (Nat.ofDigitChars 10 · 0) front
        simp only [Nat.ofDigitChars_ten_toDigits] at vanished
        have : n / 10 = 0 := vanished
        omega

theorem ne_of_isDigit {c d : Char} (digit : c.isDigit = true) (other : d.isDigit = false) :
    c ≠ d := by
  rintro rfl
  exact Bool.noConfusion (digit.symm.trans other)

theorem toDigits_eq_cons (n : ℕ) : ∃ c t, Nat.toDigits 10 n = c :: t ∧ c.isDigit = true := by
  obtain ⟨c, t, shape⟩ := List.exists_cons_of_ne_nil (@Nat.toDigits_ne_nil n 10)
  exact ⟨c, t, shape, isDigit_toDigits c (shape ▸ List.mem_cons_self)⟩

theorem takeWhile_of_ends {rest : Text} (ends : Ends rest) : rest.takeWhile Char.isDigit = [] := by
  cases rest with
  | nil => rfl
  | cons c rest =>
      rcases ends c rfl with rfl | rfl | rfl <;> rfl

theorem digits_append {s rest : Text} (digit : ∀ c ∈ s, c.isDigit = true) (nonempty : s ≠ [])
    (stop : rest.takeWhile Char.isDigit = []) : digits (s ++ rest) = some (s, rest) := by
  have behind : rest.dropWhile Char.isDigit = rest := by
    have whole := @List.takeWhile_append_dropWhile _ Char.isDigit rest
    rwa [stop, List.nil_append] at whole
  simp only [digits, List.takeWhile_append_of_pos digit, List.dropWhile_append_of_pos digit, stop,
    behind, List.append_nil, if_neg nonempty]

theorem numeral_toDigits (n : ℕ) {rest : Text} (ends : Ends rest) :
    numeral (Nat.toDigits 10 n ++ rest) = some (⟨n, 0⟩, rest) := by
  have unsigned : sign (Nat.toDigits 10 n ++ rest) = (false, Nat.toDigits 10 n ++ rest) := by
    obtain ⟨c, t, shape, digit⟩ := toDigits_eq_cons n
    rw [shape, List.cons_append, sign]
    rintro rest' begun
    exact ne_of_isDigit digit rfl (List.cons.inj begun).1
  have integer : whole (Nat.toDigits 10 n ++ rest) = some (Nat.toDigits 10 n, rest) := by
    rw [whole, digits_append isDigit_toDigits Nat.toDigits_ne_nil (takeWhile_of_ends ends)]
    exact if_neg fun zero => zero.2 (toDigits_of_head zero.1)
  have plain : fraction rest = some ([], rest) ∧ exponent rest = some (0, rest) := by
    cases rest with
    | nil => exact ⟨rfl, rfl⟩
    | cons c rest => rcases ends c rfl with rfl | rfl | rfl <;> exact ⟨rfl, rfl⟩
  simp [numeral, unsigned, integer, plain, signed]

theorem reads_numeral (depth n : ℕ) :
    Reads (value (depth + 1)) (Nat.toDigits 10 n) (.number ⟨n, 0⟩) := by
  obtain ⟨c, t, shape, digit⟩ := toDigits_eq_cons n
  have other (d : Char) (none : d.isDigit = false) : c ≠ d := ne_of_isDigit digit none
  have visible : isSpace c = false := by
    simp [isSpace, other ' ' rfl, other '\t' rfl, other '\n' rfl, other '\r' rfl]
  refine ⟨⟨c, t, shape, visible, other ']' rfl, other '\x7d' rfl⟩, fun rest ends => ?_⟩
  rw [shape, List.cons_append, value_cons depth _ visible, if_neg (other '\x7b' rfl),
    if_neg (other '[' rfl), if_neg (other '"' rfl), if_neg (other 't' rfl),
    if_neg (other 'f' rfl), if_neg (other 'n' rfl), ← List.cons_append, ← shape,
    numeral_toDigits n ends]
  rfl

/-! #### Arrays and objects -/

section Lists

variable {α β : Type} {item : Text → Option (α × Text)} {text : β → Text} {value : β → α}
  {close : Char}

theorem ends_close (closing : close = ']' ∨ close = '\x7d') (rest : Text) :
    Ends (close :: rest) := by
  rintro c (_ | _)
  exact .inr closing

theorem sequence_step (bound : ℕ) {s rest : Text} {first : α} {c : Char}
    (read : item s = some (first, c :: rest)) (visible : isSpace c = false) :
    sequence item close (bound + 1) s =
      if c = close then some ([first], rest)
      else if c = ',' then
        (sequence item close bound rest).map fun (later, rest) => (first :: later, rest)
      else none := by
  rw [sequence, read, Option.bind_some]
  simp only [skip_cons rest visible]

theorem sequence_written (closing : close = ']' ∨ close = '\x7d') (bound : ℕ) (xs : List β)
    (rest : Text) (nonempty : xs ≠ []) (enough : xs.length ≤ bound)
    (each : ∀ x ∈ xs, Reads item (text x) (value x)) :
    sequence item close bound ([','].intercalate (xs.map text) ++ close :: rest) =
      some (xs.map value, rest) := by
  have visible : isSpace close = false := by rcases closing with rfl | rfl <;> rfl
  have other : ',' ≠ close := by rcases closing with rfl | rfl <;> decide
  induction xs generalizing bound with
  | nil => exact absurd rfl nonempty
  | cons x xs ih =>
      obtain ⟨bound, rfl⟩ := Nat.exists_eq_succ_of_ne_zero (Nat.one_le_iff_ne_zero.mp
        ((Nat.succ_le_succ (Nat.zero_le xs.length)).trans enough))
      have first := (each x List.mem_cons_self).read
      cases xs with
      | nil =>
          rw [List.map_cons, List.map_nil, List.intercalate_singleton,
            sequence_step bound (first _ (ends_close closing rest)) visible, if_pos rfl]
          rfl
      | cons y ys =>
          have comma (later : Text) : Ends (',' :: later) := by
            rintro c (_ | _)
            exact .inl rfl
          rw [List.map_cons, List.map_cons, List.intercalate_cons_cons, List.append_assoc,
            List.append_assoc, List.singleton_append, sequence_step bound (first _ (comma _)) rfl,
            if_neg other, if_pos rfl, ← List.map_cons,
            ih bound (List.cons_ne_nil _ _) (Nat.le_of_succ_le_succ enough)
              fun z inside => each z (List.mem_cons_of_mem _ inside)]
          rfl

theorem length_le_intercalate (xs : List β) (each : ∀ x ∈ xs, Begins (text x)) :
    xs.length ≤ ([','].intercalate (xs.map text)).length := by
  induction xs with
  | nil => exact Nat.zero_le _
  | cons x xs ih =>
      obtain ⟨c, t, shape, -⟩ := each x List.mem_cons_self
      have later := ih fun z inside => each z (List.mem_cons_of_mem _ inside)
      cases xs with
      | nil => simp [shape]
      | cons y ys =>
          rw [List.map_cons, List.map_cons, List.intercalate_cons_cons, ← List.map_cons]
          simp only [List.length_append, List.length_cons, List.length_nil] at later ⊢
          omega

theorem list_of_begins (closing : close = ']' ∨ close = '\x7d') {s : Text} (begins : Begins s) :
    list item close s = sequence item close s.length s := by
  obtain ⟨c, t, rfl, visible, bracket, brace⟩ := begins
  have other : c ≠ close := by rcases closing with rfl | rfl <;> assumption
  simp only [list, skip_cons t visible, if_neg other]

theorem list_written (closing : close = ']' ∨ close = '\x7d') (xs : List β) (rest : Text)
    (each : ∀ x ∈ xs, Reads item (text x) (value x)) :
    list item close ([','].intercalate (xs.map text) ++ close :: rest) =
      some (xs.map value, rest) := by
  have counted := length_le_intercalate xs fun x inside => (each x inside).begins
  cases xs with
  | nil =>
      have visible : isSpace close = false := by rcases closing with rfl | rfl <;> rfl
      simp only [List.map_nil, List.intercalate_nil, List.nil_append, list,
        skip_cons rest visible, if_pos]
  | cons x xs =>
      have begins : Begins ([','].intercalate ((x :: xs).map text) ++ close :: rest) := by
        obtain ⟨c, t, shape, first⟩ := (each x List.mem_cons_self).begins
        cases xs with
        | nil => exact ⟨c, t ++ close :: rest, by simp [shape], first⟩
        | cons y ys =>
            refine ⟨c, t ++ [','] ++ [','].intercalate ((y :: ys).map text) ++ close :: rest, ?_,
              first⟩
            simp [shape, List.intercalate_cons_cons]
      rw [list_of_begins closing begins]
      refine sequence_written closing _ _ rest (List.cons_ne_nil _ _) ?_ each
      rw [List.length_append]
      exact counted.trans (Nat.le_add_right _ _)

end Lists

theorem reads_member (depth : ℕ) {body key s : Text} {json : Json}
    (spelled : ∀ rest, characters (body ++ '"' :: rest) = some (key, rest))
    (reads : Reads (value depth) s json) :
    Reads (member (value depth)) ('"' :: body ++ '"' :: ':' :: s) (key, json) := by
  refine ⟨⟨'"', _, rfl, by decide, by decide, by decide⟩, fun rest ends => ?_⟩
  have opened : Text.stripPrefix ['"'] (skip ('"' :: (body ++ '"' :: ':' :: (s ++ rest)))) =
      some (body ++ '"' :: ':' :: (s ++ rest)) := rfl
  have separated : Text.stripPrefix [':'] (skip (':' :: (s ++ rest))) = some (s ++ rest) := rfl
  simp only [List.cons_append, List.append_assoc, member, opened, Option.bind_eq_bind,
    Option.bind_some, spelled, separated, reads.read rest ends]
  rfl

theorem reads_array (depth : ℕ) {β : Type} {text : β → Text} {json : β → Json} (xs : List β)
    (each : ∀ x ∈ xs, Reads (value depth) (text x) (json x)) :
    Reads (value (depth + 1)) ('[' :: [','].intercalate (xs.map text) ++ [']'])
      (.array (xs.map json)) := by
  refine ⟨⟨'[', _, rfl, by decide, by decide, by decide⟩, fun rest _ => ?_⟩
  rw [List.append_assoc, List.cons_append, value_cons depth _ (by decide), if_neg (by decide),
    if_pos rfl, List.singleton_append, list_written (.inl rfl) xs rest each]
  rfl

theorem reads_object (depth : ℕ) {β : Type} {text : β → Text} {entry : β → Text × Json}
    (xs : List β) (each : ∀ x ∈ xs, Reads (member (value depth)) (text x) (entry x)) :
    Reads (value (depth + 1)) ('\x7b' :: [','].intercalate (xs.map text) ++ ['\x7d'])
      (.object (xs.map entry)) := by
  refine ⟨⟨'\x7b', _, rfl, by decide, by decide, by decide⟩, fun rest _ => ?_⟩
  rw [List.append_assoc, List.cons_append, value_cons depth _ (by decide), if_pos rfl,
    List.singleton_append, list_written (.inr rfl) xs rest each]
  rfl

theorem parse_of_reads {s : Text} {json : Json} (reads : Reads (value s.length) s json) :
    parse s = some json := by
  have read := reads.read [] (by simp [Ends])
  rw [List.append_nil] at read
  rw [parse, read]
  rfl

end Json

end QuadControl.Lib
