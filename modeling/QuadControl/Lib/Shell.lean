import QuadControl.Lib.Replace

/-! # Reading shell commands

The token recognition of the POSIX shell language, as a machine that takes one character
after the other, and the simple commands of the tokens. A word keeps of each of its
characters whether it was quoted, which the expansions depend on. What would make an
expansion, a compound command or a redirection is not read further: the reader gives up.
-/

namespace QuadControl.Lib

namespace Shell

/-- A word's characters, each with whether it was quoted; the quotes are removed. -/
abbrev Word := List (Char × Bool)

inductive Token where
  | word (word : Word)
  | operator (text : Text)
  | newline
  deriving Repr, DecidableEq

def operators : List Text :=
  ["&&", "||", ";;", "<<", ">>", "<&", ">&", "<>", "<<-", ">|", "&", "|", ";", "<", ">", "(",
    ")"].map String.toList

def isOperatorStart (c : Char) : Bool := "&|;<>()".toList.contains c

def isBlank (c : Char) : Bool := c = ' ' || c = '\t'

/-- The characters that start an expansion. -/
def isExpansion (c : Char) : Bool := c = '$' || c = '`'

/-- What the reader is in the middle of. -/
inductive Mode where
  | between
  | operator (text : Text)
  | word (read : Word)
  -- Behind a backslash, in a word or not.
  | escape (read : Option Word)
  | single (read : Word)
  | double (read : Word)
  | doubleEscape (read : Word)
  | comment
  deriving Repr, DecidableEq

/-- A character that no token is in the middle of. -/
def start (c : Char) : Option (List Token × Mode) :=
  if c = '\n' then some ([.newline], .between)
  else if isBlank c then some ([], .between)
  else if isOperatorStart c then some ([], .operator [c])
  else if c = '#' then some ([], .comment)
  else if c = '\\' then some ([], .escape none)
  else if c = '\'' then some ([], .single [])
  else if c = '"' then some ([], .double [])
  else if isExpansion c then none
  else some ([], .word [(c, false)])

/-- The tokens a character ends, and what the reader is in then. -/
def step : Mode → Char → Option (List Token × Mode)
  | .between, c => start c
  | .operator text, c =>
      if operators.contains (text ++ [c]) then some ([], .operator (text ++ [c]))
      else (start c).map fun (tokens, mode) => (.operator text :: tokens, mode)
  | .word read, c =>
      if c = '\n' ∨ isBlank c ∨ isOperatorStart c then
        (start c).map fun (tokens, mode) => (.word read :: tokens, mode)
      else if c = '\\' then some ([], .escape (some read))
      else if c = '\'' then some ([], .single read)
      else if c = '"' then some ([], .double read)
      else if isExpansion c then none
      else some ([], .word (read ++ [(c, false)]))
  | .escape read, c =>
      -- An escaped line end is removed.
      if c = '\n' then some ([], read.elim .between .word)
      else some ([], .word (read.getD [] ++ [(c, true)]))
  | .single read, c =>
      if c = '\'' then some ([], .word read) else some ([], .single (read ++ [(c, true)]))
  | .double read, c =>
      if c = '"' then some ([], .word read)
      else if c = '\\' then some ([], .doubleEscape read)
      else if isExpansion c then none
      else some ([], .double (read ++ [(c, true)]))
  | .doubleEscape read, c =>
      if c = '\n' then some ([], .double read)
      else if isExpansion c ∨ c = '"' ∨ c = '\\' then some ([], .double (read ++ [(c, true)]))
      else some ([], .double (read ++ [('\\', true), (c, true)]))
  | .comment, c => if c = '\n' then some ([.newline], .between) else some ([], .comment)

/-- The end of the input, which ends no quotation. -/
def finish : Mode → Option (List Token)
  | .between | .comment => some []
  | .operator text => some [.operator text]
  | .word read => some [.word read]
  | .escape _ | .single _ | .double _ | .doubleEscape _ => none

def tokensFrom (mode : Mode) : Text → Option (List Token)
  | [] => finish mode
  | c :: rest => do
      let (tokens, next) ← step mode c
      let later ← tokensFrom next rest
      return tokens ++ later

def tokens (s : Text) : Option (List Token) := tokensFrom .between s

/-! ### Simple commands -/

def reserved : List Text :=
  ["!", "\x7b", "\x7d", "case", "do", "done", "elif", "else", "esac", "fi", "for", "if", "in",
    "then", "until", "while"].map String.toList

/-- A reserved word or an assignment, where a command would start. -/
def Word.isSyntax (word : Word) : Bool :=
  word.contains ('=', false) || reserved.any fun text => word = text.map fun c => (c, false)

/-- The word as an argument, if no pathname or tilde expansion can apply to it. -/
def Word.argument (word : Word) : Option Text :=
  if "*?[~".toList.any fun c => word.contains (c, false) then none else some (word.map Prod.fst)

/-- The simple commands of tokens, behind the arguments of one. -/
def commandsFrom (arguments : List Text) : List Token → Option (List (List Text))
  | [] => some (if arguments = [] then [] else [arguments])
  | .newline :: rest => do
      let later ← commandsFrom [] rest
      return if arguments = [] then later else arguments :: later
  | .operator text :: rest =>
      if text = [';'] ∧ arguments ≠ [] then do
        let later ← commandsFrom [] rest
        return arguments :: later
      else none
  | .word word :: rest =>
      if arguments = [] ∧ word.isSyntax then none
      else do
        let argument ← word.argument
        commandsFrom (arguments ++ [argument]) rest

/-- The commands of an input that has simple ones only. -/
def commands (s : Text) : Option (List (List Text)) := do
  let tokens ← tokens s
  commandsFrom [] tokens

/-! ### Quotation -/

/-- A word all of whose characters were quoted. -/
def quoted (s : Text) : Word := s.map fun c => (c, true)

def unquoted (s : Text) : Word := s.map fun c => (c, false)

/-- A text between single quotes; a quote in it stands behind a backslash between two
    quotations. -/
def quote (s : Text) : Text :=
  '\'' :: s.flatMap (fun c => if c = '\'' then ['\'', '\\', '\'', '\''] else [c]) ++ ['\'']

/-- A character without a meaning of its own. -/
def isPlain (c : Char) : Bool :=
  !(c = '\n' || isBlank c || isOperatorStart c || c = '#' || c = '\\' || c = '\'' || c = '"' ||
    isExpansion c)

theorem tokensFrom_cons {mode next : Mode} {c : Char} (rest : Text)
    (stepped : step mode c = some ([], next)) :
    tokensFrom mode (c :: rest) = tokensFrom next rest := by
  simp [tokensFrom, stepped]

theorem step_single {c : Char} (read : Word) (other : c ≠ '\'') :
    step (.single read) c = some ([], .single (read ++ [(c, true)])) := by
  simp [step, other]

/-- What is quoted is read as it is. -/
theorem tokensFrom_single (read : Word) (s rest : Text) :
    tokensFrom (.single read)
        (s.flatMap (fun c => if c = '\'' then ['\'', '\\', '\'', '\''] else [c]) ++ '\'' :: rest) =
      tokensFrom (.word (read ++ quoted s)) rest := by
  induction s generalizing read with
  | nil =>
      rw [quoted, List.map_nil, List.append_nil]
      exact tokensFrom_cons rest rfl
  | cons c s ih =>
      have shape : read ++ quoted (c :: s) = read ++ [(c, true)] ++ quoted s := by simp [quoted]
      rw [shape, ← ih, List.flatMap_cons, List.append_assoc]
      by_cases same : c = '\''
      · -- The quotation ends, the quote is escaped, and another quotation begins.
        subst same
        rw [if_pos rfl]
        refine (tokensFrom_cons _ rfl).trans ?_
        refine (tokensFrom_cons _ rfl).trans ?_
        refine (tokensFrom_cons _ rfl).trans ?_
        exact tokensFrom_cons _ rfl
      · rw [if_neg same]
        exact tokensFrom_cons _ (step_single read same)

theorem tokensFrom_quote (s rest : Text) :
    tokensFrom .between (quote s ++ rest) = tokensFrom (.word (quoted s)) rest := by
  have opened := tokensFrom_single [] s rest
  rw [List.nil_append] at opened
  simp only [← opened, quote, List.cons_append, List.append_assoc, List.nil_append]
  exact tokensFrom_cons _ rfl

theorem step_plain {c : Char} (read : Word) (plain : isPlain c = true) :
    step (.word read) c = some ([], .word (read ++ [(c, false)])) := by
  simp only [isPlain, Bool.not_eq_true', Bool.or_eq_false_iff, decide_eq_false_iff_not] at plain
  simp [step, plain]

theorem start_plain {c : Char} (plain : isPlain c = true) :
    start c = some ([], .word [(c, false)]) := by
  simp only [isPlain, Bool.not_eq_true', Bool.or_eq_false_iff, decide_eq_false_iff_not] at plain
  simp [start, plain]

theorem tokensFrom_word (read : Word) (s rest : Text) (plain : ∀ c ∈ s, isPlain c = true) :
    tokensFrom (.word read) (s ++ rest) = tokensFrom (.word (read ++ unquoted s)) rest := by
  induction s generalizing read with
  | nil => simp [unquoted]
  | cons c s ih =>
      have shape : read ++ unquoted (c :: s) = read ++ [(c, false)] ++ unquoted s := by
        simp [unquoted]
      rw [shape, ← ih _ fun d inside => plain d (List.mem_cons_of_mem _ inside), List.cons_append]
      exact tokensFrom_cons _ (step_plain read (plain c List.mem_cons_self))

/-- A plain word and the blank behind it. -/
theorem tokensFrom_plain {s : Text} (rest : Text) (nonempty : s ≠ [])
    (plain : s.all isPlain = true) :
    tokensFrom .between (s ++ ' ' :: rest) =
      (tokensFrom .between rest).map fun later => .word (unquoted s) :: later := by
  rw [List.all_eq_true] at plain
  cases s with
  | nil => exact absurd rfl nonempty
  | cons c s =>
      have first : step .between c = some ([], .word [(c, false)]) :=
        start_plain (plain c List.mem_cons_self)
      rw [List.cons_append, tokensFrom_cons _ first,
        tokensFrom_word _ _ _ fun d inside => plain d (List.mem_cons_of_mem _ inside)]
      have ended (read : Word) : step (.word read) ' ' = some ([.word read], .between) := rfl
      simp only [tokensFrom, ended, Option.bind_eq_bind, Option.bind_some]
      cases tokensFrom .between rest with
      | none => rfl
      | some later => rfl

example : commands "a 'b;c'\\'d ; e\n".toList =
    some [["a".toList, "b;c'd".toList], ["e".toList]] := by decide

theorem argument_quoted (s : Text) : (quoted s).argument = some s := by
  simp [Word.argument, quoted, Function.comp_def]

end Shell

end QuadControl.Lib
