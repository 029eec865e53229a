import QuadControl.Lib.Escape
import QuadControl.Lib.Shell

/-! # Typing text through the device's shell

A text goes to a persistent shell on the device as an argument between single quotes, its
spaces escaped. The quotation holds for any text; the escape is the device's own, which a text
may contain as well.
-/

namespace QuadControl.Apple

open Lib

/-- A Swift `Character`, by its scalars. -/
abbrev Character := Text

/-- One ASCII scalar, or the one cluster of two. -/
def Character.isASCII : Character → Bool
  | [c] => c.toNat < 128
  | ['\r', '\n'] => true
  | _ => false

namespace AndroidInput

/-- The escape of a space. -/
def space : Text := ['%', 's']

def spaced (value : Text) : Text := Text.replace [' '] space value

def shellQuoted (value : Text) : Text :=
  ['\''] ++ Text.replace ['\''] ['\'', '\\', '\'', '\''] (spaced value) ++ ['\'']

def textCommand (ascii : Text) : Text := "input text ".toList ++ shellQuoted ascii

/-- What `send` writes to the shell. -/
def line (command : Text) : Text := command ++ ['\n']

/-- What a call reports through `onError` and writes to the shell. -/
structure Call where
  errors : List Text
  written : List Text
  deriving Repr, DecidableEq

def dropped (count : ℕ) : Text :=
  "input text dropped ".toList ++ Nat.toDigits 10 count ++
    " non-ASCII character(s); `input text` cannot send them".toList

def text (value : List Character) : Call :=
  let ascii := value.filter Character.isASCII
  { errors := if ascii.length ≠ value.length then [dropped (value.length - ascii.length)] else []
    written := if ascii = [] then [] else [line (textCommand ascii.flatten)] }

/-! ### The quotation -/

/-- A text with its spaces escaped. -/
def escaped (value : Text) : Text := value.flatMap fun c => if c = ' ' then space else [c]

theorem spaced_eq (value : Text) : spaced value = escaped value :=
  Text.replace_singleton value

theorem shellQuoted_eq (value : Text) : shellQuoted value = Shell.quote (escaped value) := by
  rw [shellQuoted, spaced_eq, Text.replace_singleton]
  rfl

/-- The command's two words and the quotation behind them. -/
theorem words_append (rest : Text) :
    "input text ".toList ++ rest = "input".toList ++ ' ' :: ("text".toList ++ ' ' :: rest) := by
  simp

theorem line_textCommand (value : Text) :
    line (textCommand value) =
      "input".toList ++
        ' ' :: ("text".toList ++ ' ' :: (Shell.quote (escaped value) ++ ['\n'])) := by
  unfold line textCommand
  rw [shellQuoted_eq, List.append_assoc]
  exact words_append _

theorem tokens_line (value : Text) :
    Shell.tokens (line (textCommand value)) =
      some [.word (Shell.unquoted "input".toList), .word (Shell.unquoted "text".toList),
        .word (Shell.quoted (escaped value)), .newline] := by
  have ended : Shell.tokensFrom (.word (Shell.quoted (escaped value))) ['\n'] =
      some [.word (Shell.quoted (escaped value)), .newline] := rfl
  rw [Shell.tokens, line_textCommand, Shell.tokensFrom_plain _ (by decide) (by decide),
    Shell.tokensFrom_plain _ (by decide) (by decide), Shell.tokensFrom_quote, ended]
  rfl

theorem commands_line (value : Text) :
    Shell.commands (line (textCommand value)) =
      some [["input".toList, "text".toList, escaped value]] := by
  rw [Shell.commands, tokens_line]
  have first : (Shell.unquoted "input".toList).isSyntax = false := by decide
  have name : (Shell.unquoted "input".toList).argument = some "input".toList := by decide
  have verb : (Shell.unquoted "text".toList).argument = some "text".toList := by decide
  simp only [Option.bind_eq_bind, Option.bind_some, Shell.commandsFrom, first, name, verb,
    Shell.argument_quoted]
  rfl

/-- Whatever a text contains, the shell reads its command as one simple command with the text,
    its spaces escaped, as the one argument, every character of it quoted. -/
theorem textCommand_quoted (value : Text) :
    Shell.tokens (line (textCommand value)) =
        some [.word (Shell.unquoted "input".toList), .word (Shell.unquoted "text".toList),
          .word (Shell.quoted (escaped value)), .newline] ∧
      Shell.commands (line (textCommand value)) =
        some [["input".toList, "text".toList, escaped value]] :=
  ⟨tokens_line value, commands_line value⟩

/-! ### The escape -/

/-- What the device types for an argument of `input text`. -/
def decoded (argument : Text) : Text := Text.replace space [' '] argument

/-- What the commands type, if they do nothing but type. -/
def typedBy : List (List Text) → Option Text
  | [] => some []
  | [name, verb, argument] :: rest =>
      if name = "input".toList ∧ verb = "text".toList then do
        let later ← typedBy rest
        return decoded argument ++ later
      else none
  | _ => none

/-- What is typed on the device for what was written to its shell. -/
def typed (written : List Text) : Option Text := do
  let commands ← Shell.commands written.flatten
  typedBy commands

/-- A string of printable ASCII, each scalar of which is a character of its own. -/
def Printable (value : Text) : Prop := ∀ c ∈ value, 0x20 ≤ c.toNat ∧ c.toNat ≤ 0x7e

instance (value : Text) : Decidable (Printable value) :=
  List.decidableBAll (fun c : Char => 0x20 ≤ c.toNat ∧ c.toNat ≤ 0x7e) value

def characters (value : Text) : List Character := value.map fun c => [c]

theorem filter_characters {value : Text} (printable : Printable value) :
    (characters value).filter Character.isASCII = characters value := by
  rw [List.filter_eq_self]
  intro character inside
  obtain ⟨c, present, rfl⟩ := List.mem_map.mp inside
  exact decide_eq_true ((printable c present).2.trans_lt (by decide))

theorem flatten_characters (value : Text) : (characters value).flatten = value := by
  simp [characters, ← List.flatMap_def]

/-- What is typed for a text is what the escape's undoing makes of it. -/
theorem typed_text {value : Text} (printable : Printable value) :
    typed (text (characters value)).written = some (decoded (escaped value)) := by
  simp only [text, filter_characters printable, flatten_characters]
  cases value with
  | nil => rfl
  | cons c value =>
      have some_character : characters (c :: value) ≠ [] := List.cons_ne_nil _ _
      rw [if_neg some_character, typed, List.flatten_singleton, commands_line]
      simp [typedBy]

/-- A printable text is typed as it is just if it does not contain the escape of a space. -/
theorem typed_iff {value : Text} (printable : Printable value) :
    typed (text (characters value)).written = some value ↔ ¬ "%s".toList <:+: value := by
  rw [typed_text printable, Option.some_inj, ← spaced_eq]
  exact Text.replace_escaped_eq_self_iff (by decide) (by decide) (by decide)

theorem typed_iff_sum :
    typed (text (characters "50% sure".toList)).written = some "50% sure".toList ↔
      ¬ "%s".toList <:+: "50% sure".toList :=
  typed_iff (by decide)

/-- A space is typed for the escape of one. -/
theorem types_space :
    ¬ ∀ value : Text, Printable value →
      typed (text (characters value)).written = some value := by
  intro literal
  have same := literal "100%sure".toList (by decide)
  rw [typed_text (by decide), Option.some_inj] at same
  exact absurd (congrArg List.length same) (by decide)

end AndroidInput

end QuadControl.Apple
