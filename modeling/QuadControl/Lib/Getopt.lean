import QuadControl.Lib.Text

/-! # Reading an argument vector under the `getopt_long` conventions

A program declares long options and short letters, each with an argument mode.
The reader goes over the words from left to right: a long option that requires
an argument and carries no `=` takes the next word verbatim, also when that word
is `--`; a long option may be abbreviated to any prefix that fits one declared
option only; letters may be clustered; an unconsumed `--` ends the options.
Words that are no option are operands and are passed over, as are unknown or
ambiguous options.
-/

namespace QuadControl.Lib.Getopt

/-- Whether an option takes an argument. -/
inductive ArgMode where
  | no
  | required
  | optional
  deriving Repr, DecidableEq

/-- An option as the reader reports it: by its full long name or its letter. -/
inductive Name where
  | long (name : Text)
  | short (letter : Char)
  deriving Repr, DecidableEq

/-- The options a program declares. -/
structure Table where
  longs : List (Text × ArgMode)
  shorts : List (Char × ArgMode)

/-- One option put in effect: which word spelled it, and its argument. -/
structure Read where
  word : Nat
  option : Name
  value : Option Text
  deriving Repr, DecidableEq

/-- What the next word will be read as. -/
inductive State where
  /-- An option, an operand or the separator. -/
  | ready
  /-- The argument of the option that `word` spelled. -/
  | awaiting (word : Nat) (option : Name)
  /-- An operand: the separator has been read. -/
  | ended
  deriving Repr, DecidableEq

def separator : Text := ['-', '-']

/-- The declared option a long name denotes: an exact name, or the only one it
    abbreviates. -/
def resolve (table : Table) (name : Text) : Option (Text × ArgMode) :=
  match table.longs.find? (fun entry => entry.1 = name) with
  | some entry => some entry
  | none =>
      match table.longs.filter (fun entry => name.isPrefixOf entry.1) with
      | [entry] => some entry
      | _ => none

def letterMode (table : Table) (letter : Char) : Option ArgMode :=
  (table.shorts.find? (fun entry => entry.1 = letter)).map (·.2)

/-- A long option without its dashes: the name, and the argument after `=`. -/
def splitArgument (body : Text) : Text × Option Text :=
  match Text.splitOnce '=' body with
  | some (name, value) => (name, some value)
  | none => (body, none)

/-- Read a word `--body`. -/
def readLong (table : Table) (word : Nat) (body : Text) : State × List Read :=
  let (name, inline) := splitArgument body
  match resolve table name with
  | none => (.ready, [])
  | some (full, .no) =>
      match inline with
      | none => (.ready, [⟨word, .long full, none⟩])
      | some _ => (.ready, [])
  | some (full, .required) =>
      match inline with
      | none => (.awaiting word (.long full), [])
      | some value => (.ready, [⟨word, .long full, some value⟩])
  | some (full, .optional) => (.ready, [⟨word, .long full, inline⟩])

/-- Read the letters of a word `-letters`. -/
def readLetters (table : Table) (word : Nat) : Text → State × List Read
  | [] => (.ready, [])
  | letter :: rest =>
      match letterMode table letter with
      | none => readLetters table word rest
      | some .no =>
          let (state, reads) := readLetters table word rest
          (state, ⟨word, .short letter, none⟩ :: reads)
      | some .required =>
          match rest with
          | [] => (.awaiting word (.short letter), [])
          | _ => (.ready, [⟨word, .short letter, some rest⟩])
      | some .optional =>
          (.ready, [⟨word, .short letter, if rest.isEmpty then none else some rest⟩])

/-- Read the word at index `index`. -/
def readWord (table : Table) (state : State) (index : Nat) (word : Text) : State × List Read :=
  match state with
  | .ended => (.ended, [])
  | .awaiting owner option => (.ready, [⟨owner, option, some word⟩])
  | .ready =>
      match word with
      | ['-', '-'] => (.ended, [])
      | '-' :: '-' :: body => readLong table index body
      | '-' :: letters => readLetters table index letters
      | _ => (.ready, [])

/-- Read words from a state on; `index` is the index of the first of them. -/
def readFrom (table : Table) (state : State) (index : Nat) : List Text → State × List Read
  | [] => (state, [])
  | word :: rest =>
      let (next, reads) := readWord table state index word
      let (last, more) := readFrom table next (index + 1) rest
      (last, reads ++ more)

/-- The options an argument vector puts in effect. -/
def read (table : Table) (words : List Text) : List Read :=
  (readFrom table .ready 0 words).2

/-- The words of a vector that spell an option put in effect. -/
def optionWords (table : Table) (words : List Text) : List Text :=
  (read table words).filterMap fun r => words[r.word]?

theorem readWord_awaiting (table : Table) (owner : Nat) (option : Name) (index : Nat)
    (word : Text) :
    readWord table (.awaiting owner option) index word =
      (.ready, [⟨owner, option, some word⟩]) := rfl

theorem readLong_flag {table : Table} (body : Text) {name full : Text} (index : Nat)
    (split : splitArgument body = (name, none)) (declared : resolve table name = some (full, .no)) :
    readLong table index body = (.ready, [⟨index, .long full, none⟩]) := by
  simp [readLong, split, declared]

theorem readLong_value {table : Table} (body : Text) {name full value : Text} (index : Nat)
    (split : splitArgument body = (name, some value))
    (declared : resolve table name = some (full, .required)) :
    readLong table index body = (.ready, [⟨index, .long full, some value⟩]) := by
  simp [readLong, split, declared]

theorem readLong_awaits {table : Table} (body : Text) {name full : Text} (index : Nat)
    (split : splitArgument body = (name, none))
    (declared : resolve table name = some (full, .required)) :
    readLong table index body = (.awaiting index (.long full), []) := by
  simp [readLong, split, declared]

theorem readFrom_append (table : Table) (state : State) (index : Nat) (xs ys : List Text) :
    readFrom table state index (xs ++ ys) =
      let first := readFrom table state index xs
      let second := readFrom table first.1 (index + xs.length) ys
      (second.1, first.2 ++ second.2) := by
  induction xs generalizing state index with
  | nil => simp [readFrom]
  | cons word rest ih =>
      simp only [List.cons_append, readFrom, ih, List.length_cons, List.append_assoc]
      rw [show index + 1 + rest.length = index + (rest.length + 1) by omega]

theorem readFrom_ended (table : Table) (index : Nat) (words : List Text) :
    readFrom table .ended index words = (.ended, []) := by
  induction words generalizing index with
  | nil => rfl
  | cons word rest ih => simp [readFrom, readWord, ih]

/-- Renumber the word of an option read. -/
def Read.shift (k : Nat) (r : Read) : Read := { r with word := r.word + k }

/-- Renumber the word that a pending argument belongs to. -/
def State.shift (k : Nat) : State → State
  | .awaiting word option => .awaiting (word + k) option
  | state => state

@[simp] theorem Read.shift_option (k : Nat) (r : Read) : (r.shift k).option = r.option := rfl

@[simp] theorem Read.shift_value (k : Nat) (r : Read) : (r.shift k).value = r.value := rfl

theorem readLetters_shift (table : Table) (k index : Nat) (letters : Text) :
    readLetters table (index + k) letters =
      let r := readLetters table index letters
      (r.1.shift k, r.2.map (Read.shift k)) := by
  induction letters with
  | nil => rfl
  | cons letter rest ih =>
      simp only [readLetters]
      split
      · exact ih
      · simp [ih, Read.shift]
      · cases rest <;> rfl
      · rfl

theorem readWord_shift (table : Table) (state : State) (k index : Nat) (word : Text) :
    readWord table (state.shift k) (index + k) word =
      let r := readWord table state index word
      (r.1.shift k, r.2.map (Read.shift k)) := by
  cases state with
  | ended => rfl
  | awaiting owner option => rfl
  | ready =>
      simp only [readWord, State.shift]
      split
      · rfl
      · simp only [readLong]
        split
        · rfl
        · split <;> rfl
        · split <;> rfl
        · rfl
      · exact readLetters_shift table k index _
      · rfl

theorem readFrom_shift (table : Table) (k : Nat) (words : List Text) :
    ∀ (state : State) (index : Nat),
      readFrom table (state.shift k) (index + k) words =
        let r := readFrom table state index words
        (r.1.shift k, r.2.map (Read.shift k)) := by
  induction words with
  | nil => exact fun _ _ => rfl
  | cons word rest ih =>
      intro state index
      simp only [readFrom, readWord_shift, Nat.add_right_comm index k 1, ih, List.map_append]

/-- Reading from a later index only renumbers the words. -/
theorem readFrom_ready_index (table : Table) (index : Nat) (words : List Text) :
    readFrom table .ready index words =
      let r := readFrom table .ready 0 words
      (r.1.shift index, r.2.map (Read.shift index)) := by
  simpa [State.shift] using readFrom_shift table index words .ready 0

/-! ### Which word spells an option -/

/-- The word spells the option: it writes its long name, in full or abbreviated,
    or has its letter in a cluster. -/
inductive Spells (table : Table) : Text → Name → Prop where
  | long {body full mode} :
      body ≠ [] → resolve table (splitArgument body).1 = some (full, mode) →
      Spells table ('-' :: '-' :: body) (.long full)
  | short {letters letter} :
      letter ∈ letters → letters.head? ≠ some '-' → Spells table ('-' :: letters) (.short letter)

/-- The option that owns a state's pending argument is one that `P` holds of. -/
def State.Pending (P : Nat → Name → Prop) : State → Prop
  | .awaiting word option => P word option
  | _ => True

theorem readLong_reports (table : Table) (index : Nat) {body : Text} (nonempty : body ≠ []) :
    (readLong table index body).1.Pending
        (fun word option => word = index ∧ Spells table ('-' :: '-' :: body) option) ∧
      ∀ r ∈ (readLong table index body).2,
        r.word = index ∧ Spells table ('-' :: '-' :: body) r.option := by
  have spelled : ∀ {full mode}, resolve table (splitArgument body).1 = some (full, mode) →
      Spells table ('-' :: '-' :: body) (.long full) := fun h => .long nonempty h
  simp only [readLong]
  split
  · simp [State.Pending]
  · split <;> simp_all [State.Pending]
  · split <;> simp_all [State.Pending]
  · simp_all [State.Pending]

theorem readLetters_reports (table : Table) (index : Nat) (letters : Text) :
    (readLetters table index letters).1.Pending
        (fun word option => word = index ∧ ∃ letter ∈ letters, option = .short letter) ∧
      ∀ r ∈ (readLetters table index letters).2,
        r.word = index ∧ ∃ letter ∈ letters, r.option = .short letter := by
  induction letters with
  | nil => simp [readLetters, State.Pending]
  | cons letter rest ih =>
      obtain ⟨pending, reads⟩ := ih
      have weaken : ∀ word option,
          (word = index ∧ ∃ l ∈ rest, option = Name.short l) →
          (word = index ∧ ∃ l ∈ letter :: rest, option = Name.short l) := by
        rintro word option ⟨same, l, inside, spelled⟩
        exact ⟨same, l, List.mem_cons_of_mem _ inside, spelled⟩
      have pending' : (readLetters table index rest).1.Pending
          (fun word option => word = index ∧ ∃ l ∈ letter :: rest, option = .short l) := by
        cases state : (readLetters table index rest).1 with
        | awaiting word option =>
            rw [state] at pending
            exact weaken word option pending
        | ready | ended => trivial
      simp only [readLetters]
      split
      · exact ⟨pending', fun r member => weaken _ _ (reads r member)⟩
      · refine ⟨pending', fun r member => ?_⟩
        rcases List.mem_cons.mp member with rfl | member
        · exact ⟨rfl, letter, by simp, rfl⟩
        · exact weaken _ _ (reads r member)
      · cases rest with
        | nil => simp [State.Pending]
        | cons => simp [State.Pending]
      · simp [State.Pending]

theorem readWord_reports (table : Table) (index : Nat) (word : Text) :
    (readWord table .ready index word).1.Pending
        (fun owner option => owner = index ∧ Spells table word option) ∧
      ∀ r ∈ (readWord table .ready index word).2,
        r.word = index ∧ Spells table word r.option := by
  simp only [readWord]
  split
  · simp [State.Pending]
  · rename_i body plain
    exact readLong_reports table index (fun empty => plain (by rw [empty]))
  · rename_i letters _ single
    have head : letters.head? ≠ some '-' := by
      cases letters with
      | nil => simp
      | cons c rest =>
          intro same
          exact single rest (by simp_all)
    obtain ⟨pending, reads⟩ := readLetters_reports table index letters
    constructor
    · cases state : (readLetters table index letters).1 with
      | awaiting owner option =>
          rw [state] at pending
          obtain ⟨same, letter, inside, rfl⟩ := pending
          exact ⟨same, .short inside head⟩
      | ready | ended => trivial
    · intro r member
      obtain ⟨same, letter, inside, spelled⟩ := reads r member
      exact ⟨same, spelled ▸ .short inside head⟩
  · simp [State.Pending]

/-- Every option read was spelled by one of the words, or was already pending. -/
theorem readFrom_spelled (table : Table) (P : Nat → Name → Prop) (words : List Text) :
    ∀ (state : State) (index : Nat),
      state.Pending P →
      (∀ i w option, words[i]? = some w → Spells table w option → P (index + i) option) →
      (readFrom table state index words).1.Pending P ∧
        ∀ r ∈ (readFrom table state index words).2, P r.word r.option := by
  induction words with
  | nil => exact fun state index pending _ => ⟨pending, by simp [readFrom]⟩
  | cons word rest ih =>
      intro state index pending spelled
      have here : ∀ option, Spells table word option → P index option :=
        fun option h => by simpa using spelled 0 word option (by simp) h
      have later : ∀ i w option, rest[i]? = some w → Spells table w option →
          P (index + 1 + i) option := by
        intro i w option located h
        have := spelled (i + 1) w option (by simpa using located) h
        rwa [show index + (i + 1) = index + 1 + i by omega] at this
      have step : (readWord table state index word).1.Pending P ∧
          ∀ r ∈ (readWord table state index word).2, P r.word r.option := by
        cases state with
        | ended => simp [readWord, State.Pending]
        | awaiting owner option => simpa [readWord, State.Pending] using pending
        | ready =>
            obtain ⟨next, reads⟩ := readWord_reports table index word
            constructor
            · cases reached : (readWord table .ready index word).1 with
              | awaiting owner option =>
                  rw [reached] at next
                  obtain ⟨rfl, h⟩ := next
                  exact here option h
              | ready | ended => trivial
            · intro r member
              obtain ⟨same, h⟩ := reads r member
              exact same ▸ here r.option h
      obtain ⟨last, more⟩ := ih _ (index + 1) step.1 later
      refine ⟨last, fun r member => ?_⟩
      rcases List.mem_append.mp member with first | second
      · exact step.2 r first
      · exact more r second

/-- An option put in effect was spelled by the word it names. -/
theorem read_spelled {table : Table} {words : List Text} {r : Read}
    (member : r ∈ read table words) :
    ∃ w, words[r.word]? = some w ∧ Spells table w r.option := by
  have all := readFrom_spelled table
    (fun word option => ∃ w, words[word]? = some w ∧ Spells table w option) words .ready 0
    trivial (fun i w option located h => ⟨w, by simpa using located, h⟩)
  exact all.2 r member

/-- Options read from an index on are spelled by the words from there on. -/
theorem readFrom_ready_bounds (table : Table) (index : Nat) (words : List Text) :
    (readFrom table .ready index words).1.Pending
        (fun word _ => index ≤ word ∧ word < index + words.length) ∧
      ∀ r ∈ (readFrom table .ready index words).2,
        index ≤ r.word ∧ r.word < index + words.length := by
  refine readFrom_spelled table _ words .ready index trivial fun i w _ located _ => ?_
  obtain ⟨inside, -⟩ := List.getElem?_eq_some_iff.mp located
  omega

/-- A word is read as an option only where the reader was ready for one. -/
theorem ready_of_read_at {table : Table} {xs ys : List Text} {r : Read}
    (member : r ∈ read table (xs ++ ys)) (at_word : r.word = xs.length) :
    (readFrom table .ready 0 xs).1 = .ready := by
  obtain ⟨pending, before⟩ := readFrom_ready_bounds table 0 xs
  have notBefore : r ∉ (readFrom table .ready 0 xs).2 := by
    intro h
    have := before r h
    omega
  simp only [read, readFrom_append, List.mem_append, notBefore, false_or] at member
  cases reached : (readFrom table .ready 0 xs).1 with
  | ready => rfl
  | ended => simp [reached, readFrom_ended] at member
  | awaiting owner option =>
      rw [reached] at member pending
      cases ys with
      | nil => simp [readFrom] at member
      | cons w rest =>
          simp only [readFrom, readWord, List.cons_append, List.nil_append,
            List.mem_cons] at member
          rcases member with rfl | later
          · have := pending.2
            simp at this at_word
            omega
          · have := (readFrom_ready_bounds table _ rest).2 r later
            omega

theorem Spells.ne_separator {table : Table} {w : Text} {option : Name}
    (spells : Spells table w option) : w ≠ separator := by
  cases spells with
  | long nonempty _ => simpa [separator] using nonempty
  | short _ head =>
      rintro same
      simp only [separator, List.cons.injEq, true_and] at same
      exact head (by rw [same]; rfl)

end QuadControl.Lib.Getopt
