import Mathlib

/-! # Texts drawn from blocks of samples

Samples come in blocks of one size. A reading takes some samples for a symbol and turns the
others away; texts are collected one after another, block by block, and what a block has
left when it completes a text is thrown away. A reading is even when any two symbols can be
exchanged in the samples. Then any two texts can be exchanged in the sequences of blocks,
and each text comes out of as many sequences as any other.
-/

namespace QuadControl.Lib.Sampling

variable {Symbol Sample : Type} {size : Nat}

/-- A reading whose symbols can be exchanged, sample by sample. -/
structure Even [DecidableEq Symbol] (read : Sample → Option Symbol) where
  exchange : Symbol → Symbol → Sample → Sample
  read_exchange : ∀ a c b, read (exchange a c b) = (read b).map (Equiv.swap a c)
  exchange_back : ∀ a c b, exchange c a (exchange a c b) = b

/-- The first symbols of a block, as many as are missing. -/
def found (read : Sample → Option Symbol) (missing : Nat) (block : List Sample) : List Symbol :=
  (block.filterMap read).take missing

/-- Texts of the given lengths, one behind the other; none when the blocks run out. -/
def collectAll (read : Sample → Option Symbol) :
    List Nat → List (List.Vector Sample size) → Option (List Symbol)
  | [], _ => some []
  | 0 :: lengths, blocks => collectAll read lengths blocks
  | (_ + 1) :: _, [] => none
  | (missing + 1) :: lengths, block :: blocks =>
      (collectAll read
        ((missing + 1 - (found read (missing + 1) block.toList).length) :: lengths) blocks).map
        (found read (missing + 1) block.toList ++ ·)
termination_by lengths blocks => lengths.length + blocks.length

variable {read : Sample → Option Symbol}

theorem length_found_le (missing : Nat) (block : List Sample) :
    (found read missing block).length ≤ missing :=
  List.length_take_le ..

theorem length_collectAll {lengths : List Nat} {blocks : List (List.Vector Sample size)}
    {text : List Symbol} (collected : collectAll read lengths blocks = some text) :
    text.length = lengths.sum := by
  fun_induction collectAll read lengths blocks generalizing text with
  | case1 => cases collected; rfl
  | case2 lengths blocks ih => simpa using ih collected
  | case3 => cases collected
  | case4 missing lengths block blocks ih =>
      obtain ⟨rest, gathered, rfl⟩ := Option.map_eq_some_iff.mp collected
      have short := @length_found_le _ _ read (missing + 1) block.toList
      have tail := ih gathered
      rw [List.sum_cons] at tail
      rw [List.length_append, tail, List.sum_cons]
      omega

section Exchanges

variable [DecidableEq Symbol]

/-- Symbol by symbol, the two of each pair are exchanged. -/
def exchangeAll (pairs : List (Symbol × Symbol)) (text : List Symbol) : List Symbol :=
  List.zipWith (fun pair => Equiv.swap pair.1 pair.2) pairs text

/-- The exchanges made in the samples of a block, one for each symbol it gives. -/
def steerBlock (even : Even read) : List (Symbol × Symbol) → List Sample → List Sample
  | [], block => block
  | _ :: _, [] => []
  | pair :: pairs, b :: block =>
      match read b with
      | some _ => even.exchange pair.1 pair.2 b :: steerBlock even pairs block
      | none => b :: steerBlock even (pair :: pairs) block

@[simp] theorem length_steerBlock (even : Even read) (pairs : List (Symbol × Symbol))
    (block : List Sample) : (steerBlock even pairs block).length = block.length := by
  fun_induction steerBlock even pairs block <;> simp_all

/-- `steerBlock` on a block of the size. -/
def steer (even : Even read) (pairs : List (Symbol × Symbol)) (block : List.Vector Sample size) :
    List.Vector Sample size :=
  ⟨steerBlock even pairs block.toList, by simp⟩

@[simp] theorem toList_steer (even : Even read) (pairs : List (Symbol × Symbol))
    (block : List.Vector Sample size) :
    (steer even pairs block).toList = steerBlock even pairs block.toList := rfl

/-- The exchanges made in a sequence of blocks, along the texts collected from it. -/
def steerAll (even : Even read) : List Nat → List (Symbol × Symbol) →
    List (List.Vector Sample size) → List (List.Vector Sample size)
  | [], _, blocks => blocks
  | 0 :: lengths, pairs, blocks => steerAll even lengths pairs blocks
  | (_ + 1) :: _, _, [] => []
  | (missing + 1) :: lengths, pairs, block :: blocks =>
      steer even (pairs.take (missing + 1)) block ::
        steerAll even ((missing + 1 - (found read (missing + 1) block.toList).length) :: lengths)
          (pairs.drop (found read (missing + 1) block.toList).length) blocks
termination_by lengths _ blocks => lengths.length + blocks.length

@[simp] theorem length_steerAll (even : Even read) (lengths : List Nat)
    (pairs : List (Symbol × Symbol)) (blocks : List (List.Vector Sample size)) :
    (steerAll even lengths pairs blocks).length = blocks.length := by
  fun_induction steerAll even lengths pairs blocks <;> simp_all

variable (even : Even read)

/-- A steered block gives as many symbols, those of the pairs exchanged. -/
theorem found_steerBlock (pairs : List (Symbol × Symbol)) (block : List Sample) :
    found read pairs.length (steerBlock even pairs block) =
      exchangeAll pairs (found read pairs.length block) := by
  fun_induction steerBlock even pairs block with
  | case1 => rfl
  | case2 => rfl
  | case3 pair pairs b block x isRead ih =>
      have exchanged : read (even.exchange pair.1 pair.2 b) =
          some (Equiv.swap pair.1 pair.2 x) := by
        rw [even.read_exchange, isRead]
        rfl
      simp only [found] at ih
      simp only [found, List.filterMap_cons, exchanged, isRead, List.length_cons,
        List.take_succ_cons, exchangeAll, List.zipWith_cons_cons, ih]
  | case4 pair pairs b block isRead ih =>
      simp only [found] at ih
      simp only [found, List.filterMap_cons, isRead, ih]

theorem steerBlock_back (pairs : List (Symbol × Symbol)) (block : List Sample) :
    steerBlock even (pairs.map Prod.swap) (steerBlock even pairs block) = block := by
  fun_induction steerBlock even pairs block with
  | case1 block => cases block <;> rfl
  | case2 => rfl
  | case3 pair pairs b block x isRead ih =>
      have exchanged : read (even.exchange pair.1 pair.2 b) =
          some (Equiv.swap pair.1 pair.2 x) := by
        rw [even.read_exchange, isRead]
        rfl
      simp only [List.map_cons, steerBlock, exchanged, ih, Prod.fst_swap, Prod.snd_swap,
        even.exchange_back]
  | case4 pair pairs b block isRead ih =>
      rw [List.map_cons] at ih
      simp only [List.map_cons, steerBlock, isRead, ih]

/-- Pairs beyond the text exchange nothing. -/
theorem exchangeAll_take {count : Nat} {pairs : List (Symbol × Symbol)} {text : List Symbol}
    (short : text.length ≤ count) :
    exchangeAll (pairs.take count) text = exchangeAll pairs text := by
  induction text generalizing pairs count with
  | nil => rw [exchangeAll, exchangeAll, List.zipWith_nil_right, List.zipWith_nil_right]
  | cons x text ih =>
      obtain _ | ⟨pair, pairs⟩ := pairs
      · rw [List.take_nil]
      · obtain _ | count := count
        · cases short
        · have rest := @ih count pairs (Nat.le_of_succ_le_succ short)
          rw [exchangeAll, exchangeAll] at rest
          rw [List.take_succ_cons, exchangeAll, exchangeAll, List.zipWith_cons_cons,
            List.zipWith_cons_cons, rest]

theorem exchangeAll_append (pairs : List (Symbol × Symbol)) (text rest : List Symbol)
    (short : text.length ≤ pairs.length) :
    exchangeAll pairs (text ++ rest) =
      exchangeAll pairs text ++ exchangeAll (pairs.drop text.length) rest := by
  conv_lhs => rw [← List.take_append_drop text.length pairs]
  rw [← exchangeAll_take (Nat.le_refl text.length), exchangeAll,
    List.zipWith_append (by simpa using short)]
  rfl

theorem exchangeAll_zip {texts others : List Symbol} (same : texts.length = others.length) :
    exchangeAll (texts.zip others) texts = others := by
  induction texts generalizing others with
  | nil => exact (List.length_eq_zero_iff.mp same.symm).symm
  | cons x texts ih =>
      obtain _ | ⟨y, others⟩ := others
      · cases same
      · have rest := @ih others (by simpa using same)
        rw [exchangeAll] at rest
        simp [exchangeAll, rest]

theorem found_steer {missing : Nat} {pairs : List (Symbol × Symbol)}
    (block : List.Vector Sample size) (enough : missing ≤ pairs.length) :
    found read missing (steer even (pairs.take missing) block).toList =
      exchangeAll pairs (found read missing block.toList) := by
  have steered := found_steerBlock even (pairs.take missing) block.toList
  rw [List.length_take_of_le enough] at steered
  rw [toList_steer, steered]
  exact exchangeAll_take (length_found_le missing block.toList)

theorem length_found_steer {missing : Nat} {pairs : List (Symbol × Symbol)}
    (block : List.Vector Sample size) (enough : missing ≤ pairs.length) :
    (found read missing (steer even (pairs.take missing) block).toList).length =
      (found read missing block.toList).length := by
  have short := @length_found_le _ _ read missing block.toList
  rw [found_steer even block enough, exchangeAll, List.length_zipWith]
  omega

/-- Steered blocks give the same texts with the pairs exchanged. -/
theorem collectAll_steerAll {lengths : List Nat} {pairs : List (Symbol × Symbol)}
    (blocks : List (List.Vector Sample size)) (enough : pairs.length = lengths.sum) :
    collectAll read lengths (steerAll even lengths pairs blocks) =
      (collectAll read lengths blocks).map (exchangeAll pairs) := by
  fun_induction collectAll read lengths blocks generalizing pairs with
  | case1 =>
      obtain rfl := List.length_eq_zero_iff.mp enough
      simp [collectAll, exchangeAll]
  | case2 lengths blocks ih =>
      rw [steerAll, collectAll]
      exact ih (by simpa using enough)
  | case3 => simp [steerAll, collectAll]
  | case4 missing lengths block blocks ih =>
      rw [List.sum_cons] at enough
      have short := @length_found_le _ _ read (missing + 1) block.toList
      have room : missing + 1 ≤ pairs.length := by omega
      rw [steerAll, collectAll, length_found_steer even block room, found_steer even block room,
        ih (by rw [List.length_drop, List.sum_cons]; omega), Option.map_map, Option.map_map]
      congr 1
      funext rest
      exact (exchangeAll_append pairs _ rest (by omega)).symm

/-- The exchanges undo themselves. -/
theorem steerAll_back {lengths : List Nat} {pairs : List (Symbol × Symbol)}
    (blocks : List (List.Vector Sample size)) (enough : pairs.length = lengths.sum) :
    steerAll even lengths (pairs.map Prod.swap) (steerAll even lengths pairs blocks) = blocks := by
  fun_induction steerAll even lengths pairs blocks with
  | case1 => simp [steerAll]
  | case2 lengths pairs blocks ih =>
      rw [steerAll]
      exact ih (by simpa using enough)
  | case3 => simp [steerAll]
  | case4 missing lengths pairs block blocks ih =>
      rw [List.sum_cons] at enough
      have short := @length_found_le _ _ read (missing + 1) block.toList
      have room : missing + 1 ≤ pairs.length := by omega
      have same : steer even ((pairs.map Prod.swap).take (missing + 1))
          (steer even (pairs.take (missing + 1)) block) = block := by
        refine Subtype.ext ?_
        change steerBlock even _ (steerBlock even _ block.toList) = block.toList
        rw [← List.map_take, steerBlock_back]
      rw [steerAll, length_found_steer even block room, same, ← List.map_drop,
        ih (by rw [List.length_drop, List.sum_cons]; omega)]

end Exchanges

/-! ### How often a text is drawn -/

section Counting

variable [DecidableEq Symbol]

def steerDraws (even : Even read) (lengths : List Nat) (pairs : List (Symbol × Symbol)) {count : Nat}
    (draws : List.Vector (List.Vector Sample size) count) :
    List.Vector (List.Vector Sample size) count :=
  ⟨steerAll even lengths pairs draws.toList, by simp⟩

variable [Fintype Sample]

/-- The sequences of blocks a text is collected from. -/
def drawn (read : Sample → Option Symbol) (lengths : List Nat) (size count : Nat)
    (text : List Symbol) : Finset (List.Vector (List.Vector Sample size) count) :=
  Finset.univ.filter fun draws => collectAll read lengths draws.toList = some text

theorem card_drawn_le (even : Even read) {lengths : List Nat} (size count : Nat)
    {text other : List Symbol} (length : text.length = lengths.sum)
    (length' : other.length = lengths.sum) :
    (drawn read lengths size count text).card ≤ (drawn read lengths size count other).card := by
  have enough : (text.zip other).length = lengths.sum := by
    rw [List.length_zip]
    omega
  refine Finset.card_le_card_of_injOn (steerDraws even lengths (text.zip other)) ?_ ?_
  · intro draws given
    have collected := (Finset.mem_filter.mp given).2
    refine Finset.mem_coe.mpr (Finset.mem_filter.mpr ⟨Finset.mem_univ _, ?_⟩)
    change collectAll read lengths (steerAll even lengths _ draws.toList) = _
    rw [collectAll_steerAll even _ enough, collected, Option.map_some,
      exchangeAll_zip (length.trans length'.symm)]
  · intro draws _ draws' _ same
    have lists : steerAll even lengths (text.zip other) draws.toList =
        steerAll even lengths (text.zip other) draws'.toList := congrArg List.Vector.toList same
    refine Subtype.ext ?_
    change draws.toList = draws'.toList
    rw [← steerAll_back even draws.toList enough, lists, steerAll_back even draws'.toList enough]

/-- Of the sequences of blocks that are long enough for the texts, every text has its share. -/
theorem card_drawn_mul [Fintype Symbol] (even : Even read) {lengths : List Nat} (size count : Nat)
    {text : List Symbol} (length : text.length = lengths.sum) :
    (drawn read lengths size count text).card * Fintype.card Symbol ^ lengths.sum =
      (Finset.univ.filter fun draws : List.Vector (List.Vector Sample size) count =>
        (collectAll read lengths draws.toList).isSome).card := by
  classical
  have each (other : List.Vector Symbol lengths.sum) :
      (drawn read lengths size count other.toList).card =
        (drawn read lengths size count text).card :=
    Nat.le_antisymm (card_drawn_le even size count other.toList_length length)
      (card_drawn_le even size count length other.toList_length)
  have covered : (Finset.univ.filter fun draws : List.Vector (List.Vector Sample size) count =>
      (collectAll read lengths draws.toList).isSome) =
        Finset.univ.biUnion fun other : List.Vector Symbol lengths.sum =>
          drawn read lengths size count other.toList := by
    ext draws
    simp only [drawn, Finset.mem_filter, Finset.mem_univ, true_and, Finset.mem_biUnion]
    constructor
    · intro given
      obtain ⟨other, collected⟩ := Option.isSome_iff_exists.mp given
      exact ⟨⟨other, length_collectAll collected⟩, collected⟩
    · rintro ⟨other, collected⟩
      rw [collected]
      rfl
  rw [covered, Finset.card_biUnion, Finset.sum_congr rfl fun other _ => each other,
    Finset.sum_const, Finset.card_univ, card_vector, smul_eq_mul, Nat.mul_comm]
  intro other _ other' _ differ
  refine Finset.disjoint_left.mpr fun draws given given' => differ (Subtype.ext ?_)
  have first := (Finset.mem_filter.mp given).2
  have second := (Finset.mem_filter.mp given').2
  exact Option.some.inj (first.symm.trans second)

end Counting

end QuadControl.Lib.Sampling
