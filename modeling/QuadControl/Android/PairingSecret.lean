import QuadControl.Android.Redaction
import QuadControl.Lib.Sampling

/-! # The secret of a pairing

`generate_pairing_secret` draws the name of a service and a password from the host's random
bytes, 32 at a time. A byte from 248 on is turned away, so that each of the 62 letters and
digits is read from four bytes.
-/

namespace QuadControl.Android.Wireless

open Lib Lib.Sampling

/-- What `getrandom::fill` fills. -/
abbrev Draw := List.Vector (Fin 256) 32

def passwordLength : Nat := 12

/-- `ALPHANUMERIC`. -/
def alphanumeric : Text :=
  "0123456789ABCDEFGHIJKLMNOPQRSTUVWXYZabcdefghijklmnopqrstuvwxyz".toList

/-- The `for` of `random_text`. -/
def fillFrom (length : Nat) : Text → List (Fin 256) → Text
  | output, [] => output
  | output, byte :: bytes =>
      if byte.val < 248 then
        let output := output ++ [alphanumeric.getD (byte.val % alphanumeric.length) '0']
        if output.length = length then output else fillFrom length output bytes
      else fillFrom length output bytes

/-- `random_text`, over the draws to come: the text and the draws that are left, or nothing if
    there are too few. -/
def randomTextFrom (length : Nat) : Text → List Draw → Option (Text × List Draw)
  | output, [] => if output.length < length then none else some (output, [])
  | output, bytes :: draws =>
      if output.length < length then
        randomTextFrom length (fillFrom length output bytes.toList) draws
      else some (output, bytes :: draws)

def randomText (length : Nat) (draws : List Draw) : Option (Text × List Draw) :=
  randomTextFrom length [] draws

def secretOf (serviceSuffix password : Text) : PairingSecret :=
  let serviceName := "studio-".toList ++ serviceSuffix
  { serviceName := serviceName
    password := password
    payload := "WIFI:T:ADB;S:".toList ++ serviceName ++ ";P:".toList ++ password ++ ";;".toList }

def generatePairingSecret (draws : List Draw) : Option (PairingSecret × List Draw) := do
  let (serviceSuffix, draws) ← randomText 10 draws
  let (password, draws) ← randomText passwordLength draws
  return (secretOf serviceSuffix password, draws)

/-! ### The reading of a byte -/

def readByte (byte : Fin 256) : Option (Fin 62) :=
  if byte.val < 248 then some ⟨byte.val % 62, Nat.mod_lt _ (by decide)⟩ else none

/-- The character of a place in the alphabet. -/
def charAt (place : Fin 62) : Char := alphanumeric.getD place.val '0'

theorem charAt_injective : Function.Injective charAt := by
  have nodup : (List.ofFn charAt).Nodup := by decide +kernel
  exact List.nodup_ofFn.mp nodup

/-- Places are exchanged within a row of 62 bytes. -/
def exchangeBytes (a c : Fin 62) (byte : Fin 256) : Fin 256 :=
  if small : byte.val < 248 then
    ⟨62 * (byte.val / 62) + (Equiv.swap a c ⟨byte.val % 62, Nat.mod_lt _ (by decide)⟩).val, by
      have place := (Equiv.swap a c ⟨byte.val % 62, Nat.mod_lt _ (by decide)⟩).isLt
      omega⟩
  else byte

theorem exchangeBytes_val {a c : Fin 62} {byte : Fin 256} (small : byte.val < 248) :
    (exchangeBytes a c byte).val / 62 = byte.val / 62 ∧
      (exchangeBytes a c byte).val % 62 =
        (Equiv.swap a c ⟨byte.val % 62, Nat.mod_lt _ (by decide)⟩).val := by
  have place := (Equiv.swap a c ⟨byte.val % 62, Nat.mod_lt _ (by decide)⟩).isLt
  rw [exchangeBytes, dif_pos small]
  constructor <;> dsimp only <;> omega

theorem exchangeBytes_small {a c : Fin 62} {byte : Fin 256} (small : byte.val < 248) :
    (exchangeBytes a c byte).val < 248 := by
  have row := (exchangeBytes_val (a := a) (c := c) small).1
  omega

/-- No letter or digit is read more often than another. -/
def evenBytes : Even readByte where
  exchange := exchangeBytes
  read_exchange a c byte := by
    by_cases small : byte.val < 248
    · rw [readByte, if_pos (exchangeBytes_small small), readByte, if_pos small, Option.map_some]
      exact congrArg some (Fin.ext (exchangeBytes_val small).2)
    · rw [exchangeBytes, dif_neg small, readByte, if_neg small]
      rfl
  exchange_back a c byte := by
    by_cases small : byte.val < 248
    · refine Fin.ext ?_
      have there := @exchangeBytes_val a c byte small
      have back := @exchangeBytes_val c a _ (@exchangeBytes_small a c byte small)
      have places : (Equiv.swap c a
          ⟨(exchangeBytes a c byte).val % 62, Nat.mod_lt _ (by decide)⟩).val = byte.val % 62 := by
        have same : (⟨(exchangeBytes a c byte).val % 62, Nat.mod_lt _ (by decide)⟩ : Fin 62) =
            Equiv.swap a c ⟨byte.val % 62, Nat.mod_lt _ (by decide)⟩ := Fin.ext there.2
        rw [same, Equiv.swap_comm c a, Equiv.swap_apply_self]
      omega
    · rw [exchangeBytes, exchangeBytes, dif_neg small, dif_neg small]

/-! ### The texts -/

theorem fillFrom_eq {length : Nat} {output : Text} (bytes : List (Fin 256))
    (short : output.length < length) :
    fillFrom length output bytes =
      output ++ (found readByte (length - output.length) bytes).map charAt := by
  induction bytes generalizing output with
  | nil => simp [fillFrom, found]
  | cons byte bytes ih =>
      obtain ⟨missing, rest⟩ : ∃ missing, length - output.length = missing + 1 :=
        ⟨length - output.length - 1, by omega⟩
      by_cases small : byte.val < 248
      · have taken : readByte byte = some ⟨byte.val % 62, Nat.mod_lt _ (by decide)⟩ := if_pos small
        have place : alphanumeric.getD (byte.val % alphanumeric.length) '0' =
            charAt ⟨byte.val % 62, Nat.mod_lt _ (by decide)⟩ := rfl
        rw [fillFrom, if_pos small, found, List.filterMap_cons, taken, rest, place]
        dsimp only
        rw [List.take_succ_cons, List.map_cons]
        split
        case isTrue full =>
          have none : missing = 0 := by
            rw [List.length_append, List.length_singleton] at full
            omega
          rw [none, List.take_zero, List.map_nil]
        case isFalse unfilled =>
          rw [ih (by simp at unfilled ⊢; omega), List.append_assoc, found]
          have fewer : length -
              (output ++ [charAt ⟨byte.val % 62, Nat.mod_lt _ (by decide)⟩]).length = missing := by
            rw [List.length_append, List.length_singleton]
            omega
          rw [fewer]
          rfl
      · have passed : readByte byte = none := if_neg small
        rw [fillFrom, if_neg small, ih short, found, found, List.filterMap_cons, passed]

theorem length_randomTextFrom {length : Nat} {output text : Text} {draws rest : List Draw}
    (short : output.length ≤ length)
    (read : randomTextFrom length output draws = some (text, rest)) : text.length = length := by
  induction draws generalizing output with
  | nil =>
      rw [randomTextFrom] at read
      split at read
      · cases read
      · cases read
        omega
  | cons bytes draws ih =>
      rw [randomTextFrom] at read
      split at read
      case isTrue fewer =>
        refine ih ?_ read
        have most := @length_found_le _ _ readByte (length - output.length) bytes.toList
        rw [fillFrom_eq _ fewer, List.length_append, List.length_map]
        omega
      case isFalse =>
        cases read
        omega

/-- A text is what is collected first, and what follows is collected from the draws left. -/
theorem randomTextFrom_collectAll (lengths : List Nat) {length : Nat} {output : Text}
    (draws : List Draw) (short : output.length ≤ length) :
    (collectAll readByte ((length - output.length) :: lengths) draws).map
        (fun places => output ++ places.map charAt) =
      (randomTextFrom length output draws).bind fun (text, rest) =>
        (collectAll readByte lengths rest).map fun places => text ++ places.map charAt := by
  induction draws generalizing output with
  | nil =>
      rw [randomTextFrom]
      split
      case isTrue fewer =>
        obtain ⟨missing, rest⟩ : ∃ missing, length - output.length = missing + 1 :=
          ⟨length - output.length - 1, by omega⟩
        rw [rest, collectAll]
        rfl
      case isFalse full =>
        rw [show length - output.length = 0 by omega, collectAll]
        rfl
  | cons bytes draws ih =>
      rw [randomTextFrom]
      split
      case isTrue fewer =>
        obtain ⟨missing, rest⟩ : ∃ missing, length - output.length = missing + 1 :=
          ⟨length - output.length - 1, by omega⟩
        have most := @length_found_le _ _ readByte (length - output.length) bytes.toList
        have filled := fillFrom_eq bytes.toList fewer
        have left : length - (fillFrom length output bytes.toList).length =
            missing + 1 - (found readByte (missing + 1) bytes.toList).length := by
          rw [filled, List.length_append, List.length_map, rest]
          omega
        have room : (fillFrom length output bytes.toList).length ≤ length := by
          rw [filled, List.length_append, List.length_map]
          omega
        rw [← ih room, left, rest, collectAll, Option.map_map, filled, rest]
        congr 1
        funext places
        simp
      case isFalse full =>
        rw [show length - output.length = 0 by omega, collectAll]
        rfl

theorem randomText_collectAll (lengths : List Nat) (length : Nat) (draws : List Draw) :
    (collectAll readByte (length :: lengths) draws).map (List.map charAt) =
      (randomText length draws).bind fun (text, rest) =>
        (collectAll readByte lengths rest).map fun places => text ++ places.map charAt :=
  @randomTextFrom_collectAll lengths length [] draws (Nat.zero_le length)

/-- The draws' places, text behind text. -/
theorem generatePairingSecret_collectAll (draws : List Draw) :
    (collectAll readByte [10, passwordLength] draws).map (List.map charAt) =
      (randomText 10 draws).bind fun (suffix, rest) =>
        (randomText passwordLength rest).map fun (password, _) => suffix ++ password := by
  rw [randomText_collectAll]
  congr 1
  funext ⟨suffix, rest⟩
  have last := randomText_collectAll [] passwordLength rest
  have appended : (collectAll readByte [passwordLength] rest).map
      (fun places => suffix ++ places.map charAt) =
        ((collectAll readByte [passwordLength] rest).map (List.map charAt)).map (suffix ++ ·) := by
    rw [Option.map_map]
    rfl
  dsimp only
  rw [appended, last, Option.map_bind]
  cases randomText passwordLength rest with
  | none => rfl
  | some drawn => simp [collectAll]

theorem generatePairingSecret_eq_some {draws rest : List Draw} {secret : PairingSecret} :
    generatePairingSecret draws = some (secret, rest) ↔
      ∃ suffix between password, randomText 10 draws = some (suffix, between) ∧
        randomText passwordLength between = some (password, rest) ∧
        secret = secretOf suffix password := by
  simp only [generatePairingSecret, Option.bind_eq_bind, Option.bind_eq_some_iff, Prod.exists,
    pure, Option.some.injEq, Prod.mk.injEq]
  constructor
  · rintro ⟨suffix, between, first, password, rest, second, rfl, rfl⟩
    exact ⟨suffix, between, password, first, second, rfl⟩
  · rintro ⟨suffix, between, password, first, second, rfl⟩
    exact ⟨suffix, between, first, password, rest, second, rfl, rfl⟩

theorem secretOf_injective {suffix suffix' password password' : Text}
    (same : secretOf suffix password = secretOf suffix' password') :
    suffix = suffix' ∧ password = password' :=
  ⟨List.append_cancel_left (congrArg PairingSecret.serviceName same),
    congrArg PairingSecret.password same⟩

/-- A secret is drawn where its places are collected. -/
theorem generated_iff (draws : List Draw) (suffix : List.Vector (Fin 62) 10)
    (password : List.Vector (Fin 62) passwordLength) :
    (generatePairingSecret draws).map Prod.fst =
        some (secretOf (suffix.toList.map charAt) (password.toList.map charAt)) ↔
      collectAll readByte [10, passwordLength] draws =
        some (suffix.toList ++ password.toList) := by
  have places := generatePairingSecret_collectAll draws
  constructor
  · intro generated
    obtain ⟨⟨secret, rest⟩, whole, rfl⟩ := Option.map_eq_some_iff.mp generated
    obtain ⟨first, between, second, read, read', same⟩ := generatePairingSecret_eq_some.mp whole
    obtain ⟨rfl, rfl⟩ := secretOf_injective same.symm
    rw [read, Option.bind_some] at places
    dsimp only at places
    rw [read', Option.map_some, ← List.map_append] at places
    exact Option.map_injective (List.map_injective_iff.mpr charAt_injective) places
  · intro collected
    rw [collected, Option.map_some, List.map_append] at places
    obtain ⟨⟨first, between⟩, read, onward⟩ := Option.bind_eq_some_iff.mp places.symm
    obtain ⟨⟨second, rest⟩, read', joined⟩ := Option.map_eq_some_iff.mp onward
    have long := length_randomTextFrom (Nat.zero_le 10) read
    obtain ⟨rfl, rfl⟩ := List.append_inj joined (by simpa using long)
    rw [generatePairingSecret_eq_some.mpr ⟨_, between, _, read, read', rfl⟩]
    rfl

theorem generated_isSome (draws : List Draw) :
    (generatePairingSecret draws).isSome =
      (collectAll readByte [10, passwordLength] draws).isSome := by
  rw [← @Option.isSome_map _ _ (List.map charAt), generatePairingSecret_collectAll]
  simp only [generatePairingSecret, Option.bind_eq_bind]
  cases randomText 10 draws with
  | none => rfl
  | some drawn =>
      cases here : randomText passwordLength drawn.2 with
      | none => simp [here]
      | some drawn' => simp [here]

/-- However many draws there are: of the sequences of bytes that are enough for a secret, each
    name and password has as many as any other. -/
theorem generatePairingSecret_even (count : Nat) (suffix : List.Vector (Fin 62) 10)
    (password : List.Vector (Fin 62) passwordLength) :
    (Finset.univ.filter fun draws : List.Vector Draw count =>
        (generatePairingSecret draws.toList).map Prod.fst =
          some (secretOf (suffix.toList.map charAt) (password.toList.map charAt))).card * 62 ^ 22 =
      (Finset.univ.filter fun draws : List.Vector Draw count =>
        (generatePairingSecret draws.toList).isSome).card := by
  have whole : (suffix.toList ++ password.toList).length = [10, passwordLength].sum := by simp
  have share := card_drawn_mul evenBytes 32 count whole
  rw [Fintype.card_fin] at share
  simp only [drawn] at share
  simp only [generated_iff, generated_isSome]
  exact share

end QuadControl.Android.Wireless
