import Mathlib.Data.List.Infix
import QuadControl.Lib.Reads

/-! # Splitting at delimiters

A delimiter is told from a bounded number of elements at the head of what is left. A list
splits into what leads up to its first delimiter and the parts from each delimiter to the
next. Of a list that goes on, all parts but the last are settled; without a part, only so
many elements at its end can still become the beginning of one.
-/

namespace QuadControl.Lib

/-- How delimiters are told. -/
structure Delimiter (α : Type) where
  /-- The length of the delimiter that a list begins with. -/
  length? : List α → Option Nat
  /-- The number of elements that decide. -/
  window : Nat
  positive : ∀ {list n}, length? list = some n → 0 < n
  within : ∀ {list n}, length? list = some n → n ≤ list.length
  /-- No delimiter is much shorter than what decides. -/
  long : ∀ {list n}, length? list = some n → window ≤ n + 1
  stable : ∀ {list n} (more), length? list = some n → length? (list ++ more) = some n
  decided : ∀ {list} (more), window ≤ list.length → length? (list ++ more) = length? list

namespace Delimiter

variable {α : Type}

/-- A delimiter and what stands between it and the next. -/
structure Part (α : Type) where
  code : List α
  body : List α
  deriving Repr, DecidableEq

def Part.items (part : Part α) : List α := part.code ++ part.body

variable (delimiter : Delimiter α)

/-- What leads up to the first delimiter, and the parts. -/
def split : List α → List α × List (Part α)
  | [] => ([], [])
  | first :: rest =>
      match _here : delimiter.length? (first :: rest) with
      | none => (first :: (split rest).1, (split rest).2)
      | some n =>
          let later := split ((first :: rest).drop n)
          ([], ⟨(first :: rest).take n, later.1⟩ :: later.2)
termination_by list => list.length
decreasing_by
  · simp
  · have := delimiter.positive _here
    simp only [List.length_drop, List.length_cons]
    omega

/-- The parts that stay as they are, however the list goes on. -/
def settled (list : List α) : List (Part α) := (delimiter.split list).2.dropLast

/-- What may still change: the last part, or what may become the beginning of one. -/
def retain (list : List α) : List α :=
  match (delimiter.split list).2.getLast? with
  | some last => last.items
  | none => list.drop (list.length + 1 - delimiter.window)

variable {delimiter}

@[simp] theorem split_nil : delimiter.split [] = ([], []) := by
  rw [split]

theorem split_cons_of_none {first : α} {rest : List α}
    (plain : delimiter.length? (first :: rest) = none) :
    delimiter.split (first :: rest) =
      (first :: (delimiter.split rest).1, (delimiter.split rest).2) := by
  rw [split]
  split
  · rfl
  · rename_i n here
    rw [plain] at here
    cases here

theorem split_of_some {list : List α} {n : Nat} (here : delimiter.length? list = some n) :
    delimiter.split list =
      ([], ⟨list.take n, (delimiter.split (list.drop n)).1⟩ ::
        (delimiter.split (list.drop n)).2) := by
  cases list with
  | nil =>
      have positive := delimiter.positive here
      have within := delimiter.within here
      simp only [List.length_nil] at within
      omega
  | cons first rest =>
      rw [split]
      split
      · rename_i plain
        rw [plain] at here
        cases here
      · rename_i m here'
        obtain rfl := Option.some.inj (here'.symm.trans here)
        rfl

/-- Induction along the splitting of a list. -/
@[elab_as_elim]
theorem split_induction {motive : List α → Prop} (delimiter : Delimiter α) (nil : motive [])
    (plain : ∀ first rest, delimiter.length? (first :: rest) = none → motive rest →
      motive (first :: rest))
    (code : ∀ list n, delimiter.length? list = some n → motive (list.drop n) → motive list)
    (list : List α) : motive list := by
  induction list using split.induct delimiter with
  | case1 => exact nil
  | case2 first rest here ih => exact plain first rest here ih
  | case3 first rest n here ih => exact code (first :: rest) n here ih

/-- Nothing is lost: the lead and the parts make up the list. -/
theorem split_join (delimiter : Delimiter α) (list : List α) :
    (delimiter.split list).1 ++ (delimiter.split list).2.flatMap Part.items = list := by
  induction list using split_induction delimiter with
  | nil => simp
  | plain first rest here ih =>
      rw [split_cons_of_none here]
      simp only [List.cons_append, ih]
  | code list n here ih =>
      rw [split_of_some here]
      simp only [List.nil_append, List.flatMap_cons, Part.items, List.append_assoc]
      rw [ih, List.take_append_drop]

/-- A list without parts has no delimiter at its head, nor in its tail. -/
theorem plain_cons {first : α} {rest : List α} (plain : (delimiter.split (first :: rest)).2 = []) :
    delimiter.length? (first :: rest) = none ∧ (delimiter.split rest).2 = [] := by
  cases here : delimiter.length? (first :: rest) with
  | none =>
      rw [split_cons_of_none here] at plain
      exact ⟨rfl, plain⟩
  | some n =>
      rw [split_of_some here] at plain
      cases plain

theorem settled_of_plain {list : List α} (plain : (delimiter.split list).2 = []) :
    delimiter.settled list = [] := by
  rw [settled, plain]
  rfl

theorem retain_of_plain {list : List α} (plain : (delimiter.split list).2 = []) :
    delimiter.retain list = list.drop (list.length + 1 - delimiter.window) := by
  rw [retain, plain]
  rfl

theorem settled_of_parts {list lead : List α} {init : List (Part α)} {last : Part α}
    (parts : delimiter.split list = (lead, init ++ [last])) : delimiter.settled list = init := by
  rw [settled, parts]
  simp

theorem retain_of_parts {list lead : List α} {init : List (Part α)} {last : Part α}
    (parts : delimiter.split list = (lead, init ++ [last])) :
    delimiter.retain list = last.items := by
  rw [retain, parts]
  simp

/-! ### Lists that go on -/

/-- Behind a list without parts, only what its end may begin counts. -/
theorem split_append_of_plain {list : List α} (plain : (delimiter.split list).2 = [])
    (more : List α) :
    (delimiter.split (list ++ more)).2 =
      (delimiter.split (list.drop (list.length + 1 - delimiter.window) ++ more)).2 := by
  induction list with
  | nil => simp
  | cons first rest ih =>
      obtain ⟨none, later⟩ := plain_cons plain
      by_cases decides : delimiter.window ≤ (first :: rest).length
      · have none' : delimiter.length? (first :: (rest ++ more)) = Option.none :=
          (delimiter.decided more decides).trans none
        have next : (first :: rest).length + 1 - delimiter.window =
            rest.length + 1 - delimiter.window + 1 := by
          simp only [List.length_cons] at decides ⊢
          omega
        rw [List.cons_append, split_cons_of_none none', next, List.drop_succ_cons]
        exact ih later
      · have whole : (first :: rest).length + 1 - delimiter.window = 0 := by omega
        rw [whole, List.drop_zero]

theorem window_le_of_parts {list : List α} (parts : (delimiter.split list).2 ≠ []) :
    delimiter.window ≤ list.length + 1 := by
  induction list using split_induction delimiter with
  | nil => exact absurd (by simp) parts
  | plain first rest here ih =>
      rw [split_cons_of_none here] at parts
      have shorter := ih parts
      simp only [List.length_cons]
      omega
  | code list n here ih =>
      have long := delimiter.long here
      have within := delimiter.within here
      omega

/-- Behind a list with parts all of them but the last stay. -/
theorem split_append_of_parts {list lead : List α} {init : List (Part α)} {last : Part α}
    (parts : delimiter.split list = (lead, init ++ [last])) (more : List α) :
    delimiter.split (list ++ more) =
      (lead, init ++ (delimiter.split (last.items ++ more)).2) := by
  induction list using split_induction delimiter generalizing lead init with
  | nil => simp at parts
  | plain first rest here ih =>
      rw [split_cons_of_none here] at parts
      obtain ⟨rfl, rest'⟩ := Prod.mk.inj parts
      have some : (delimiter.split rest).2 ≠ [] := by simp [rest']
      have here' : delimiter.length? (first :: (rest ++ more)) = none := by
        have enough : delimiter.window ≤ (first :: rest).length := window_le_of_parts some
        exact (delimiter.decided more enough).trans here
      rw [List.cons_append, split_cons_of_none here', ih (Prod.ext rfl rest')]
  | code list n here ih =>
      rw [split_of_some here] at parts
      obtain ⟨rfl, all⟩ := Prod.mk.inj parts
      have within := delimiter.within here
      have here' := delimiter.stable more here
      cases init with
      | nil =>
          -- The delimiter at the head is the last one, and all of the list is its part.
          obtain ⟨rfl, none⟩ := List.cons.inj all
          have body := split_join delimiter (list.drop n)
          rw [none, List.flatMap_nil, List.append_nil] at body
          rw [Part.items, body, List.take_append_drop, split_of_some here', List.nil_append]
      | cons part init =>
          obtain ⟨rfl, others⟩ := List.cons.inj all
          rw [split_of_some here', List.take_append_of_le_length within,
            List.drop_append_of_le_length within, ih (Prod.ext rfl others)]
          rfl

/-- A list has no parts, or a last one. -/
theorem split_cases (delimiter : Delimiter α) (list : List α) :
    (delimiter.split list).2 = [] ∨
      ∃ lead init last, delimiter.split list = (lead, init ++ [last]) := by
  by_cases plain : (delimiter.split list).2 = []
  · exact .inl plain
  · have last := List.dropLast_concat_getLast plain
    exact .inr ⟨(delimiter.split list).1, _, _, Prod.ext rfl last.symm⟩

/-- Where no delimiter begins in a body, it stands before the split of what follows. -/
theorem split_append_of_clean {body rest : List α}
    (clean : ∀ tail, tail ≠ [] → tail <:+ body → delimiter.length? (tail ++ rest) = none) :
    delimiter.split (body ++ rest) =
      (body ++ (delimiter.split rest).1, (delimiter.split rest).2) := by
  induction body with
  | nil => rfl
  | cons first body ih =>
      have here : delimiter.length? (first :: (body ++ rest)) = none :=
        clean (first :: body) (List.cons_ne_nil _ _) (List.suffix_refl _)
      have later := ih fun tail some within =>
        clean tail some (within.trans (List.suffix_cons first body))
      rw [List.cons_append, split_cons_of_none here, later]
      rfl

/-! ### One chunk after the other -/

/-- What is settled stays, and what is retained is all of a list that the rest needs. -/
theorem split_append (delimiter : Delimiter α) (list more : List α) :
    (delimiter.split (list ++ more)).2 =
      delimiter.settled list ++ (delimiter.split (delimiter.retain list ++ more)).2 := by
  rcases split_cases delimiter list with plain | ⟨lead, init, last, parts⟩
  · rw [settled_of_plain plain, retain_of_plain plain, List.nil_append]
    exact split_append_of_plain plain more
  · rw [settled_of_parts parts, retain_of_parts parts, split_append_of_parts parts]

theorem retain_eq_rtake {list : List α} (plain : (delimiter.split list).2 = []) :
    delimiter.retain list = list.rtake (delimiter.window - 1) := by
  rw [retain_of_plain plain, List.rtake]
  by_cases wide : delimiter.window = 0
  · rw [List.drop_eq_nil_of_le (by omega), List.drop_eq_nil_of_le (by omega)]
  · congr 1
    omega

/-- A part is never lost again. -/
theorem plain_of_append {list more : List α} (plain : (delimiter.split (list ++ more)).2 = []) :
    (delimiter.split list).2 = [] := by
  induction list using split_induction delimiter with
  | nil => rw [split_nil]
  | plain first rest here ih =>
      rw [split_cons_of_none here]
      exact ih (plain_cons plain).2
  | code list n here ih =>
      rw [split_of_some (delimiter.stable more here)] at plain
      cases plain

theorem retain_of_last {list later : List α} {init : List (Part α)}
    (parts : (delimiter.split list).2 = init ++ (delimiter.split later).2)
    (some : (delimiter.split later).2 ≠ []) : delimiter.retain list = delimiter.retain later := by
  rw [retain, retain, parts, List.getLast?_append_of_ne_nil _ some,
    List.getLast?_eq_some_getLast some]

/-- What is retained of all of a list is retained of it chunk by chunk. -/
theorem retain_append (delimiter : Delimiter α) (list more : List α) :
    delimiter.retain (delimiter.retain list ++ more) = delimiter.retain (list ++ more) := by
  have parts := delimiter.split_append list more
  by_cases plain : (delimiter.split (delimiter.retain list ++ more)).2 = []
  · have before : (delimiter.split list).2 = [] := by
      rcases split_cases delimiter list with plain' | ⟨lead, init, last, parts'⟩
      · exact plain'
      · -- What is retained begins with a delimiter, and goes on doing so.
        have own := split_append_of_parts parts' []
        rw [List.append_nil, List.append_nil, parts'] at own
        have last' := List.append_cancel_left (Prod.mk.inj own).2
        rw [retain_of_parts parts'] at plain
        rw [plain_of_append plain] at last'
        cases last'
    have after : (delimiter.split (list ++ more)).2 = [] := by
      rw [parts, settled_of_plain before, plain, List.append_nil]
    rw [retain_eq_rtake plain, retain_eq_rtake after, retain_eq_rtake before, rtake_append_rtake]
  · exact (retain_of_last parts plain).symm

/-! ### The last delimiter -/

/-- Where no delimiter of what leads up to the rest of a list reaches into it, the parts of the
    rest are the last ones. -/
theorem exists_split_append {lead rest : List α}
    (apart : ∀ tail n, tail ≠ [] → tail <:+ lead → delimiter.length? (tail ++ rest) = some n →
      n ≤ tail.length) :
    ∃ init, (delimiter.split (lead ++ rest)).2 = init ++ (delimiter.split rest).2 := by
  induction size : lead.length using Nat.strong_induction_on generalizing lead with
  | _ size ih =>
      subst size
      cases lead with
      | nil => exact ⟨[], rfl⟩
      | cons first lead =>
          cases here : delimiter.length? (first :: lead ++ rest) with
          | none =>
              rw [List.cons_append] at here ⊢
              rw [split_cons_of_none here]
              exact ih lead.length (by simp) (fun tail n some within =>
                apart tail n some (within.trans (List.suffix_cons _ _))) rfl
          | some n =>
              have reach := apart _ n (List.cons_ne_nil _ _) (List.suffix_refl _) here
              have positive := delimiter.positive here
              obtain ⟨init, parts⟩ := ih ((first :: lead).drop n).length
                (by simp only [List.length_drop, List.length_cons]; omega)
                (fun tail m some within =>
                  apart tail m some (within.trans (List.drop_suffix _ _))) rfl
              rw [split_of_some here, List.drop_append_of_le_length reach, parts]
              exact ⟨_ :: init, rfl⟩

end Delimiter

end QuadControl.Lib
