import Mathlib.Data.List.Dedup
import Mathlib.Data.List.Infix

/-! # One representative for each key

A list is taken together by keys that not every element has: of the elements with one key
a single one is kept, a better one in the place of a worse one, and elements without a key
are kept as they are.
-/

namespace QuadControl.Lib.Representatives

variable {α κ : Type} (key : α → Option κ) (better : α → Bool)

/-- What is kept of the elements seen so far. -/
structure Represents (seen kept : List α) : Prop where
  member : ∀ a ∈ kept, a ∈ seen
  once : (kept.filterMap key).Nodup
  covered : ∀ a ∈ seen, (key a).isSome → ∃ b ∈ kept, key b = key a ∧ (better a → better b)
  keyless : kept.filter (fun a => (key a).isNone) = seen.filter fun a => (key a).isNone

variable [DecidableEq κ]

def isAlike (a b : α) : Bool := (key a).isSome && key a = key b

def add (kept : List α) (a : α) : List α :=
  match kept.findIdx? fun b => isAlike key b a with
  | some index => kept.modify index fun b => if better a && !better b then a else b
  | none => kept ++ [a]

variable {key better} {seen kept : List α} {a b : α}

omit [DecidableEq κ] in
theorem represents_nil : Represents key better [] [] := ⟨nofun, .nil, nofun, rfl⟩

theorem isAlike_iff : isAlike key b a = true ↔ (key a).isSome ∧ key b = key a := by
  simp only [isAlike, Bool.and_eq_true, decide_eq_true_eq]
  constructor
  · rintro ⟨some, same⟩
    exact ⟨same ▸ some, same⟩
  · rintro ⟨some, same⟩
    exact ⟨same ▸ some, same⟩

theorem modify_middle {β : Type} (f : β → β) (before : List β) (x : β) (after : List β) :
    (before ++ x :: after).modify before.length f = before ++ f x :: after := by
  induction before with
  | nil => rfl
  | cons y before ih => simpa using ih

/-- Where an element is alike one that is kept, it may take its place. -/
theorem add_of_alike {before after : List α} (fresh : ∀ c ∈ before, isAlike key c a = false)
    (alike : isAlike key b a = true) :
    add key better (before ++ b :: after) a =
      before ++ (if better a && !better b then a else b) :: after := by
  have none : before.findIdx? (fun c => isAlike key c a) = none :=
    List.findIdx?_eq_none_iff.mpr fresh
  have index : (before ++ b :: after).findIdx? (fun c => isAlike key c a) =
      some before.length := by
    simp [List.findIdx?_append, List.findIdx?_cons, none, alike]
  rw [add, index]
  exact modify_middle _ before b after

theorem add_of_fresh (fresh : ∀ c ∈ kept, isAlike key c a = false) :
    add key better kept a = kept ++ [a] := by
  simp [add, List.findIdx?_eq_none_iff.mpr fresh]

/-- The first that is alike, if there is any. -/
theorem alike_cases (key : α → Option κ) (kept : List α) (a : α) :
    (∀ c ∈ kept, isAlike key c a = false) ∨
      ∃ before b after, kept = before ++ b :: after ∧ isAlike key b a = true ∧
        ∀ c ∈ before, isAlike key c a = false := by
  induction kept with
  | nil => exact .inl nofun
  | cons c kept ih =>
      by_cases alike : isAlike key c a = true
      · exact .inr ⟨[], c, kept, rfl, alike, nofun⟩
      · have apart := Bool.eq_false_iff.mpr alike
        rcases ih with fresh | ⟨before, b, after, rfl, found, fresh⟩
        · exact .inl (List.forall_mem_cons.mpr ⟨apart, fresh⟩)
        · exact .inr ⟨c :: before, b, after, rfl, found, List.forall_mem_cons.mpr ⟨apart, fresh⟩⟩

theorem Represents.fresh (represents : Represents key better seen kept)
    (fresh : ∀ c ∈ kept, isAlike key c a = false) :
    Represents key better (seen ++ [a]) (kept ++ [a]) where
  member c inside := by
    rcases List.mem_append.mp inside with earlier | last
    · exact List.mem_append_left _ (represents.member c earlier)
    · exact List.mem_append_right _ last
  once := by
    rw [List.filterMap_append]
    refine List.nodup_append.mpr ⟨represents.once, ?_, ?_⟩
    · cases known : key a <;> simp [known]
    · rintro k inside other mine rfl
      obtain ⟨c, kept, known⟩ := List.mem_filterMap.mp inside
      have mine : key a = some k := by simpa [List.mem_filterMap] using mine
      have apart := fresh c kept
      rw [← Bool.not_eq_true, isAlike_iff] at apart
      exact apart ⟨by simp [mine], known.trans mine.symm⟩
  covered c inside known := by
    rcases List.mem_append.mp inside with earlier | last
    · obtain ⟨b, kept, same, better⟩ := represents.covered c earlier known
      exact ⟨b, List.mem_append_left _ kept, same, better⟩
    · obtain rfl := List.mem_singleton.mp last
      exact ⟨c, List.mem_append_right _ last, rfl, id⟩
  keyless := by
    rw [List.filter_append, List.filter_append, represents.keyless]

omit [DecidableEq κ] in
/-- The kept one of its key is replaced by one of that key. -/
theorem Represents.replace {before after : List α} {c : α}
    (represents : Represents key better seen (before ++ b :: after))
    (known : (key a).isSome) (alike : key b = key a) (same : key c = key a)
    (either : c = a ∨ c = b) (best : better a ∨ better b → better c) :
    Represents key better (seen ++ [a]) (before ++ c :: after) where
  member d inside := by
    simp only [List.mem_append, List.mem_cons] at inside
    rcases inside with earlier | rfl | later
    · exact List.mem_append_left _ (represents.member d (by simp [earlier]))
    · rcases either with rfl | rfl
      · simp
      · exact List.mem_append_left _ (represents.member d (by simp))
    · exact List.mem_append_left _ (represents.member d (by simp [later]))
  once := by
    have once := represents.once
    simp only [List.filterMap_append, List.filterMap_cons, alike, same] at once ⊢
    exact once
  covered d inside dKnown := by
    have mine : key d = key a → (better d → better a ∨ better b) →
        ∃ e ∈ before ++ c :: after, key e = key d ∧ (better d → better e) := fun sameKey good =>
      ⟨c, by simp, same.trans sameKey.symm, fun h => best (good h)⟩
    rcases List.mem_append.mp inside with earlier | last
    · obtain ⟨e, kept, eSame, good⟩ := represents.covered d earlier dKnown
      simp only [List.mem_append, List.mem_cons] at kept
      rcases kept with first | rfl | later
      · exact ⟨e, by simp [first], eSame, good⟩
      · exact mine (eSame.symm.trans alike) fun h => .inr (good h)
      · exact ⟨e, by simp [later], eSame, good⟩
    · obtain rfl := List.mem_singleton.mp last
      exact mine rfl .inl
  keyless := by
    have isKnown : ∀ {x}, key x = key a → (key x).isNone = false := fun {x} sameKey => by
      rw [sameKey, Option.isNone_eq_false_iff]
      exact known
    rw [List.filter_append seen, ← represents.keyless]
    simp [isKnown alike, isKnown same, isKnown rfl]

theorem Represents.add (represents : Represents key better seen kept) :
    Represents key better (seen ++ [a]) (add key better kept a) := by
  rcases alike_cases key kept a with fresh | ⟨before, b, after, rfl, alike, fresh⟩
  · rw [add_of_fresh fresh]
    exact represents.fresh fresh
  · rw [add_of_alike fresh alike]
    obtain ⟨known, same⟩ := isAlike_iff.mp alike
    split
    · rename_i replaced
      rw [Bool.and_eq_true] at replaced
      exact represents.replace known same rfl (.inl rfl) fun _ => replaced.1
    · rename_i stays
      refine represents.replace known same same (.inr rfl) fun good => ?_
      rcases good with good | good
      · simpa [good] using stays
      · exact good

/-- Of a list without repeated keys, one element has a key that occurs. -/
theorem filter_eq_singleton {k : κ} (once : (kept.filterMap key).Nodup) (inside : a ∈ kept)
    (mine : key a = some k) : kept.filter (fun b => key b = some k) = [a] := by
  induction kept with
  | nil => cases inside
  | cons b kept ih =>
      rcases List.mem_cons.mp inside with rfl | behind
      · have absent : ∀ c ∈ kept, ¬ key c = some k := by
          simp only [List.filterMap_cons, mine, List.nodup_cons, List.mem_filterMap] at once
          exact fun c there same => once.1 ⟨c, there, same⟩
        have none : kept.filter (fun c => key c = some k) = [] := by
          simpa [List.filter_eq_nil_iff] using absent
        simp [mine, none]
      · have rest : (kept.filterMap key).Nodup ∧ key b ≠ some k := by
          rw [List.filterMap_cons] at once
          cases other : key b with
          | none => exact ⟨by simpa [other] using once, by simp⟩
          | some j =>
              simp only [other, List.nodup_cons, List.mem_filterMap] at once
              refine ⟨once.2, fun same => ?_⟩
              cases same
              exact once.1 ⟨a, behind, mine⟩
        simpa [rest.2] using ih rest.1 behind

/-- How many are kept: those without a key, and one for each key. -/
theorem Represents.length_eq (represents : Represents key better seen kept) :
    kept.length =
      (seen.filter fun a => (key a).isNone).length + (seen.filterMap key).dedup.length := by
  have keys : (kept.filterMap key).Perm (seen.filterMap key).dedup := by
    rw [List.perm_ext_iff_of_nodup represents.once (List.nodup_dedup _)]
    intro k
    simp only [List.mem_dedup, List.mem_filterMap]
    constructor
    · rintro ⟨a, inside, known⟩
      exact ⟨a, represents.member a inside, known⟩
    · rintro ⟨a, inside, known⟩
      obtain ⟨b, kept, same, -⟩ := represents.covered a inside (by simp [known])
      exact ⟨b, kept, same.trans known⟩
  have parts : ∀ l : List α,
      l.length = (l.filter fun a => (key a).isNone).length + (l.filterMap key).length := by
    intro l
    induction l with
    | nil => rfl
    | cons a l ih => cases known : key a <;> simp [known, ih] <;> omega
  rw [parts kept, represents.keyless, keys.length_eq]

end QuadControl.Lib.Representatives
