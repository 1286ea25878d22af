import RigidWorlds.Proofs.Grammar
import RigidWorlds.Proofs.NumberText

/-!
Values that are printed and read again.  Integers and text come back as they were; a single, which
is printed as a double, comes back as a double that rounds to it.
-/

namespace RigidWorlds.Json

open Binary

/-- The number, rounded to single precision if it is a double. -/
def Number.rounded : Number → Number
  | integer n => .integer n
  | real x => .real (widen (narrow x))

mutual

/-- The value with all doubles in it rounded to single precision. -/
def Value.rounded : Value → Value
  | .null => .null
  | .boolean b => .boolean b
  | .number n => .number n.rounded
  | .text s => .text s
  | .array items => .array (roundedItems items)
  | .object entries => .object (roundedEntries entries)

def roundedItems : List Value → List Value
  | [] => []
  | v :: rest => v.rounded :: roundedItems rest

def roundedEntries : List (String × Value) → List (String × Value)
  | [] => []
  | (k, v) :: rest => (k, v.rounded) :: roundedEntries rest

end

theorem Value.eq_text_of_rounded {v : Value} {s : String} (h : v.rounded = .text s) :
    v = .text s := by
  cases v with
  | text => rw [← h, rounded]
  | null | boolean | number | array | object =>
      rw [rounded] at h
      cases h

/-- An integer of sixty-four bits or a finite single. -/
def Number.Printable : Number → Prop
  | integer n => -2 ^ 63 ≤ n ∧ n < 2 ^ 64
  | real z => ∃ x : Float32, x.isFinite = true ∧ z = widen x

/-- A value without objects whose numbers are printable.  Lists are at most so deep. -/
def Value.Printable : Nat → Value → Prop
  | _, .null | _, .boolean _ | _, .text _ => True
  | _, .number n => n.Printable
  | depth + 1, .array items => ∀ v ∈ items, Printable depth v
  | _, _ => False

theorem Value.printable_ofSingle (depth : Nat) (x : Float32) : (ofSingle x).Printable depth := by
  unfold ofSingle ofDouble
  split
  · rename_i hfinite
    rw [Printable]
    exact ⟨x, isFinite_of_widen hfinite, rfl⟩
  · rw [Printable]
    trivial

/-- What a printed value is read as: a term, and the value that it means. -/
structure Recalled (depth : Nat) (v : Value) (t : Term) (v' : Value) : Prop where
  rounded : v'.rounded = v
  means : Means depth t v'
  spells : ∀ rest, Spells t (v.render ++ rest) rest

namespace Recalled

variable {depth : Nat}

theorem null : Recalled depth .null .null .null := ⟨rfl, by rw [Means], fun _ => .null⟩

theorem boolean (b : Bool) : Recalled depth (.boolean b) (.boolean b) (.boolean b) := by
  refine ⟨rfl, by rw [Means], fun rest => ?_⟩
  cases b with
  | true => exact .yes
  | false => exact .no

theorem text (s : String) :
    Recalled depth (.text s) (.text (piecesOf s.toList)) (.text s) := by
  refine ⟨rfl, ?_, fun rest => ?_⟩
  · rw [Means]
    exact ⟨s, says_piecesOf _, rfl⟩
  have htext : (Value.text s).render ++ rest =
      '"' :: (piecesText (piecesOf s.toList) ++ '"' :: rest) := by
    rw [Value.render, renderText_eq, List.cons_append, List.append_assoc]
    rfl
  rw [htext]
  exact .text (says_piecesOf _).wellFormed

theorem exists_number {n : Number} (hn : n.Printable) :
    ∃ t v, Recalled depth (.number n) t v := by
  cases n with
  | integer n =>
      refine ⟨.number (integerLiteral n), .number (.integer n), rfl, ?_, fun rest => ?_⟩
      · rw [Means]
        exact ⟨_, number?_integerLiteral hn.1 hn.2, rfl⟩
      · rw [Value.render, Number.render, integerText_eq]
        exact .number (wellFormed_integerLiteral n)
  | real z =>
      obtain ⟨x, hx, rfl⟩ := hn
      obtain ⟨l, hl, htext, z, hz, hnarrow⟩ := exists_literal_single hx
      refine ⟨.number l, .number (.real z), ?_, ?_, fun rest => ?_⟩
      · rw [Value.rounded, Number.rounded, hnarrow]
      · rw [Means]
        exact ⟨_, hz, rfl⟩
      · rw [Value.render, Number.render, ← htext]
        exact .number hl

theorem exists_items {items : List Value} (h : ∀ v ∈ items, ∃ t v', Recalled depth v t v') :
    ∃ ts vs, roundedItems vs = items ∧ List.Forall₂ (Means depth) ts vs ∧
      ∀ rest, SpellsItems false ts (renderItems items ++ rest) rest := by
  induction items with
  | nil => exact ⟨[], [], rfl, .nil, fun rest => .done (blanks_refl _)⟩
  | cons v items ih =>
      obtain ⟨⟨t, v', hv⟩, hrest⟩ := List.forall_mem_cons.mp h
      obtain ⟨ts, vs, hvs, hmeans, hspells⟩ := ih hrest
      refine ⟨t :: ts, v' :: vs, ?_, .cons hv.means hmeans, fun rest => ?_⟩
      · rw [roundedItems, hv.rounded, hvs]
      · rw [renderItems, List.cons_append, List.cons_append, List.append_assoc]
        exact .item ⟨_, blanks_refl _, blanks_refl _⟩ (hv.spells _) (hspells rest)

theorem exists_array {items : List Value} (h : ∀ v ∈ items, ∃ t v', Recalled depth v t v') :
    ∃ t v', Recalled (depth + 1) (.array items) t v' := by
  cases items with
  | nil => exact ⟨.array [], .array [], rfl, ⟨[], .nil, rfl⟩,
      fun rest => .array (.done (blanks_refl _))⟩
  | cons v items =>
      obtain ⟨⟨t, v', hv⟩, hrest⟩ := List.forall_mem_cons.mp h
      obtain ⟨ts, vs, hvs, hmeans, hspells⟩ := exists_items hrest
      refine ⟨.array (t :: ts), .array (v' :: vs), ?_, ⟨_, .cons hv.means hmeans, rfl⟩,
        fun rest => ?_⟩
      · rw [Value.rounded, roundedItems, hv.rounded, hvs]
      · rw [Value.render, List.cons_append, List.cons_append, List.append_assoc]
        exact .array (.item (blanks_refl _) (hv.spells _) (hspells rest))

end Recalled

theorem Value.Printable.exists_recalled {depth : Nat} {v : Value} (hv : v.Printable depth) :
    ∃ t v', Recalled depth v t v' := by
  induction depth generalizing v with
  | zero =>
      cases v with
      | null => exact ⟨_, _, .null⟩
      | boolean b => exact ⟨_, _, .boolean b⟩
      | number n => exact Recalled.exists_number hv
      | text s => exact ⟨_, _, .text s⟩
      | array | object => cases hv
  | succ depth ih =>
      cases v with
      | null => exact ⟨_, _, .null⟩
      | boolean b => exact ⟨_, _, .boolean b⟩
      | number n => exact Recalled.exists_number hv
      | text s => exact ⟨_, _, .text s⟩
      | array items => exact Recalled.exists_array fun v hmem => ih (hv v hmem)
      | object => cases hv

theorem parse_compact (key : String) {v : Value} (hv : v.Printable (depthLimit - 2)) :
    ∃ v', v'.rounded = v ∧ parse (Value.object [(key, v)]).compact = .ok (.object [(key, v')]) := by
  obtain ⟨t, v', hrecalled⟩ := hv.exists_recalled
  refine ⟨v', hrecalled.rounded, parse_eq_ok_iff.mpr ⟨.object [(piecesOf key.toList, t)],
    ⟨_, [], blanks_refl _, ?_, blanks_refl _⟩, ⟨[(key, v')], ?_, rfl⟩⟩⟩
  · have htext : (Value.object [(key, v)]).compact.toList =
        '\x7b' :: '"' :: (piecesText (piecesOf key.toList) ++ '"' :: ':' ::
          (v.render ++ ['\x7d'])) := by
      rw [Value.compact, String.toList_ofList, Value.render, renderText_eq, renderEntries]
      simp
    rw [htext]
    exact .object (.entry (blanks_refl _) (says_piecesOf _).wellFormed (blanks_refl _)
      (blanks_refl _) (hrecalled.spells _) (.done (blanks_refl _)))
  · exact .cons ⟨says_piecesOf _, hrecalled.means⟩ .nil

end RigidWorlds.Json
