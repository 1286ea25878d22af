import RigidWorlds.Proofs.Encoding
import RigidWorlds.Proofs.NumberText
import RigidWorlds.Proofs.Stages

/-!
Several spellings of one argument.  The entries of a message are read in ascending order of their
keys, so of several keys that spell the same number the last one decides.  That is the plain
spelling if it is there: a plus sign comes before all digits, and a zero before all others.
-/

namespace RigidWorlds

open Json

namespace Json

theorem mem_insertEntry {α : Type} {key : String} {value : α} {entries : List (String × α)}
    {e : String × α} (h : e ∈ insertEntry key value entries) : e = (key, value) ∨ e ∈ entries := by
  induction entries with
  | nil => exact .inl (List.mem_singleton.mp h)
  | cons first rest ih =>
      obtain ⟨k, v⟩ := first
      rw [insertEntry] at h
      split at h
      · exact List.mem_cons.mp h
      · split at h
        · exact (List.mem_cons.mp h).imp_right (List.mem_cons_of_mem _)
        · rcases List.mem_cons.mp h with rfl | hrest
          · exact .inr List.mem_cons_self
          · exact (ih hrest).imp_right (List.mem_cons_of_mem _)

theorem ascending_insertEntry {α : Type} (key : String) (value : α) {entries : List (String × α)}
    (h : (entries.map (·.1)).Pairwise (· < ·)) :
    ((insertEntry key value entries).map (·.1)).Pairwise (· < ·) := by
  rw [List.pairwise_map] at h ⊢
  induction entries with
  | nil => exact List.pairwise_singleton _ _
  | cons first rest ih =>
      obtain ⟨k, v⟩ := first
      obtain ⟨hfirst, hrest⟩ := List.pairwise_cons.mp h
      rw [insertEntry]
      split
      · rename_i hlt
        refine List.pairwise_cons.mpr ⟨?_, h⟩
        intro e he
        rcases List.mem_cons.mp he with rfl | he
        · exact hlt
        · exact String.lt_trans hlt (hfirst e he)
      · rename_i hle
        split
        · rename_i heq
          subst heq
          exact List.pairwise_cons.mpr ⟨hfirst, hrest⟩
        · rename_i hne
          refine List.pairwise_cons.mpr ⟨?_, ih hrest⟩
          intro e he
          rcases mem_insertEntry he with rfl | he
          · exact Std.lt_of_le_of_ne (String.not_lt.mp hle) (Ne.symm hne)
          · exact hfirst e he

theorem ascending_of_parseObject {message : String} {entries : List (String × Value)}
    (h : parseObject message = .ok entries) : (entries.map (·.1)).Pairwise (· < ·) := by
  have hinserted : ∀ (es : List (String × Value)) {sorted : List (String × Value)},
      (sorted.map (·.1)).Pairwise (· < ·) →
        ((es.foldl (fun sorted e => insertEntry e.1 e.2 sorted) sorted).map (·.1)).Pairwise
          (· < ·) := by
    intro es
    induction es with
    | nil => exact id
    | cons e es ih => exact fun hsorted => ih (ascending_insertEntry e.1 e.2 hsorted)
  obtain ⟨t, -, hmeans⟩ := parseObject_eq_ok_iff.mp h
  cases t with
  | object members =>
      obtain ⟨es, -, hentries⟩ := hmeans
      rw [Value.object.inj hentries]
      exact hinserted es List.Pairwise.nil
  | number | text | array =>
      obtain ⟨_, -, hother⟩ := hmeans
      cases hother
  | null | boolean => cases hmeans

end Json

namespace Arguments

/-- The key under which messages are meant to have an argument. -/
def canonicalKey (n : Nat) : String := "param" ++ toString n

theorem toList_canonicalKey (n : Nat) :
    (canonicalKey n).toList = "param".toList ++ Nat.toDigits 10 n := by
  have hdigits : (toString n).toList = Nat.toDigits 10 n := by
    rw [Nat.toString_eq_ofList_toDigits, String.toList_ofList]
  rw [canonicalKey, String.toList_append, hdigits]

theorem exists_leading_digit {n : Nat} (hpositive : 0 < n) :
    ∃ d rest, Nat.toDigits 10 n = d :: rest ∧ '0' < d := by
  obtain ⟨d, rest, hdigits⟩ : ∃ d rest, Nat.toDigits 10 n = d :: rest :=
    List.exists_cons_of_ne_nil Nat.toDigits_ne_nil
  have hdigit : isDigit d = true := Digits.head (hdigits ▸ digits_toDigits n)
  have hne : d ≠ '0' := fun heq => head_toDigits hpositive (by rw [hdigits, heq]; rfl)
  simp only [isDigit, Bool.and_eq_true, decide_eq_true_eq] at hdigit
  exact ⟨d, rest, hdigits, Std.lt_of_le_of_ne hdigit.1 hne.symm⟩

theorem spelled_lt {n : Nat} (hpositive : 0 < n) {sign : List Char} {zeros : Nat}
    (hsign : sign = [] ∨ sign = ['+']) (hpadded : sign ≠ [] ∨ zeros ≠ 0) :
    sign ++ (List.replicate zeros '0' ++ Nat.toDigits 10 n) < Nat.toDigits 10 n := by
  obtain ⟨d, rest, hdigits, hd⟩ := exists_leading_digit hpositive
  rcases hsign with rfl | rfl
  · obtain ⟨zeros, rfl⟩ := Nat.exists_eq_succ_of_ne_zero (hpadded.resolve_left (not_not_intro rfl))
    rw [List.nil_append, List.replicate_succ, hdigits, List.cons_append]
    exact List.cons_lt_cons_iff.mpr (.inl hd)
  · rw [hdigits, List.singleton_append]
    exact List.cons_lt_cons_iff.mpr (.inl (Char.lt_trans (by decide) hd))

theorem lt_canonicalKey {key : String} {n : Nat} (hpositive : 0 < n)
    (hspells : Spells key n) (hne : key ≠ canonicalKey n) : key < canonicalKey n := by
  obtain ⟨sign, zeros, hsign, hkey⟩ := hspells
  rw [String.lt_iff, hkey, toList_canonicalKey]
  refine List.append_left_lt (spelled_lt hpositive hsign ?_)
  by_contra hplain
  obtain ⟨rfl, rfl⟩ : sign = [] ∧ zeros = 0 := by simpa using hplain
  exact hne (String.toList_injective (hkey.trans (toList_canonicalKey n).symm))

theorem place?_canonicalKey {n : Nat} (hpositive : 1 ≤ n) (hn : n ≤ maxArguments) :
    place? (canonicalKey n) = some (n - 1) := by
  obtain ⟨i, rfl⟩ := Nat.exists_eq_add_of_le' hpositive
  exact place?_param hn

theorem getElem?_store_of_ne {values : List (Option Value)} {entry : String × Value} {i : Nat}
    (hplace : place? entry.1 ≠ some i) : (store values entry)[i]? = values[i]? := by
  unfold store
  split
  · rfl
  · rename_i j v hj _
    refine List.getElem?_set_ne ?_
    rintro rfl
    exact hplace hj
  · rfl

theorem getElem?_foldl_store_of_ne {entries : List (String × Value)} {i : Nat}
    (hplace : ∀ e ∈ entries, place? e.1 ≠ some i) (values : List (Option Value)) :
    (entries.foldl store values)[i]? = values[i]? := by
  induction entries generalizing values with
  | nil => rfl
  | cons entry rest ih =>
      rw [List.foldl_cons, ih fun e he => hplace e (List.mem_cons_of_mem _ he)]
      exact getElem?_store_of_ne (hplace entry List.mem_cons_self)

theorem getElem?_store_canonicalKey {values : List (Option Value)} {v : Value} {n : Nat}
    (hpositive : 1 ≤ n) (hn : n ≤ maxArguments) (hv : v ≠ .null)
    (hlength : values.length = maxArguments) :
    (store values (canonicalKey n, v))[n - 1]? = some (some v) := by
  obtain ⟨i, rfl⟩ := Nat.exists_eq_add_of_le' hpositive
  rw [canonicalKey, store_param hn hv]
  exact List.getElem?_set_self (hlength ▸ hn)

theorem getElem?_foldl_store {entries : List (String × Value)}
    (hascending : (entries.map (·.1)).Pairwise (· < ·)) {v : Value} {n : Nat} (hpositive : 1 ≤ n)
    (hn : n ≤ maxArguments) (hentry : entries.lookup (canonicalKey n) = some v) (hv : v ≠ .null) :
    (entries.foldl store noValues)[n - 1]? = some (some v) := by
  obtain ⟨before, after, rfl, -⟩ := List.lookup_eq_some_iff.mp hentry
  rw [List.map_append, List.map_cons] at hascending
  have hlater := (List.pairwise_cons.mp (List.pairwise_append.mp hascending).2.1).1
  -- A later key does not spell the number, for it would have come before.
  have hafter : ∀ e ∈ after, place? e.1 ≠ some (n - 1) := by
    intro e he hplace
    have hlt : canonicalKey n < e.1 := hlater e.1 (List.mem_map_of_mem he)
    obtain ⟨-, hspells⟩ := place?_eq_some_iff.mp hplace
    rw [Nat.sub_add_cancel hpositive] at hspells
    by_cases hne : e.1 = canonicalKey n
    · exact String.lt_irrefl _ (hne ▸ hlt)
    · exact String.lt_asymm hlt (lt_canonicalKey hpositive hspells hne)
  have hlength : (before.foldl store noValues).length = maxArguments := by
    rw [length_foldl_store, noValues, List.length_replicate]
  rw [List.foldl_append, List.foldl_cons, getElem?_foldl_store_of_ne hafter]
  exact getElem?_store_canonicalKey hpositive hn hv hlength

end Arguments

open Arguments in
/-- In an object with ascending keys, what stands under the plain key of an argument and is not null
is the argument, whatever the other keys are.  An entry is stored at the place that its key spells
and at no other one, and all such places are below ten. -/
theorem canonical_key_decides {entries : List (String × Value)}
    (hascending : (entries.map (·.1)).Pairwise (· < ·)) {a : Arguments}
    (ha : ofEntries entries = .ok a) :
    (∀ n v, 1 ≤ n → n ≤ maxArguments → entries.lookup (canonicalKey n) = some v → v ≠ .null →
      a.values[n - 1]? = some (some v)) ∧
    (∀ (e : String × Value) (values : List (Option Value)) (i : Nat), place? e.1 ≠ some i →
      (store values e)[i]? = values[i]?) ∧
    (∀ key i, place? key = some i → i < maxArguments) ∧
    ∀ n, 1 ≤ n → n ≤ maxArguments → place? (canonicalKey n) = some (n - 1) := by
  refine ⟨?_, fun _ _ _ => getElem?_store_of_ne, fun _ _ h => (place?_eq_some_iff.mp h).1,
    fun _ => place?_canonicalKey⟩
  intro n v hpositive hn hentry hv
  rw [(ofEntries_eq_ok_iff.mp ha).2]
  exact getElem?_foldl_store hascending hpositive hn hentry hv

/-- The third argument under three of its spellings. -/
def Arguments.spellings : String :=
  "\x7b\"command\":\"clearForces\",\"param3\":1,\"param003\":true,\"param+3\":[]\x7d"

/-- Neither the zeros nor the plus sign, which are written later, override the plain key. -/
theorem canonical_key_of_three :
    ∃ entries a, parseObject Arguments.spellings = .ok entries ∧
      Arguments.ofEntries entries = .ok a ∧ a.values[2]? = some (some (.integer 1)) := by
  have hentries : parseObject Arguments.spellings = .ok
      [("command", .text "clearForces"), ("param+3", .array []), ("param003", .boolean true),
        ("param3", .integer 1)] := by
    cbv
  refine ⟨_, _, hentries, rfl, ?_⟩
  exact (canonical_key_decides (ascending_of_parseObject hentries) rfl).1 3 _ (by decide)
    (by decide) rfl (by intro h; cases h)

end RigidWorlds
