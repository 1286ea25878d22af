import Mathlib
import RigidWorlds.Message.Command

namespace RigidWorlds

open Json

namespace Arguments

theorem isDigit_iff {c : Char} : isDigit c = true ↔ ∃ d, d < 10 ∧ c = Nat.digitChar d := by
  constructor
  · intro h
    simp only [isDigit, Bool.and_eq_true, decide_eq_true_eq] at h
    have hlow : 48 ≤ c.toNat := h.1
    have hhigh : c.toNat ≤ 57 := h.2
    refine ⟨c.toNat - 48, by omega, ?_⟩
    apply Char.toNat_inj.mp
    rw [Nat.toNat_digitChar_of_lt_ten (by omega)]
    omega
  · rintro ⟨d, hd, rfl⟩
    have hvalue := Nat.toNat_digitChar_of_lt_ten hd
    have hlow : '0'.toNat ≤ (Nat.digitChar d).toNat := by
      rw [hvalue]
      exact Nat.le_add_right 48 d
    have hhigh : (Nat.digitChar d).toNat ≤ '9'.toNat := by
      rw [hvalue]
      change 48 + d ≤ 57
      omega
    simp only [isDigit, Bool.and_eq_true, decide_eq_true_eq]
    exact ⟨hlow, hhigh⟩

/-- The digits of a number without leading zeros: none at all for zero. -/
def significant (n : Nat) : List Char := if n = 0 then [] else Nat.toDigits 10 n

theorem significant_append {n d : Nat} (hd : d < 10) (hpositive : 10 * n + d ≠ 0) :
    significant (10 * n + d) = significant n ++ [Nat.digitChar d] := by
  rw [significant, if_neg hpositive, significant]
  by_cases hn : n = 0
  · rw [if_pos hn, hn, Nat.mul_zero, Nat.zero_add, Nat.toDigits_of_lt_base hd]
    rfl
  · have hdigits := Nat.toDigits_append_toDigits (b := 10) (by decide) (Nat.pos_of_ne_zero hn) hd
    rw [if_neg hn, ← hdigits, Nat.toDigits_of_lt_base hd]

theorem exists_zeros (digits : List Char) (hdigits : ∀ c ∈ digits, isDigit c = true) :
    ∃ zeros, digits =
      List.replicate zeros '0' ++ significant (Nat.ofDigitChars 10 digits 0) := by
  induction digits using List.reverseRecOn with
  | nil => exact ⟨0, rfl⟩
  | append_singleton init c ih =>
      obtain ⟨zeros, hinit⟩ := ih fun a ha => hdigits a (List.mem_append_left [c] ha)
      obtain ⟨d, hd, rfl⟩ := isDigit_iff.mp (hdigits c (by simp))
      have hvalue : Nat.ofDigitChars 10 (init ++ [Nat.digitChar d]) 0 =
          10 * Nat.ofDigitChars 10 init 0 + d := by
        rw [Nat.ofDigitChars_append, Nat.ofDigitChars_cons_digitChar_of_lt_ten hd,
          Nat.ofDigitChars_nil]
      generalize Nat.ofDigitChars 10 init 0 = n at hinit hvalue
      rw [hvalue]
      by_cases hzero : 10 * n + d = 0
      · -- All digits so far are zeros, and this is one more.
        obtain ⟨rfl, rfl⟩ : n = 0 ∧ d = 0 := by omega
        refine ⟨zeros + 1, ?_⟩
        rw [hinit]
        simp [significant, List.replicate_succ']
      · refine ⟨zeros, ?_⟩
        rw [significant_append hd hzero, ← List.append_assoc, ← hinit]

theorem ofDigitChars_spelled (zeros n : Nat) :
    Nat.ofDigitChars 10 (List.replicate zeros '0' ++ Nat.toDigits 10 n) 0 = n := by
  rw [Nat.ofDigitChars_append, Nat.ofDigitChars_replicate_zero, Nat.mul_zero,
    Nat.ofDigitChars_ten_toDigits]

theorem isDigit_of_mem_spelled {zeros n : Nat} {c : Char}
    (hc : c ∈ List.replicate zeros '0' ++ Nat.toDigits 10 n) : isDigit c = true := by
  rcases List.mem_append.mp hc with hc | hc
  · rw [List.eq_of_mem_replicate hc]
    rfl
  · have hdigit := Nat.isDigit_of_mem_toDigits (b := 10) (by decide) (by decide) hc
    simpa [Char.isDigit, isDigit, Char.le_def] using hdigit

/-- The number that a text of digits and nothing else stands for. -/
def unsigned? (digits : List Char) : Option Nat :=
  if digits.isEmpty || !digits.all isDigit then none else some (Nat.ofDigitChars 10 digits 0)

theorem naturalNumber?_eq (text : List Char) :
    naturalNumber? text =
      unsigned? (match text with
        | '+' :: rest => rest
        | text => text) :=
  rfl

theorem unsigned?_eq_some_iff {digits : List Char} {n : Nat} (hn : 0 < n) :
    unsigned? digits = some n ↔
      ∃ zeros, digits = List.replicate zeros '0' ++ Nat.toDigits 10 n := by
  unfold unsigned?
  constructor
  · intro h
    split at h
    · cases h
    · rename_i hdigits
      simp only [Bool.or_eq_true, Bool.not_eq_true', not_or, Bool.not_eq_false,
        List.all_eq_true] at hdigits
      obtain ⟨zeros, hzeros⟩ := exists_zeros digits hdigits.2
      rw [Option.some.inj h, significant, if_neg (Nat.ne_of_gt hn)] at hzeros
      exact ⟨zeros, hzeros⟩
  · rintro ⟨zeros, rfl⟩
    rw [if_neg, ofDigitChars_spelled]
    simp only [Bool.or_eq_true, Bool.not_eq_true', not_or, Bool.not_eq_false, List.all_eq_true]
    exact ⟨by simp, fun c hc => isDigit_of_mem_spelled hc⟩

/-- What reads as a positive number is its decimal numeral after a plus sign or none and any number
of zeros. -/
theorem naturalNumber?_eq_some_iff {text : List Char} {n : Nat} (hn : 0 < n) :
    naturalNumber? text = some n ↔
      ∃ sign zeros, (sign = [] ∨ sign = ['+']) ∧
        text = sign ++ (List.replicate zeros '0' ++ Nat.toDigits 10 n) := by
  rw [naturalNumber?_eq]
  split
  · rename_i rest
    rw [unsigned?_eq_some_iff hn]
    constructor
    · rintro ⟨zeros, rfl⟩
      exact ⟨['+'], zeros, .inr rfl, rfl⟩
    · rintro ⟨sign, zeros, rfl | rfl, htext⟩
      · have hplus : '+' ∈ List.replicate zeros '0' ++ Nat.toDigits 10 n := by
          rw [← List.nil_append (List.replicate zeros '0' ++ _), ← htext]
          exact List.mem_cons_self
        cases isDigit_of_mem_spelled hplus
      · exact ⟨zeros, (List.cons.inj htext).2⟩
  · rename_i hplus
    rw [unsigned?_eq_some_iff hn]
    constructor
    · rintro ⟨zeros, rfl⟩
      exact ⟨[], zeros, .inl rfl, rfl⟩
    · rintro ⟨sign, zeros, rfl | rfl, htext⟩
      · exact ⟨zeros, htext⟩
      · exact absurd htext (hplus _)

theorem dropStart?_eq_some_iff {start text rest : List Char} :
    dropStart? start text = some rest ↔ text = start ++ rest := by
  induction start generalizing text with
  | nil => simp [dropStart?]
  | cons c start ih =>
      cases text with
      | nil => simp [dropStart?]
      | cons d text =>
          rw [dropStart?]
          by_cases hc : c = d
          · rw [if_pos hc, ih, hc]
            simp
          · rw [if_neg hc]
            simp [Ne.symm hc]

/-- A key spells a number: `param`, a plus sign or none, any number of zeros and the numeral. -/
def Spells (key : String) (n : Nat) : Prop :=
  ∃ sign zeros, (sign = [] ∨ sign = ['+']) ∧
    key.toList = "param".toList ++ (sign ++ (List.replicate zeros '0' ++ Nat.toDigits 10 n))

theorem place?_eq_some_iff {key : String} {i : Nat} :
    place? key = some i ↔ i < maxArguments ∧ Spells key (i + 1) := by
  have hspells : Spells key (i + 1) ↔
      ∃ digits, key.toList = ['p', 'a', 'r', 'a', 'm'] ++ digits ∧
        naturalNumber? digits = some (i + 1) := by
    simp only [naturalNumber?_eq_some_iff (Nat.succ_pos i)]
    constructor
    · rintro ⟨sign, zeros, hsign, hkey⟩
      exact ⟨_, hkey, sign, zeros, hsign, rfl⟩
    · rintro ⟨digits, hkey, sign, zeros, hsign, rfl⟩
      exact ⟨sign, zeros, hsign, hkey⟩
  rw [hspells]
  simp only [place?, Option.bind_eq_bind, Option.bind_eq_some_iff, dropStart?_eq_some_iff]
  constructor
  · rintro ⟨digits, hkey, n, hn, hplace⟩
    split at hplace
    · rename_i hrange
      have hi : n = i + 1 := by
        have := Option.some.inj hplace
        omega
      subst hi
      exact ⟨by omega, digits, hkey, hn⟩
    · cases hplace
  · rintro ⟨hi, digits, hkey, hn⟩
    refine ⟨digits, hkey, i + 1, hn, ?_⟩
    rw [if_pos ⟨by omega, hi⟩]
    rfl

/-- A key under which something is read. -/
def IsRead (key : String) : Prop :=
  key = "command" ∨ ∃ n, 1 ≤ n ∧ n ≤ maxArguments ∧ Spells key n

theorem isRead_iff {key : String} :
    IsRead key ↔ key = "command" ∨ ∃ i, place? key = some i := by
  unfold IsRead
  simp only [place?_eq_some_iff]
  constructor
  · rintro (hkey | ⟨n, hpositive, hn, hspells⟩)
    · exact .inl hkey
    · refine .inr ⟨n - 1, by omega, ?_⟩
      rw [Nat.sub_add_cancel hpositive]
      exact hspells
  · rintro (hkey | ⟨i, hi, hspells⟩)
    · exact .inl hkey
    · exact .inr ⟨i + 1, by omega, hi, hspells⟩

/-- The entries without a key. -/
def without (key : String) (entries : List (String × Value)) : List (String × Value) :=
  entries.filter fun e => e.1 ≠ key

theorem without_insertEntry (key : String) (v : Value) (entries : List (String × Value)) :
    without key (insertEntry key v entries) = without key entries := by
  induction entries with
  | nil => simp [without, insertEntry]
  | cons entry rest ih =>
      obtain ⟨k, u⟩ := entry
      rw [insertEntry]
      split
      · simp [without]
      · split
        · rename_i hk
          simp [without, hk]
        · unfold without at ih ⊢
          rw [List.filter_cons, List.filter_cons, ih]

theorem lookup_filter {key : String} {keep : String → Bool} (hkey : keep key = true)
    (entries : List (String × Value)) :
    (entries.filter fun e => keep e.1).lookup key = entries.lookup key := by
  induction entries with
  | nil => rfl
  | cons entry rest ih =>
      obtain ⟨k, v⟩ := entry
      by_cases hk : key = k
      · subst hk
        have hkeep : keep (key, v).1 = true := hkey
        rw [List.filter_cons, if_pos hkeep, List.lookup_cons_self, List.lookup_cons_self]
      · have hne : (key == k) = false := beq_eq_false_iff_ne.mpr hk
        rw [List.filter_cons]
        split <;> simp only [List.lookup_cons, hne, ih]

theorem store_of_not_isRead {entry : String × Value} (hentry : ¬ IsRead entry.1)
    (values : List (Option Value)) : store values entry = values := by
  have hplace : place? entry.1 = none := by
    cases hplace : place? entry.1 with
    | none => rfl
    | some i => exact absurd (isRead_iff.mpr (.inr ⟨i, hplace⟩)) hentry
  unfold store
  rw [hplace]
  cases entry.2 <;> rfl

theorem foldl_store_filter {keep : String → Bool} (hkeep : ∀ key, IsRead key → keep key = true)
    (entries : List (String × Value)) (values : List (Option Value)) :
    (entries.filter fun e => keep e.1).foldl store values = entries.foldl store values := by
  induction entries generalizing values with
  | nil => rfl
  | cons entry rest ih =>
      rw [List.filter_cons]
      split
      · exact ih _
      · rename_i hentry
        rw [ih, List.foldl_cons, store_of_not_isRead (mt (hkeep entry.1) hentry)]

theorem ofEntries_filter (keep : String → Bool) (hkeep : ∀ key, IsRead key → keep key = true)
    (entries : List (String × Value)) :
    ofEntries (entries.filter fun e => keep e.1) = ofEntries entries := by
  unfold ofEntries
  rw [lookup_filter (hkeep "command" (.inl rfl))]
  split
  · simp only [foldl_store_filter hkeep]
  · rfl

/-- An object means the same with and without the key, whatever stands under it. -/
def Ignored (key : String) : Prop :=
  ∀ entries : List (String × Value), (entries.map (·.1)).Pairwise (· < ·) →
    ofEntries (without key entries) = ofEntries entries ∧
      ∀ v, ofEntries (insertEntry key v entries) = ofEntries entries

theorem ignored_of_not_isRead {key : String} (hkey : ¬ IsRead key) : Ignored key := by
  have hwithout : ∀ entries, ofEntries (without key entries) = ofEntries entries := by
    intro entries
    apply ofEntries_filter (fun k => decide (k ≠ key))
    intro k hk
    rw [decide_eq_true_eq]
    rintro rfl
    exact hkey hk
  intro entries _
  refine ⟨hwithout entries, fun v => ?_⟩
  rw [← hwithout (insertEntry key v entries), without_insertEntry, hwithout]

theorem not_ignored_of_isRead {key : String} (hkey : IsRead key) : ¬ Ignored key := by
  intro hignored
  rcases isRead_iff.mp hkey with rfl | ⟨i, hi⟩
  · obtain ⟨-, hinsert⟩ := hignored [] List.Pairwise.nil
    cases hinsert (.text "")
  · have hne : key ≠ "command" := by
      rintro rfl
      cases hi
    have hlt : i < maxArguments := (place?_eq_some_iff.mp hi).1
    obtain ⟨-, hinsert⟩ := hignored [("command", .text "")] (List.pairwise_singleton ..)
    have hcommand : place? "command" = none := rfl
    have hother : ("command" == key) = false := beq_eq_false_iff_ne.mpr (Ne.symm hne)
    have hset : noValues.set i (some (.boolean true)) = noValues := by
      have hstored := hinsert (.boolean true)
      rw [insertEntry] at hstored
      split at hstored
      · simpa [ofEntries, List.lookup, hother, store, hi, hcommand] using hstored
      · simpa [ofEntries, List.lookup, hne, store, hi, hcommand, insertEntry] using hstored
    have hplace := congrArg (·[i]?) hset
    simp [noValues, hlt] at hplace

theorem ignored_iff {key : String} : Ignored key ↔ ¬ IsRead key :=
  ⟨fun hignored hkey => not_ignored_of_isRead hkey hignored, ignored_of_not_isRead⟩

instance : DecidablePred IsRead := fun key =>
  decidable_of_iff (key = "command" ∨ (place? key).isSome = true) (by
    rw [isRead_iff, Option.isSome_iff_exists])

/-- The keys that messages are meant to have. -/
def documentedKeys : List String :=
  "command" :: (List.range' 1 maxArguments).map fun n => "param" ++ toString n

end Arguments

namespace Command

open Arguments

theorem parse_congr {message message' : String} {entries entries' : List (String × Value)}
    (hentries : parseObject message = .ok entries) (hentries' : parseObject message' = .ok entries')
    (hread : (entries.filter fun e => IsRead e.1) = entries'.filter fun e => IsRead e.1) :
    parse message = parse message' := by
  have hfilter := ofEntries_filter (fun key => decide (IsRead key))
    fun key hkey => decide_eq_true hkey
  rw [parse, parse, hentries, hentries']
  change (ofEntries entries).bind ofArguments = (ofEntries entries').bind ofArguments
  rw [← hfilter entries, ← hfilter entries', hread]

end Command

/-- A key that no message is meant to have is ignored unless it spells the number of an argument
another way, and commands depend on nothing but the keys that are read. -/
theorem ignored_iff_not_spelled (key : String) (hkey : key ∉ Arguments.documentedKeys) :
    (Arguments.Ignored key ↔ ∀ n, 1 ≤ n → n ≤ maxArguments → ¬ Arguments.Spells key n) ∧
    ∀ (message message' : String) (entries entries' : List (String × Value)),
      parseObject message = .ok entries → parseObject message' = .ok entries' →
        ((entries.filter fun e => Arguments.IsRead e.1) =
          entries'.filter fun e => Arguments.IsRead e.1) →
            Command.parse message = Command.parse message' := by
  constructor
  · have hne : key ≠ "command" := by
      rintro rfl
      exact hkey List.mem_cons_self
    rw [Arguments.ignored_iff, Arguments.IsRead]
    constructor
    · intro hunread n hpositive hn hspells
      exact hunread (.inr ⟨n, hpositive, hn, hspells⟩)
    · rintro hspells (hcommand | ⟨n, hpositive, hn, hkey⟩)
      · exact hne hcommand
      · exact hspells n hpositive hn hkey
  · intro message message' entries entries' hentries hentries' hread
    exact Command.parse_congr hentries hentries' hread

/-- What stands under `width` does not matter, not even in a message that is otherwise the same. -/
theorem ignored_sample :
    Arguments.Ignored "width" ∧
      Command.parse "\x7b\"command\":\"clearForces\",\"param1\":0,\"width\":3\x7d" =
        Command.parse "\x7b\"command\":\"clearForces\",\"param1\":0\x7d" := by
  have hundocumented : "width" ∉ Arguments.documentedKeys := by decide
  obtain ⟨hignored, hparse⟩ := ignored_iff_not_spelled "width" hundocumented
  constructor
  · rw [hignored]
    intro n hpositive hn hspells
    have hread : Arguments.IsRead "width" := .inr ⟨n, hpositive, hn, hspells⟩
    exact absurd hread (by decide)
  · have hentries :
        parseObject "\x7b\"command\":\"clearForces\",\"param1\":0,\"width\":3\x7d" = .ok
          [("command", .text "clearForces"), ("param1", .integer 0), ("width", .integer 3)] := by
      cbv
    have hentries' : parseObject "\x7b\"command\":\"clearForces\",\"param1\":0\x7d" =
        .ok [("command", .text "clearForces"), ("param1", .integer 0)] := by
      cbv
    exact hparse _ _ _ _ hentries hentries' rfl

/-- A key with a leading zero is none that messages are meant to have, and yet it is read. -/
theorem padded_key_is_read :
    "param01" ∉ Arguments.documentedKeys ∧
      Command.parse "\x7b\"command\":\"clearForces\",\"param01\":0\x7d" =
        .ok (.clearForces ⟨0⟩) ∧
      Command.parse "\x7b\"command\":\"clearForces\"\x7d" =
        .error (.missingArguments "clearForces") := by
  refine ⟨by decide, ?_, ?_⟩
  · cbv
  · cbv

end RigidWorlds
