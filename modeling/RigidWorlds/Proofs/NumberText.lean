import RigidWorlds.Json.Value
import RigidWorlds.Proofs.Literal
import RigidWorlds.Proofs.Scaling
import RigidWorlds.Proofs.ShortestDecimal

/-!
The texts of numbers.  A number is written as a literal, and the literal stands for an integer
itself, or for a double near the one that is written.
-/

namespace RigidWorlds.Json

open Binary

theorem valueOfDigits_append (start : Nat) (ds es : List Char) :
    valueOfDigits start (ds ++ es) = valueOfDigits (valueOfDigits start ds) es :=
  List.foldl_append

theorem valueOfDigits_lt {ds : List Char} (hds : Digits ds) (start : Nat) :
    valueOfDigits start ds < (start + 1) * 10 ^ ds.length := by
  induction ds generalizing start with
  | nil =>
      rw [List.length_nil, Nat.pow_zero, Nat.mul_one]
      exact Nat.lt_succ_self _
  | cons c ds ih =>
      have hc := digitValue_le hds.head
      rw [valueOfDigits_cons]
      calc valueOfDigits (start * 10 + digitValue c) ds
          < (start * 10 + digitValue c + 1) * 10 ^ ds.length := ih hds.tail _
        _ ≤ (start + 1) * 10 * 10 ^ ds.length := Nat.mul_le_mul_right _ (by omega)
        _ = (start + 1) * 10 ^ (c :: ds).length := by
          rw [List.length_cons, Nat.pow_succ, Nat.mul_assoc, Nat.mul_comm 10]

theorem digits_toDigits (n : Nat) : Digits (Nat.toDigits 10 n) := by
  intro c hc
  have hdigit := Nat.isDigit_of_mem_toDigits (by decide) (by decide) hc
  simp only [Char.isDigit, Bool.and_eq_true, decide_eq_true_eq] at hdigit
  simpa [isDigit, Char.le_def] using hdigit

theorem valueOfDigits_toDigits (n : Nat) : valueOfDigits 0 (Nat.toDigits 10 n) = n := by
  have h := Nat.ofDigitChars_ten_toDigits (n := n)
  unfold Nat.ofDigitChars at h
  show (Nat.toDigits 10 n).foldl (fun m c => m * 10 + (c.toNat - '0'.toNat)) 0 = n
  simpa only [Nat.mul_comm 10] using h

theorem head_toDigits {n : Nat} (hn : 0 < n) : (Nat.toDigits 10 n).head? ≠ some '0' := by
  intro hhead
  obtain ⟨ds, hds⟩ := List.head?_eq_some_iff.mp hhead
  have hvalue := valueOfDigits_toDigits n
  have hlow := Decimal.pow_digitCount_le hn
  have hdigits := digits_toDigits n
  rw [hds] at hvalue hdigits
  rw [Decimal.digitCount, hds] at hlow
  have hlt := valueOfDigits_lt hdigits.tail 0
  rw [valueOfDigits_cons] at hvalue
  change valueOfDigits 0 ds = n at hvalue
  rw [List.length_cons, Nat.add_sub_cancel] at hlow
  omega

theorem digits_zeros (k : Nat) : Digits (List.replicate k '0') := by
  intro c hc
  rw [List.eq_of_mem_replicate hc]
  rfl

theorem valueOfDigits_zeros (start k : Nat) :
    valueOfDigits start (List.replicate k '0') = start * 10 ^ k := by
  induction k generalizing start with
  | zero => exact (Nat.mul_one start).symm
  | succ k ih =>
      rw [List.replicate_succ, valueOfDigits_cons, ih, Nat.pow_succ, Nat.mul_comm (10 ^ k),
        ← Nat.mul_assoc]
      rfl

theorem Digits.append {ds es : List Char} (hds : Digits ds) (hes : Digits es) : Digits (ds ++ es) :=
  List.forall_mem_append.mpr ⟨hds, hes⟩

theorem Digits.take {ds : List Char} (hds : Digits ds) (k : Nat) : Digits (ds.take k) :=
  fun c hc => hds c (List.mem_of_mem_take hc)

theorem Digits.drop {ds : List Char} (hds : Digits ds) (k : Nat) : Digits (ds.drop k) :=
  fun c hc => hds c (List.mem_of_mem_drop hc)

def integerLiteral (n : Int) : Literal := ⟨decide (n < 0), Nat.toDigits 10 n.natAbs, [], none⟩

theorem integerText_eq (n : Int) : integerText n = (integerLiteral n).text := by
  by_cases hn : n < 0 <;>
    simp [integerText, integerLiteral, Literal.text, Literal.unsigned, Literal.fractionText,
      Literal.exponentText, hn]

theorem wellFormed_integerLiteral (n : Int) : (integerLiteral n).WellFormed := by
  refine ⟨digits_toDigits _, Nat.toDigits_ne_nil, ?_, nofun, nofun⟩
  intro hhead
  rcases Nat.eq_zero_or_pos n.natAbs with hzero | hpos
  · show Nat.toDigits 10 n.natAbs = _
    rw [hzero]
    rfl
  · exact absurd hhead (head_toDigits hpos)

theorem number?_integerLiteral {n : Int} (hlow : -2 ^ 63 ≤ n) (hhigh : n < 2 ^ 64) :
    (integerLiteral n).number? = some (.integer n) := by
  have hlimit : significandLimit = 2 ^ 64 - 1 := rfl
  have hvalue := valueOfDigits_toDigits n.natAbs
  have hgather : gather 0 (Nat.toDigits 10 n.natAbs) = (n.natAbs, []) := by
    rw [gather_of_le (by omega), hvalue]
  have hnumber : (integerLiteral n).number? = some (integerOf (decide (n < 0)) n.natAbs) := by
    show written? _ (gather 0 (Nat.toDigits 10 n.natAbs)).1
      (gather 0 (Nat.toDigits 10 n.natAbs)).2.length _ _ = _
    rw [hgather]
    rfl
  rw [hnumber]
  by_cases hn : n < 0
  · have hnot : ¬ (n.natAbs = 0 ∨ 0x8000000000000000 < n.natAbs) := by omega
    simp only [integerOf, hn, decide_true, Bool.not_true, Bool.false_eq_true, if_false, if_neg hnot]
    congr 2
    omega
  · simp only [integerOf, hn, decide_false, Bool.not_false, if_true]
    congr 2
    omega

theorem number?_of_le {l : Literal}
    (hlimit : valueOfDigits 0 (l.whole ++ l.fraction) ≤ significandLimit)
    (hreal : l.fraction ≠ [] ∨ l.exponent ≠ none) :
    l.number? = powered? l.negative (valueOfDigits 0 (l.whole ++ l.fraction))
      (-(l.fraction.length : Int)) l.exponent := by
  rw [valueOfDigits_append] at hlimit ⊢
  have hwhole := gather_of_le (Nat.le_trans (le_valueOfDigits _ l.fraction) hlimit)
  have hfraction := gather_of_le hlimit
  have hnot : ¬ (l.exponent.isNone ∧ l.fraction = [] ∧ ([] : List Char).length = 0) := by
    rw [Option.isNone_iff_eq_none]
    tauto
  have hplaces : placesBehind (([] : List Char).length : Nat) l.fraction [] =
      -(l.fraction.length : Int) := by
    simp [placesBehind]
  unfold Literal.number?
  dsimp only
  rw [hwhole, written?, if_neg hnot]
  dsimp only
  rw [hfraction, hplaces]

/-- A significand and an exponent that stand for a decimal and are small enough to be scaled
without loss of range. -/
structure Scales (s : Nat) (e : Int) (d : Decimal) : Prop where
  pos : 0 < s
  limit : s ≤ significandLimit
  exponent : e.natAbs ≤ 100
  value : (s : ℚ) * 10 ^ e = d.value

/-- A literal for the decimal. -/
structure Writes (l : Literal) (d : Decimal) : Prop where
  wellFormed : l.WellFormed
  number : ∃ s e, Scales s e d ∧ l.number? = scaled? l.negative s e

/-- A decimal of moderate size with at most seventeen digits, or a power of ten. -/
structure Moderate (d : Decimal) : Prop where
  pos : 0 < d.significand
  short : d.significand ≤ 10 ^ 17
  leading : d.leadingExponent.natAbs ≤ 60

theorem Moderate.digitCount_le {d : Decimal} (hd : Moderate d) :
    Decimal.digitCount d.significand ≤ 18 :=
  (Nat.length_toDigits_le_iff (by decide) (by decide)).mpr
    (Nat.lt_of_le_of_lt hd.short (by decide))

theorem Moderate.exponent_le {d : Decimal} (hd : Moderate d) : d.exponent.natAbs ≤ 100 := by
  have hcount := hd.digitCount_le
  have hpos := Decimal.digitCount_pos d.significand
  have hleading := hd.leading
  unfold Decimal.leadingExponent at hleading
  omega

theorem Moderate.scales {d : Decimal} (hd : Moderate d) : Scales d.significand d.exponent d :=
  ⟨hd.pos, Nat.le_trans hd.short (by decide), hd.exponent_le, rfl⟩

theorem writes_of_digits {d : Decimal} (hd : Moderate d) {l : Literal} (hl : l.WellFormed)
    (hdigits : valueOfDigits 0 (l.whole ++ l.fraction) = d.significand)
    (hexponent : ∀ negative s, powered? negative s (-(l.fraction.length : Int)) l.exponent =
      scaled? negative s d.exponent)
    (hreal : l.fraction ≠ [] ∨ l.exponent ≠ none) : Writes l d := by
  refine ⟨hl, d.significand, d.exponent, hd.scales, ?_⟩
  rw [number?_of_le (hdigits ▸ hd.scales.limit) hreal, hexponent, hdigits]

theorem fractionText_of_ne_nil {ds : List Char} (h : ds ≠ []) :
    Literal.fractionText ds = '.' :: ds := by
  obtain ⟨c, es, rfl⟩ := List.exists_cons_of_ne_nil h
  rfl

theorem exists_integral {d : Decimal} (hd : Moderate d) (hexponent : 0 ≤ d.exponent)
    (hplain : d.leadingExponent ≤ 15) (negative : Bool) :
    ∃ l : Literal, Writes l d ∧ l.negative = negative ∧
      l.unsigned = Nat.toDigits 10 d.significand ++ List.replicate d.exponent.toNat '0' ++
        ['.', '0'] := by
  have hvalue : valueOfDigits 0 (Nat.toDigits 10 d.significand ++
      List.replicate d.exponent.toNat '0' ++ ['0']) =
        d.significand * 10 ^ d.exponent.toNat * 10 := by
    rw [valueOfDigits_append, valueOfDigits_append, valueOfDigits_toDigits, valueOfDigits_zeros]
    rfl
  have hdigits : Digits (Nat.toDigits 10 d.significand ++ List.replicate d.exponent.toNat '0') :=
    (digits_toDigits _).append (digits_zeros _)
  have hlimit : d.significand * 10 ^ d.exponent.toNat * 10 ≤ significandLimit := by
    have hlt := valueOfDigits_lt (hdigits.append (digits_zeros 1)) 0
    change valueOfDigits 0 (Nat.toDigits 10 d.significand ++
      List.replicate d.exponent.toNat '0' ++ ['0']) < _ at hlt
    rw [hvalue] at hlt
    simp only [List.length_append, List.length_replicate] at hlt
    have hcount : (Nat.toDigits 10 d.significand).length + d.exponent.toNat + 1 ≤ 17 := by
      unfold Decimal.leadingExponent Decimal.digitCount at hplain
      omega
    have hpower := Nat.pow_le_pow_right (n := 10) (by decide) hcount
    have hbound : 10 ^ 17 ≤ significandLimit := by decide
    omega
  have hvalue' : ((d.significand * 10 ^ d.exponent.toNat * 10 : Nat) : ℚ) * 10 ^ (-1 : Int) =
      d.value := by
    obtain ⟨n, hn⟩ := Int.eq_ofNat_of_zero_le hexponent
    rw [Decimal.value, hn, Int.toNat_natCast, zpow_natCast, zpow_neg_one]
    push_cast
    field_simp
  refine ⟨⟨negative, _, ['0'], none⟩, ⟨⟨hdigits, ?_, ?_, digits_zeros 1, ?_⟩, _, -1,
    ⟨?_, hlimit, by decide, hvalue'⟩, ?_⟩, rfl, ?_⟩
  · exact List.append_ne_nil_of_left_ne_nil Nat.toDigits_ne_nil _
  · intro hhead
    rw [List.head?_append_of_ne_nil _ Nat.toDigits_ne_nil] at hhead
    exact absurd hhead (head_toDigits hd.pos)
  · intro e he
    cases he
  · exact Nat.mul_pos (Nat.mul_pos hd.pos (Nat.pow_pos (by decide))) (by decide)
  · rw [number?_of_le (by exact hvalue ▸ hlimit) (.inl (List.cons_ne_nil _ _))]
    dsimp only
    rw [hvalue]
    rfl
  · simp [Literal.unsigned, Literal.fractionText, Literal.exponentText]

theorem exists_split {d : Decimal} (hd : Moderate d) (hexponent : d.exponent < 0)
    (hplaces : (-d.exponent).toNat < (Nat.toDigits 10 d.significand).length) (negative : Bool) :
    ∃ l : Literal, Writes l d ∧ l.negative = negative ∧
      l.unsigned =
        (Nat.toDigits 10 d.significand).take
          ((Nat.toDigits 10 d.significand).length - (-d.exponent).toNat) ++
        '.' :: (Nat.toDigits 10 d.significand).drop
          ((Nat.toDigits 10 d.significand).length - (-d.exponent).toNat) := by
  obtain ⟨k, hk⟩ : ∃ k, k = (Nat.toDigits 10 d.significand).length - (-d.exponent).toNat :=
    ⟨_, rfl⟩
  have hlength : ((Nat.toDigits 10 d.significand).drop k).length = (-d.exponent).toNat := by
    rw [List.length_drop]
    omega
  have hfraction : (Nat.toDigits 10 d.significand).drop k ≠ [] := by
    rw [← List.length_pos_iff_ne_nil, hlength]
    omega
  have hwhole : (Nat.toDigits 10 d.significand).take k ≠ [] := by
    rw [← List.length_pos_iff_ne_nil, List.length_take]
    omega
  have hdigits := digits_toDigits d.significand
  rw [← hk]
  refine ⟨⟨negative, _, _, none⟩, writes_of_digits hd
    ⟨hdigits.take k, hwhole, ?_, hdigits.drop k, nofun⟩ ?_ ?_ (.inl hfraction), rfl, ?_⟩
  · intro hhead
    rw [List.head?_take, if_neg (by omega)] at hhead
    exact absurd hhead (head_toDigits hd.pos)
  · dsimp only
    rw [List.take_append_drop]
    exact valueOfDigits_toDigits _
  · intro negative s
    dsimp only
    rw [hlength]
    have heq : -(((-d.exponent).toNat : Nat) : Int) = d.exponent := by omega
    rw [heq]
    rfl
  · simp [Literal.unsigned, fractionText_of_ne_nil hfraction, Literal.exponentText]

theorem exists_small {d : Decimal} (hd : Moderate d)
    (hplaces : (Nat.toDigits 10 d.significand).length ≤ (-d.exponent).toNat) (negative : Bool) :
    ∃ l : Literal, Writes l d ∧ l.negative = negative ∧
      l.unsigned =
        '0' :: '.' ::
          List.replicate ((-d.exponent).toNat - (Nat.toDigits 10 d.significand).length) '0' ++
            Nat.toDigits 10 d.significand := by
  obtain ⟨k, hk⟩ : ∃ k, k = (-d.exponent).toNat - (Nat.toDigits 10 d.significand).length :=
    ⟨_, rfl⟩
  have hlength : (List.replicate k '0' ++ Nat.toDigits 10 d.significand).length =
      (-d.exponent).toNat := by
    rw [List.length_append, List.length_replicate]
    omega
  have hfraction : List.replicate k '0' ++ Nat.toDigits 10 d.significand ≠ [] :=
    List.append_ne_nil_of_right_ne_nil _ Nat.toDigits_ne_nil
  have hcount : 0 < (Nat.toDigits 10 d.significand).length := Nat.length_toDigits_pos
  rw [← hk]
  refine ⟨⟨negative, ['0'], _, none⟩, writes_of_digits hd
    ⟨digits_zeros 1, nofun, fun _ => rfl, (digits_zeros k).append (digits_toDigits _), nofun⟩ ?_ ?_
      (.inl hfraction), rfl, ?_⟩
  · dsimp only
    rw [valueOfDigits_append, valueOfDigits_append, valueOfDigits_zeros]
    show valueOfDigits (0 * 10 ^ k) _ = _
    rw [Nat.zero_mul]
    exact valueOfDigits_toDigits _
  · intro negative s
    dsimp only
    rw [hlength]
    have heq : -(((-d.exponent).toNat : Nat) : Int) = d.exponent := by omega
    rw [heq]
    rfl
  · simp [Literal.unsigned, fractionText_of_ne_nil hfraction, Literal.exponentText]

theorem clampExponent_eq {e : Int} (he : e.natAbs ≤ 100) : clampExponent e = e := by
  have hlimit : exponentLimit = 0x7fffffff := rfl
  unfold clampExponent
  omega

/-- The exponent that is written for a number. -/
def exponentOf (e : Int) : Exponent :=
  ⟨'e', [if e < 0 then '-' else '+'], Nat.toDigits 10 e.natAbs⟩

theorem wellFormed_exponentOf (e : Int) : (exponentOf e).WellFormed := by
  refine ⟨.inl rfl, ?_, digits_toDigits _, Nat.toDigits_ne_nil⟩
  unfold exponentOf
  dsimp only
  split
  · exact .inr (.inr rfl)
  · exact .inr (.inl rfl)

theorem powered?_exponentOf (negative : Bool) (s : Nat) {places e : Int} (he : e.natAbs ≤ 60)
    (hsum : (places + e).natAbs ≤ 100) :
    powered? negative s places (some (exponentOf e)) = scaled? negative s (places + e) := by
  have hmagnitude : (exponentOf e).magnitude = e.natAbs := valueOfDigits_toDigits _
  have hlimit : exponentLimit = 0x7fffffff := rfl
  rw [powered?, raised?, hmagnitude, if_neg (by omega)]
  by_cases hneg : e < 0
  · have hsign : (exponentOf e).sign = ['-'] := by simp [exponentOf, hneg]
    have hexponent : places - (e.natAbs : Int) = places + e := by omega
    rw [hsign, decide_eq_true rfl, if_pos rfl, hexponent, clampExponent_eq hsum]
  · have hsign : (exponentOf e).sign = ['+'] := by simp [exponentOf, hneg]
    have hexponent : places + (e.natAbs : Int) = places + e := by omega
    rw [hsign, decide_eq_false (by decide), if_neg Bool.false_ne_true, hexponent,
      clampExponent_eq hsum]

theorem exists_scientific {d : Decimal} (hd : Moderate d) (negative : Bool) :
    ∃ l : Literal, Writes l d ∧ l.negative = negative ∧
      l.unsigned = Decimal.Layout.writeScientific d := by
  have hdigits := digits_toDigits d.significand
  have hcount : 0 < (Nat.toDigits 10 d.significand).length := Nat.length_toDigits_pos
  have hwhole : (Nat.toDigits 10 d.significand).take 1 ≠ [] := by
    rw [← List.length_pos_iff_ne_nil, List.length_take]
    omega
  refine ⟨⟨negative, _, (Nat.toDigits 10 d.significand).drop 1,
      some (exponentOf d.leadingExponent)⟩,
    writes_of_digits hd ⟨hdigits.take 1, hwhole, ?_, hdigits.drop 1, ?_⟩ ?_ ?_ (.inr nofun), rfl,
    ?_⟩
  · intro hhead
    rw [List.head?_take, if_neg (by decide)] at hhead
    exact absurd hhead (head_toDigits hd.pos)
  · intro e he
    rw [← Option.mem_some_iff.mp he]
    exact wellFormed_exponentOf _
  · dsimp only
    rw [List.take_append_drop]
    exact valueOfDigits_toDigits _
  · intro negative s
    have hexponent := hd.exponent_le
    have hsum : -(((Nat.toDigits 10 d.significand).drop 1).length : Int) + d.leadingExponent =
        d.exponent := by
      rw [List.length_drop, Decimal.leadingExponent, Decimal.digitCount]
      omega
    dsimp only
    rw [powered?_exponentOf negative s hd.leading (by rw [hsum]; exact hexponent), hsum]
  · unfold Decimal.Layout.writeScientific Literal.unsigned
    dsimp only
    by_cases hone : (Nat.toDigits 10 d.significand).length = 1
    · have hdrop : (Nat.toDigits 10 d.significand).drop 1 = [] :=
        List.drop_eq_nil_of_le (Nat.le_of_eq hone)
      simp [hone, hdrop, Literal.fractionText, Literal.exponentText, Exponent.text, exponentOf]
    · have hdrop : (Nat.toDigits 10 d.significand).drop 1 ≠ [] := by
        rw [← List.length_pos_iff_ne_nil, List.length_drop]
        omega
      rw [if_neg hone, fractionText_of_ne_nil hdrop]
      simp [Literal.exponentText, Exponent.text, exponentOf]

theorem exists_literal {d : Decimal} (hd : Moderate d) (negative : Bool) :
    ∃ l : Literal, Writes l d ∧ l.negative = negative ∧
      l.unsigned = Decimal.Layout.doubleText.write d := by
  unfold Decimal.Layout.write
  split
  · rename_i hplain
    have hleading : d.leadingExponent ≤ 15 := by
      simp only [Decimal.Layout.doubleText, Bool.and_eq_true, decide_eq_true_eq] at hplain
      exact hplain.2
    unfold Decimal.Layout.writePlain
    dsimp only
    split
    · rename_i hexponent
      exact exists_integral hd hexponent hleading negative
    · rename_i hexponent
      split
      · rename_i hplaces
        exact exists_split hd (Int.not_le.mp hexponent) hplaces negative
      · rename_i hplaces
        exact exists_small hd (Nat.not_lt.mp hplaces) negative
  · exact exists_scientific hd negative

theorem moderate_of_near {d : Decimal} {v : ℚ} (hpos : 0 < d.significand)
    (hshort : d.significand ≤ 10 ^ 17) (hnear : Near (1 / 2 ^ 53) d.value v)
    (hlow : (2 : ℚ) ^ (-149 : Int) ≤ v) (hhigh : v < 2 ^ (128 : Int)) : Moderate d := by
  have hcount := Decimal.digitCount_pos d.significand
  have hvpos : 0 < v := lt_of_lt_of_le (by positivity) hlow
  have hfirst : (10 : ℚ) ^ d.leadingExponent ≤ d.value := by
    have hcast : ((10 ^ (Decimal.digitCount d.significand - 1) : Nat) : ℚ) ≤ d.significand := by
      exact_mod_cast Decimal.pow_digitCount_le hpos
    have hsplit : d.leadingExponent =
        d.exponent + ((Decimal.digitCount d.significand - 1 : Nat) : Int) := by
      unfold Decimal.leadingExponent
      omega
    rw [hsplit, zpow_add₀ (by norm_num), zpow_natCast, mul_comm, Decimal.value]
    push_cast at hcast
    gcongr
  have hnext : d.value < (10 : ℚ) ^ (d.leadingExponent + 1) := by
    have hcast : (d.significand : ℚ) < ((10 ^ Decimal.digitCount d.significand : Nat) : ℚ) := by
      exact_mod_cast Decimal.lt_pow_digitCount d.significand
    have hsplit : d.leadingExponent + 1 =
        d.exponent + ((Decimal.digitCount d.significand : Nat) : Int) := by
      unfold Decimal.leadingExponent
      omega
    rw [hsplit, zpow_add₀ (by norm_num), zpow_natCast, mul_comm, Decimal.value]
    push_cast at hcast
    gcongr
  have hle := hnear.le
  have hge := hnear.ge
  refine ⟨hpos, hshort, ?_⟩
  have hupper : d.leadingExponent < 60 := by
    have hlt : (10 : ℚ) ^ d.leadingExponent < 10 ^ (60 : Int) := by
      have hpower : (2 : ℚ) ^ (128 : Int) * 2 < 10 ^ (60 : Int) := by norm_num
      linarith
    exact (zpow_lt_zpow_iff_right₀ (by norm_num)).mp hlt
  have hlower : -60 < d.leadingExponent + 1 := by
    have hlt : (10 : ℚ) ^ (-60 : Int) < 10 ^ (d.leadingExponent + 1) := by
      have hpower : (10 : ℚ) ^ (-60 : Int) * 2 < 2 ^ (-149 : Int) := by norm_num
      linarith
    exact (zpow_lt_zpow_iff_right₀ (by norm_num)).mp hlt
  omega

theorem exists_literal_zero {x : Float32} (hx : x.isFinite = true) (hzero : singleBits x = 0) :
    ∃ l : Literal, l.WellFormed ∧ l.text = Decimal.doubleText (widen x) ∧
      ∃ z, l.number? = some (.real z) ∧ narrow z = x := by
  have hbits : doubleBits (widen x) = 0 := by
    rw [doubleBits_widen hx, hzero]
    decide
  refine ⟨⟨singleNegative x, ['0'], ['0'], none⟩,
    ⟨digits_zeros 1, nofun, fun _ => rfl, digits_zeros 1, nofun⟩, ?_, _, rfl, ?_⟩
  · simp [Decimal.doubleText, Decimal.Layout.writeBits, hbits, doubleNegative_widen hx,
      Literal.text, Literal.unsigned, Literal.fractionText, Literal.exponentText,
      Decimal.Layout.doubleText]
  · have hplus : (narrow (doubleOfInt 0 / powerOfTen 1)).toBits = 0 := by decide +kernel
    have hminus : (narrow (-(doubleOfInt 0 / powerOfTen 1))).toBits = 0x80000000 := by
      decide +kernel
    have hpattern : x.toBits.toNat % 2 ^ 31 = 0 := hzero
    have hword : x.toBits.toNat < 2 ^ 32 := x.toBits.toNat_lt
    apply Float32.toBits_inj.mp
    cases hnegative : singleNegative x with
    | false =>
        have hsmall : ¬ 2 ^ 31 ≤ x.toBits.toNat := of_decide_eq_false hnegative
        refine hplus.trans (UInt32.toNat_inj.mp ?_)
        show 0 = x.toBits.toNat
        omega
    | true =>
        have hlarge : 2 ^ 31 ≤ x.toBits.toNat := of_decide_eq_true hnegative
        refine hminus.trans (UInt32.toNat_inj.mp ?_)
        show 0x80000000 = x.toBits.toNat
        omega

theorem printing_error_le : 1 / 2 ^ 53 + scalingError + 1 / 2 ^ 53 * scalingError ≤ 1 / 2 ^ 27 := by
  unfold scalingError roundoff
  norm_num

theorem exists_literal_single {x : Float32} (hx : x.isFinite = true) :
    ∃ l : Literal, l.WellFormed ∧ l.text = Decimal.doubleText (widen x) ∧
      ∃ z, l.number? = some (.real z) ∧ narrow z = x := by
  have hfinite : singleBits x < single.infinity := isFinite_single_iff.mp hx
  rcases Nat.eq_zero_or_pos (singleBits x) with hzero | hpos
  · exact exists_literal_zero hx hzero
  · have hs := Format.significand_pos (f := single) hpos
    obtain ⟨hvalue, hnormal⟩ := Format.value_convert_single hfinite hs
    obtain ⟨hlow, hhigh⟩ := Format.value_single_bounds hfinite hs
    obtain ⟨hdpos, hshort, hdnear⟩ := Decimal.shortest_spec .even hnormal
    rw [hvalue] at hdnear
    have hmoderate := moderate_of_near hdpos hshort hdnear hlow hhigh
    obtain ⟨l, hwrites, hnegative, hunsigned⟩ := exists_literal hmoderate (singleNegative x)
    obtain ⟨s, e, hscales, hnumber⟩ := hwrites.number
    obtain ⟨y, u, hscale, hy, hunear⟩ := exists_scale hscales.pos hscales.limit hscales.exponent
      (e.natAbs / powerLimit)
    rw [hscales.value] at hunear
    refine ⟨l, hwrites.wellFormed, ?_, if singleNegative x then -y else y, ?_, ?_⟩
    · have hbits : doubleBits (widen x) ≠ 0 := by
        intro hempty
        rw [doubleBits_widen hx] at hempty
        rw [hempty] at hnormal
        exact absurd hnormal (by decide)
      rw [Literal.text, hnegative, hunsigned, Decimal.doubleText, Decimal.Layout.writeBits,
        if_neg hbits, doubleNegative_widen hx, doubleBits_widen hx]
      rfl
    · rw [hnumber, scaled?, hscale, hnegative]
      rfl
    · have hscaling : 0 ≤ scalingError := by
        unfold scalingError
        linarith [roundoff_pos]
      have hvpos : 0 ≤ single.value (singleBits x) := le_trans (by positivity) hlow
      exact hy.narrow_eq hx ((hdnear.trans hunear hscaling).mono hvpos printing_error_le)

end RigidWorlds.Json
