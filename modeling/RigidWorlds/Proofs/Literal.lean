import RigidWorlds.Json.Numeral
import RigidWorlds.Proofs.Result

/-!
Literals of numbers: a sign, digits, digits behind a point and an exponent.  A literal stands for
a number unless that number is too large, and the reader of numbers accepts just the literals that
stand for one.
-/

namespace RigidWorlds.Json

open Binary

def Digits (ds : List Char) : Prop := ∀ c ∈ ds, isDigit c = true

/-- The text does not go on with a digit. -/
def NoDigit (rest : List Char) : Prop := ∀ c ∈ rest.head?, isDigit c = false

theorem exists_span (cs : List Char) :
    ∃ ds rest, cs = ds ++ rest ∧ Digits ds ∧ NoDigit rest := by
  refine ⟨cs.takeWhile isDigit, cs.dropWhile isDigit, List.takeWhile_append_dropWhile.symm, ?_, ?_⟩
  · intro c hc
    exact List.all_eq_true.mp List.all_takeWhile c hc
  · intro c hc
    have hnot := List.head?_dropWhile_not isDigit cs
    rw [Option.mem_def.mp hc] at hnot
    exact hnot

theorem Digits.cons {c : Char} {ds : List Char} (hc : isDigit c = true) (hds : Digits ds) :
    Digits (c :: ds) :=
  List.forall_mem_cons.mpr ⟨hc, hds⟩

theorem Digits.head {c : Char} {ds : List Char} (h : Digits (c :: ds)) : isDigit c = true :=
  h c List.mem_cons_self

theorem Digits.tail {c : Char} {ds : List Char} (h : Digits (c :: ds)) : Digits ds :=
  fun d hd => h d (List.mem_cons_of_mem c hd)

theorem dropWhile_append_of_noDigit {ds rest : List Char} (hds : Digits ds) (hrest : NoDigit rest) :
    (ds ++ rest).dropWhile isDigit = rest := by
  rw [List.dropWhile_append_of_pos hds]
  cases rest with
  | nil => rfl
  | cons c rest => rw [List.dropWhile_cons_of_neg (by simp [hrest c rfl])]

theorem digitValue_le {c : Char} (h : isDigit c = true) : digitValue c ≤ 9 := by
  simp only [isDigit, Bool.and_eq_true, decide_eq_true_eq] at h
  have hhigh : c.toNat ≤ 57 := h.2
  unfold digitValue
  omega

/-- The number that digits stand for, continuing with one read before. -/
def valueOfDigits (start : Nat) (ds : List Char) : Nat :=
  ds.foldl (fun n c => n * 10 + digitValue c) start

theorem valueOfDigits_cons (start : Nat) (c : Char) (ds : List Char) :
    valueOfDigits start (c :: ds) = valueOfDigits (start * 10 + digitValue c) ds := by
  simp only [valueOfDigits, List.foldl_cons]

theorem le_valueOfDigits (start : Nat) (ds : List Char) : start ≤ valueOfDigits start ds := by
  induction ds generalizing start with
  | nil => exact Nat.le_refl _
  | cons c ds ih =>
      have hstep : start ≤ start * 10 + digitValue c := by omega
      exact Nat.le_trans hstep (ih _)

/-- Takes digits into a significand as long as there is room.  Answers with the digits that are left
out. -/
def gather : Nat → List Char → Nat × List Char
  | significand, [] => (significand, [])
  | significand, c :: ds =>
      if significandLimit < significand * 10 + digitValue c then (significand, c :: ds)
      else gather (significand * 10 + digitValue c) ds

theorem gather_suffix (significand : Nat) (ds : List Char) :
    ∃ taken, ds = taken ++ (gather significand ds).2 := by
  induction ds generalizing significand with
  | nil => exact ⟨[], rfl⟩
  | cons c ds ih =>
      unfold gather
      split
      · exact ⟨[], rfl⟩
      · obtain ⟨taken, htaken⟩ := ih (significand * 10 + digitValue c)
        refine ⟨c :: taken, ?_⟩
        rw [List.cons_append, ← htaken]

theorem length_gather_le (significand : Nat) (ds : List Char) :
    (gather significand ds).2.length ≤ ds.length := by
  obtain ⟨taken, htaken⟩ := gather_suffix significand ds
  rw [congrArg List.length htaken, List.length_append]
  omega

theorem gather_of_le {significand : Nat} {ds : List Char}
    (h : valueOfDigits significand ds ≤ significandLimit) :
    gather significand ds = (valueOfDigits significand ds, []) := by
  induction ds generalizing significand with
  | nil => rfl
  | cons c ds ih =>
      have hroom := Nat.le_trans (le_valueOfDigits (significand * 10 + digitValue c) ds) h
      rw [gather, if_neg (Nat.not_lt.mpr hroom)]
      exact ih h

structure Exponent where
  letter : Char
  /-- A sign or nothing. -/
  sign : List Char
  digits : List Char

namespace Exponent

def text (e : Exponent) : List Char := e.letter :: e.sign ++ e.digits

structure WellFormed (e : Exponent) : Prop where
  letter : e.letter = 'e' ∨ e.letter = 'E'
  sign : e.sign = [] ∨ e.sign = ['+'] ∨ e.sign = ['-']
  digits : Digits e.digits
  nonempty : e.digits ≠ []

def magnitude (e : Exponent) : Nat := valueOfDigits 0 e.digits

end Exponent

structure Literal where
  negative : Bool
  whole : List Char
  /-- The digits behind the point; without any there is no point. -/
  fraction : List Char
  exponent : Option Exponent

namespace Literal

def fractionText : List Char → List Char
  | [] => []
  | c :: ds => '.' :: c :: ds

def exponentText : Option Exponent → List Char
  | none => []
  | some e => e.text

/-- A literal without its sign. -/
def unsigned (l : Literal) : List Char :=
  l.whole ++ fractionText l.fraction ++ exponentText l.exponent

def text (l : Literal) : List Char := (if l.negative then ['-'] else []) ++ l.unsigned

structure WellFormed (l : Literal) : Prop where
  whole : Digits l.whole
  nonempty : l.whole ≠ []
  /-- No digit follows a leading zero. -/
  leading : l.whole.head? = some '0' → l.whole = ['0']
  fraction : Digits l.fraction
  exponent : ∀ e ∈ l.exponent, e.WellFormed

end Literal

/-- The double that a significand and an exponent stand for, if it is finite. -/
def scaled? (negative : Bool) (significand : Nat) (exponent : Int) : Option Number :=
  (scale (doubleOfInt significand) exponent (exponent.natAbs / powerLimit + 1)).map fun x =>
    .real (if negative then -x else x)

/-- The same with a written exponent.  One that is too long to count makes a number zero or too
large. -/
def raised? (negative : Bool) (significand : Nat) (places : Int) (down : Bool) (magnitude : Nat) :
    Option Number :=
  if exponentLimit < magnitude then
    if significand == 0 || down then some (.real (if negative then -0.0 else 0.0)) else none
  else
    scaled? negative significand
      (clampExponent (if down then places - magnitude else places + magnitude))

def powered? (negative : Bool) (significand : Nat) (places : Int) :
    Option Exponent → Option Number
  | none => scaled? negative significand places
  | some e => raised? negative significand places (e.sign = ['-']) e.magnitude

/-- The places of a number whose significand has taken digits behind the point. -/
def placesBehind (start : Int) (ds ignored : List Char) : Int :=
  start - (ds.length - ignored.length : Nat)

/-- The number that is written as a significand, further places, a fraction and an exponent. -/
def written? (negative : Bool) (significand places : Nat) (fraction : List Char)
    (exponent : Option Exponent) : Option Number :=
  if exponent.isNone ∧ fraction = [] ∧ places = 0 then some (integerOf negative significand)
  else
    let all := gather significand fraction
    powered? negative all.1 (placesBehind places fraction all.2) exponent

/-- The number that a literal stands for, unless it is too large. -/
def Literal.number? (l : Literal) : Option Number :=
  let whole := gather 0 l.whole
  written? l.negative whole.1 whole.2.length l.fraction l.exponent

theorem toOption_realOf (negative : Bool) (significand : Nat) (exponent : Int)
    (rest : List Char) :
    (realOf negative significand exponent rest).toOption =
      (scaled? negative significand exponent).map (·, rest) := by
  unfold realOf scaled?
  split
  · rename_i hnone
    rw [hnone]
    rfl
  · rename_i x hsome
    rw [hsome]
    rfl

theorem toOption_readHugeExponent {ds rest : List Char} (hds : Digits ds) (hrest : NoDigit rest)
    (negative zero down : Bool) :
    (readHugeExponent negative zero down (ds ++ rest)).toOption =
      (if zero || down then some (Number.real (if negative then -0.0 else 0.0)) else none).map
        (·, rest) := by
  unfold readHugeExponent
  rw [dropWhile_append_of_noDigit hds hrest]
  cases zero <;> cases down <;> rfl

theorem toOption_readExponentDigits {ds rest : List Char} (hds : Digits ds) (hrest : NoDigit rest)
    (negative : Bool) (significand : Nat) (places : Int) (down : Bool) {magnitude : Nat}
    (hmagnitude : magnitude ≤ exponentLimit) :
    (readExponentDigits negative significand places down magnitude (ds ++ rest)).toOption =
      (raised? negative significand places down (valueOfDigits magnitude ds)).map (·, rest) := by
  induction ds generalizing magnitude with
  | nil =>
      have hend : readExponentDigits negative significand places down magnitude rest =
          realOf negative significand
            (clampExponent (if down then places - magnitude else places + magnitude)) rest := by
        cases rest with
        | nil => rfl
        | cons c rest => rw [readExponentDigits, if_neg (by simp [hrest c rfl])]
      show (readExponentDigits negative significand places down magnitude rest).toOption =
        (raised? negative significand places down magnitude).map (·, rest)
      rw [hend, toOption_realOf, raised?, if_neg (Nat.not_lt.mpr hmagnitude)]
  | cons c ds ih =>
      show (readExponentDigits negative significand places down magnitude
        (c :: (ds ++ rest))).toOption = _
      rw [readExponentDigits, if_pos hds.head]
      split
      · rename_i hlong
        have hvalue := le_valueOfDigits (magnitude * 10 + digitValue c) ds
        rw [toOption_readHugeExponent hds.tail hrest, valueOfDigits_cons, raised?,
          if_pos (Nat.lt_of_lt_of_le hlong hvalue)]
      · rename_i hshort
        exact ih hds.tail (Nat.not_lt.mp hshort)

/-- A sign in front of the digits of an exponent, or nothing. -/
def IsSign (sign : List Char) : Prop := sign = [] ∨ sign = ['+'] ∨ sign = ['-']

theorem exists_sign (cs : List Char) :
    ∃ sign rest, cs = sign ++ rest ∧ IsSign sign ∧
      (sign = [] → ∀ c ∈ rest.head?, c ≠ '+' ∧ c ≠ '-') := by
  by_cases hplus : cs.head? = some '+'
  · obtain ⟨rest, rfl⟩ := List.head?_eq_some_iff.mp hplus
    exact ⟨['+'], rest, rfl, .inr (.inl rfl), nofun⟩
  by_cases hminus : cs.head? = some '-'
  · obtain ⟨rest, rfl⟩ := List.head?_eq_some_iff.mp hminus
    exact ⟨['-'], rest, rfl, .inr (.inr rfl), nofun⟩
  refine ⟨[], cs, rfl, .inl rfl, ?_⟩
  intro _ c hc
  rw [Option.mem_def.mp hc] at hplus hminus
  exact ⟨fun h => hplus (congrArg some h), fun h => hminus (congrArg some h)⟩

/-- An exponent behind its sign. -/
def readMagnitude (negative : Bool) (significand : Nat) (places : Int) (down : Bool) :
    List Char → Except Fault (Parsed Number)
  | [] => .error (.here .endInValue [])
  | c :: rest =>
      if isDigit c then
        readExponentDigits negative significand places down (digitValue c) rest
      else .error (.next .invalidNumber (c :: rest))

theorem readExponent_append {sign rest : List Char} (hsign : IsSign sign)
    (hrest : sign = [] → ∀ c ∈ rest.head?, c ≠ '+' ∧ c ≠ '-') (negative : Bool)
    (significand : Nat) (places : Int) :
    readExponent negative significand places (sign ++ rest) =
      readMagnitude negative significand places (sign = ['-']) rest := by
  rcases hsign with rfl | rfl | rfl
  · cases rest with
    | nil => rfl
    | cons c rest =>
        obtain ⟨hplus, hminus⟩ := hrest rfl c rfl
        unfold readExponent
        split
        rename_i down digits heq
        split at heq
        · rename_i h
          exact absurd (List.cons.inj h).1 hplus
        · rename_i h
          exact absurd (List.cons.inj h).1 hminus
        · obtain ⟨rfl, rfl⟩ := Prod.mk.inj heq
          rfl
  · rfl
  · rfl

theorem toOption_readMagnitude {ds rest : List Char} (hds : Digits ds) (hne : ds ≠ [])
    (hrest : NoDigit rest) (negative : Bool) (significand : Nat) (places : Int) (down : Bool) :
    (readMagnitude negative significand places down (ds ++ rest)).toOption =
      (raised? negative significand places down (valueOfDigits 0 ds)).map (·, rest) := by
  cases ds with
  | nil => exact absurd rfl hne
  | cons c ds =>
      have hsmall : digitValue c ≤ exponentLimit := by
        have hdigit := digitValue_le hds.head
        unfold exponentLimit
        omega
      rw [List.cons_append, readMagnitude, if_pos hds.head,
        toOption_readExponentDigits hds.tail hrest _ _ _ _ hsmall, valueOfDigits_cons, Nat.zero_mul,
        Nat.zero_add]

theorem readMagnitude_of_noDigit {rest : List Char} (hrest : NoDigit rest) (negative : Bool)
    (significand : Nat) (places : Int) (down : Bool) :
    (readMagnitude negative significand places down rest).toOption = none := by
  cases rest with
  | nil => rfl
  | cons c rest =>
      rw [readMagnitude, if_neg (by simp [hrest c rfl])]
      rfl

theorem readMagnitude_eq_ok_iff {negative : Bool} {significand : Nat} {places : Int} {down : Bool}
    {cs rest : List Char} {n : Number} :
    readMagnitude negative significand places down cs = .ok (n, rest) ↔
      ∃ ds, cs = ds ++ rest ∧ Digits ds ∧ ds ≠ [] ∧ NoDigit rest ∧
        raised? negative significand places down (valueOfDigits 0 ds) = some n := by
  rw [← toOption_eq_some_iff]
  constructor
  · intro h
    obtain ⟨ds, behind, rfl, hds, hbehind⟩ := exists_span cs
    by_cases hne : ds = []
    · rw [hne, List.nil_append, readMagnitude_of_noDigit hbehind] at h
      cases h
    · rw [toOption_readMagnitude hds hne hbehind, Option.map_eq_some_iff] at h
      obtain ⟨found, hfound, heq⟩ := h
      obtain ⟨rfl, rfl⟩ := Prod.mk.inj heq
      exact ⟨ds, rfl, hds, hne, hbehind, hfound⟩
  · rintro ⟨ds, rfl, hds, hne, hrest, hn⟩
    rw [toOption_readMagnitude hds hne hrest, hn, Option.map_some]

theorem readExponent_eq_ok_iff {negative : Bool} {significand : Nat} {places : Int}
    {letter : Char} (hletter : letter = 'e' ∨ letter = 'E') {cs rest : List Char} {n : Number} :
    readExponent negative significand places cs = .ok (n, rest) ↔
      ∃ e : Exponent, e.WellFormed ∧ letter :: cs = e.text ++ rest ∧ NoDigit rest ∧
        powered? negative significand places (some e) = some n := by
  constructor
  · intro h
    obtain ⟨sign, behind, rfl, hsign, hbehind⟩ := exists_sign cs
    rw [readExponent_append hsign hbehind, readMagnitude_eq_ok_iff] at h
    obtain ⟨ds, rfl, hds, hne, hrest, hn⟩ := h
    refine ⟨⟨letter, sign, ds⟩, ⟨hletter, hsign, hds, hne⟩, ?_, hrest, hn⟩
    simp [Exponent.text]
  · rintro ⟨e, he, heq, hrest, hn⟩
    have hcs : cs = e.sign ++ (e.digits ++ rest) := by
      rw [(List.cons.inj heq).2, ← List.append_assoc]
      rfl
    have hdigits : e.sign = [] → ∀ c ∈ (e.digits ++ rest).head?, c ≠ '+' ∧ c ≠ '-' := by
      intro _ c hc
      obtain ⟨d, ds, hds⟩ := List.exists_cons_of_ne_nil he.nonempty
      rw [hds, List.cons_append, List.head?_cons, Option.mem_some_iff] at hc
      have hdigit := he.digits
      rw [hds, hc] at hdigit
      constructor <;> rintro rfl <;> exact absurd hdigit.head (by decide)
    rw [hcs, readExponent_append he.sign hdigits, readMagnitude_eq_ok_iff]
    exact ⟨e.digits, rfl, he.digits, he.nonempty, hrest, hn⟩

theorem realOf_eq_ok_iff {negative : Bool} {significand : Nat} {places : Int}
    {cs rest : List Char} {n : Number} :
    realOf negative significand places cs = .ok (n, rest) ↔
      cs = rest ∧ powered? negative significand places none = some n := by
  rw [← toOption_eq_some_iff, toOption_realOf, Option.map_eq_some_iff, powered?]
  constructor
  · rintro ⟨found, hfound, heq⟩
    obtain ⟨rfl, rfl⟩ := Prod.mk.inj heq
    exact ⟨rfl, hfound⟩
  · rintro ⟨rfl, hn⟩
    exact ⟨n, hn, rfl⟩

theorem readAfterFraction_letter {letter : Char} (hletter : letter = 'e' ∨ letter = 'E')
    (negative : Bool) (significand : Nat) (places : Int) (cs : List Char) :
    readAfterFraction negative significand places (letter :: cs) =
      readExponent negative significand places cs := by
  rcases hletter with rfl | rfl <;> rfl

theorem readAfterFraction_other {rest : List Char} (hrest : ∀ c ∈ rest.head?, c ≠ 'e' ∧ c ≠ 'E')
    (negative : Bool) (significand : Nat) (places : Int) :
    readAfterFraction negative significand places rest =
      realOf negative significand places rest := by
  unfold readAfterFraction
  split
  · exact absurd rfl (hrest _ rfl).1
  · exact absurd rfl (hrest _ rfl).2
  · rfl

theorem exists_letter (cs : List Char) :
    (∃ letter rest, (letter = 'e' ∨ letter = 'E') ∧ cs = letter :: rest) ∨
      ∀ c ∈ cs.head?, c ≠ 'e' ∧ c ≠ 'E' := by
  cases cs with
  | nil => exact .inr nofun
  | cons c rest =>
      by_cases hc : c = 'e' ∨ c = 'E'
      · exact .inl ⟨c, rest, hc, rfl⟩
      · refine .inr ?_
        intro d hd
        obtain rfl := Option.mem_some_iff.mp hd
        exact not_or.mp hc

/-- What must not follow an exponent, or the digits that could have one. -/
def Stops (rest : List Char) : Option Exponent → Prop
  | none => ∀ c ∈ rest.head?, c ≠ 'e' ∧ c ≠ 'E'
  | some _ => NoDigit rest

theorem readAfterFraction_eq_ok_iff {negative : Bool} {significand : Nat} {places : Int}
    {cs rest : List Char} {n : Number} :
    readAfterFraction negative significand places cs = .ok (n, rest) ↔
      ∃ e : Option Exponent, (∀ f ∈ e, f.WellFormed) ∧ cs = Literal.exponentText e ++ rest ∧
        Stops rest e ∧ powered? negative significand places e = some n := by
  constructor
  · intro h
    rcases exists_letter cs with ⟨letter, behind, hletter, rfl⟩ | hother
    · rw [readAfterFraction_letter hletter, readExponent_eq_ok_iff hletter] at h
      obtain ⟨e, he, heq, hrest, hn⟩ := h
      refine ⟨some e, ?_, heq, hrest, hn⟩
      intro f hf
      rw [← Option.mem_some_iff.mp hf]
      exact he
    · rw [readAfterFraction_other hother, realOf_eq_ok_iff] at h
      obtain ⟨rfl, hn⟩ := h
      exact ⟨none, nofun, rfl, hother, hn⟩
  · rintro ⟨e, he, rfl, hrest, hn⟩
    cases e with
    | none =>
        show readAfterFraction negative significand places rest = _
        rw [readAfterFraction_other hrest, realOf_eq_ok_iff]
        exact ⟨rfl, hn⟩
    | some e =>
        have hwell := he e rfl
        show readAfterFraction negative significand places
          (e.letter :: (e.sign ++ e.digits ++ rest)) = _
        rw [readAfterFraction_letter hwell.letter, readExponent_eq_ok_iff hwell.letter]
        exact ⟨e, hwell, rfl, hrest, hn⟩

theorem readFraction_append {ds rest : List Char} (hds : Digits ds) (hrest : NoDigit rest)
    (negative : Bool) (start : Int) (significand taken : Nat) (hne : taken ≠ 0 ∨ ds ≠ []) :
    readFraction negative start significand taken (ds ++ rest) =
      readAfterFraction negative (gather significand ds).1
        (placesBehind (start - taken) ds (gather significand ds).2) rest := by
  induction ds generalizing significand taken with
  | nil =>
      have htaken : taken ≠ 0 := hne.resolve_right (absurd rfl)
      show readFraction negative start significand taken rest =
        readAfterFraction negative significand (start - taken - (0 : Nat)) rest
      rw [Int.natCast_zero, Int.sub_zero]
      cases rest with
      | nil => rw [readFraction, if_neg htaken]
      | cons c rest => rw [readFraction, if_neg (by simp [hrest c rfl]), if_neg htaken]
  | cons c ds ih =>
      rw [List.cons_append, readFraction, if_pos hds.head, gather]
      split
      · have hdrop := dropWhile_append_of_noDigit hds hrest
        rw [List.cons_append] at hdrop
        rw [hdrop, placesBehind, Nat.sub_self, Int.natCast_zero, Int.sub_zero]
      · rw [ih hds.tail _ _ (.inl (Nat.succ_ne_zero taken))]
        congr 1
        have hle := length_gather_le (significand * 10 + digitValue c) ds
        simp only [placesBehind, List.length_cons]
        omega

theorem noDigit_exponentText {e : Option Exponent} (he : ∀ f ∈ e, f.WellFormed)
    {rest : List Char} (hrest : e = none → NoDigit rest) :
    NoDigit (Literal.exponentText e ++ rest) := by
  cases e with
  | none => exact hrest rfl
  | some e =>
      intro c hc
      obtain rfl := Option.mem_some_iff.mp hc
      rcases (he e rfl).letter with h | h <;> rw [h] <;> decide

/-- What must not follow a number that is read to its end. -/
structure Follows (rest fraction : List Char) (e : Option Exponent) : Prop where
  digit : NoDigit rest
  letter : Stops rest e
  point : e = none → fraction = [] → ∀ c ∈ rest.head?, c ≠ '.'

theorem readFraction_eq_ok_iff {negative : Bool} {start : Int} {significand : Nat}
    {cs rest : List Char} {n : Number} :
    readFraction negative start significand 0 cs = .ok (n, rest) ↔
      ∃ ds e, cs = ds ++ (Literal.exponentText e ++ rest) ∧ Digits ds ∧ ds ≠ [] ∧
        (∀ f ∈ e, f.WellFormed) ∧ Follows rest ds e ∧
        powered? negative (gather significand ds).1
          (placesBehind start ds (gather significand ds).2) e = some n := by
  constructor
  · intro h
    obtain ⟨ds, behind, rfl, hds, hbehind⟩ := exists_span cs
    by_cases hne : ds = []
    · rw [hne, List.nil_append] at h
      cases behind with
      | nil => cases h
      | cons c behind =>
          rw [readFraction, if_neg (by simp [hbehind c rfl]), if_pos rfl] at h
          cases h
    · rw [readFraction_append hds hbehind _ _ _ _ (.inr hne), readAfterFraction_eq_ok_iff] at h
      obtain ⟨e, he, rfl, hrest, hn⟩ := h
      rw [Int.natCast_zero, Int.sub_zero] at hn
      refine ⟨ds, e, rfl, hds, hne, he, ⟨?_, hrest, fun _ hnil => absurd hnil hne⟩, hn⟩
      cases e with
      | none => exact hbehind
      | some e => exact hrest
  · rintro ⟨ds, e, rfl, hds, hne, he, hrest, hn⟩
    have hbehind := noDigit_exponentText he fun _ => hrest.digit
    rw [readFraction_append hds hbehind _ _ _ _ (.inr hne), readAfterFraction_eq_ok_iff,
      Int.natCast_zero, Int.sub_zero]
    exact ⟨e, he, rfl, hrest.letter, hn⟩

/-- What is read behind the digits of an integer of which some are not in the significand. -/
def readAfterWhole (negative : Bool) (significand places : Nat) (cs : List Char) :
    Except Fault (Parsed Number) :=
  if places = 0 then readAfterInteger negative significand cs
  else readLongInteger negative significand places cs

theorem readAfterWhole_point (negative : Bool) (significand places : Nat) (cs : List Char) :
    readAfterWhole negative significand places ('.' :: cs) =
      readFraction negative places significand 0 cs := by
  unfold readAfterWhole
  split
  · rename_i hplaces
    rw [hplaces]
    rfl
  · rw [readLongInteger, if_neg (by decide), if_pos rfl]

theorem readAfterWhole_letter {letter : Char} (hletter : letter = 'e' ∨ letter = 'E')
    (negative : Bool) (significand places : Nat) (cs : List Char) :
    readAfterWhole negative significand places (letter :: cs) =
      readExponent negative significand places cs := by
  unfold readAfterWhole
  split
  · rename_i hplaces
    rcases hletter with rfl | rfl <;> rw [hplaces] <;> rfl
  · rcases hletter with rfl | rfl <;>
      rw [readLongInteger, if_neg (by decide), if_neg (by decide), if_pos (by decide)]

theorem written?_of_exponent (negative : Bool) (significand places : Nat) (e : Exponent) :
    written? negative significand places [] (some e) =
      powered? negative significand places (some e) := by
  rw [written?, if_neg (by simp)]
  show powered? negative significand (places - (0 : Nat)) (some e) = _
  rw [Int.natCast_zero, Int.sub_zero]

theorem written?_of_fraction (negative : Bool) (significand places : Nat) {ds : List Char}
    (hds : ds ≠ []) (e : Option Exponent) :
    written? negative significand places ds e =
      powered? negative (gather significand ds).1
        (placesBehind places ds (gather significand ds).2) e := by
  rw [written?, if_neg (by simp [hds])]

theorem written?_of_nothing (negative : Bool) (significand places : Nat) :
    written? negative significand places [] none =
      if places = 0 then some (integerOf negative significand)
      else powered? negative significand places none := by
  unfold written?
  split
  · rename_i h
    rw [if_pos h.2.2]
  · rename_i h
    rw [if_neg fun hzero => h ⟨rfl, rfl, hzero⟩]
    show powered? negative significand (places - (0 : Nat)) none = _
    rw [Int.natCast_zero, Int.sub_zero]

theorem readAfterWhole_other {cs : List Char} (hcs : NoDigit cs)
    (hletter : ∀ c ∈ cs.head?, c ≠ 'e' ∧ c ≠ 'E') (hpoint : ∀ c ∈ cs.head?, c ≠ '.')
    {negative : Bool} {significand places : Nat} {rest : List Char} {n : Number} :
    readAfterWhole negative significand places cs = .ok (n, rest) ↔
      cs = rest ∧ written? negative significand places [] none = some n := by
  rw [written?_of_nothing]
  unfold readAfterWhole
  split
  · have hinteger : readAfterInteger negative significand cs =
        .ok (integerOf negative significand, cs) := by
      unfold readAfterInteger
      split
      · exact absurd rfl (hpoint _ rfl)
      · exact absurd rfl (hletter _ rfl).1
      · exact absurd rfl (hletter _ rfl).2
      · rfl
    rw [hinteger, Except.ok.injEq, Prod.mk.injEq, Option.some.injEq, and_comm]
  · have hreal : readLongInteger negative significand places cs =
        realOf negative significand places cs := by
      cases cs with
      | nil => rfl
      | cons c cs =>
          have hno := hletter c rfl
          rw [readLongInteger, if_neg (by simp [hcs c rfl]), if_neg (hpoint c rfl),
            if_neg (by simp [hno])]
    rw [hreal, realOf_eq_ok_iff]

theorem readAfterWhole_eq_ok_iff {negative : Bool} {significand places : Nat}
    {cs rest : List Char} (hcs : NoDigit cs) {n : Number} :
    readAfterWhole negative significand places cs = .ok (n, rest) ↔
      ∃ ds e, cs = Literal.fractionText ds ++ (Literal.exponentText e ++ rest) ∧ Digits ds ∧
        (∀ f ∈ e, f.WellFormed) ∧ Follows rest ds e ∧
        written? negative significand places ds e = some n := by
  constructor
  · intro h
    by_cases hpoint : cs.head? = some '.'
    · obtain ⟨behind, rfl⟩ := List.head?_eq_some_iff.mp hpoint
      rw [readAfterWhole_point, readFraction_eq_ok_iff] at h
      obtain ⟨ds, e, rfl, hds, hne, he, hrest, hn⟩ := h
      refine ⟨ds, e, ?_, hds, he, hrest, (written?_of_fraction _ _ _ hne e).trans hn⟩
      obtain ⟨d, ds, rfl⟩ := List.exists_cons_of_ne_nil hne
      rfl
    rcases exists_letter cs with ⟨letter, behind, hletter, rfl⟩ | hother
    · rw [readAfterWhole_letter hletter, readExponent_eq_ok_iff hletter] at h
      obtain ⟨e, he, heq, hrest, hn⟩ := h
      refine ⟨[], some e, heq, nofun, ?_, ⟨hrest, hrest, nofun⟩, ?_⟩
      · intro f hf
        rw [← Option.mem_some_iff.mp hf]
        exact he
      · exact (written?_of_exponent ..).trans hn
    · have hno : ∀ c ∈ cs.head?, c ≠ '.' := by
        rintro c hc rfl
        exact hpoint hc
      obtain ⟨rfl, hn⟩ := (readAfterWhole_other hcs hother hno).mp h
      exact ⟨[], none, rfl, nofun, nofun, ⟨hcs, hother, fun _ _ => hno⟩, hn⟩
  · rintro ⟨ds, e, rfl, hds, he, hrest, hn⟩
    cases ds with
    | cons d ds =>
        have hne := List.cons_ne_nil d ds
        show readAfterWhole negative significand places
          ('.' :: (d :: ds ++ (Literal.exponentText e ++ rest))) = _
        rw [readAfterWhole_point, readFraction_eq_ok_iff]
        exact ⟨d :: ds, e, rfl, hds, hne, he, hrest,
          (written?_of_fraction _ _ _ hne e).symm.trans hn⟩
    | nil =>
        cases e with
        | none => exact (readAfterWhole_other hcs hrest.letter (hrest.point rfl rfl)).mpr ⟨rfl, hn⟩
        | some e =>
            have hwell := he e rfl
            show readAfterWhole negative significand places
              (e.letter :: (e.sign ++ e.digits ++ rest)) = _
            rw [readAfterWhole_letter hwell.letter, readExponent_eq_ok_iff hwell.letter]
            exact ⟨e, hwell, rfl, hrest.digit, (written?_of_exponent ..).symm.trans hn⟩

theorem readLongInteger_append {ds rest : List Char} (hds : Digits ds) (negative : Bool)
    (significand places : Nat) :
    readLongInteger negative significand places (ds ++ rest) =
      readLongInteger negative significand (places + ds.length) rest := by
  induction ds generalizing places with
  | nil => rfl
  | cons c ds ih =>
      rw [List.cons_append, readLongInteger, if_pos hds.head, ih hds.tail, List.length_cons]
      congr 1
      omega

theorem readIntegerDigits_append {ds rest : List Char} (hds : Digits ds) (hrest : NoDigit rest)
    (negative : Bool) (significand : Nat) :
    readIntegerDigits negative significand (ds ++ rest) =
      readAfterWhole negative (gather significand ds).1 (gather significand ds).2.length rest := by
  induction ds generalizing significand with
  | nil =>
      show readIntegerDigits negative significand rest = readAfterInteger negative significand rest
      cases rest with
      | nil => rfl
      | cons c rest => rw [readIntegerDigits, if_neg (by simp [hrest c rfl])]
  | cons c ds ih =>
      rw [List.cons_append, readIntegerDigits, if_pos hds.head, gather]
      split
      · rw [← List.cons_append, readLongInteger_append hds, Nat.zero_add, readAfterWhole,
          if_neg (by simp)]
      · exact ih hds.tail _

theorem readNumber_zero (negative : Bool) (d : Char) (rest : List Char) :
    readNumber negative ('0' :: d :: rest) =
      if isDigit d then .error (.next .invalidNumber (d :: rest))
      else readAfterInteger negative 0 (d :: rest) := rfl

theorem readNumber_append {c : Char} {ds rest : List Char} (hds : Digits (c :: ds))
    (hrest : NoDigit rest) (hleading : c = '0' → ds = []) (negative : Bool) :
    readNumber negative (c :: ds ++ rest) =
      readAfterWhole negative (gather 0 (c :: ds)).1 (gather 0 (c :: ds)).2.length rest := by
  by_cases hzero : c = '0'
  · obtain rfl := hleading hzero
    subst hzero
    show readNumber negative ('0' :: rest) = readAfterInteger negative 0 rest
    cases rest with
    | nil => rfl
    | cons d rest =>
        rw [readNumber_zero, if_neg (by simp [hrest d rfl])]
  · have hsmall : ¬ significandLimit < 0 * 10 + digitValue c := by
      have hdigit := digitValue_le hds.head
      unfold significandLimit
      omega
    rw [gather, if_neg hsmall, Nat.zero_mul, Nat.zero_add,
      ← readIntegerDigits_append hds.tail hrest]
    unfold readNumber
    split
    · rename_i h
      cases h
    · rename_i h
      exact absurd (List.cons.inj h).1 hzero
    · rename_i d behind _ h
      obtain ⟨rfl, rfl⟩ := List.cons.inj h
      rw [if_pos hds.head]
      rfl

theorem readNumber_of_noDigit {cs : List Char} (hcs : NoDigit cs) (negative : Bool)
    (found : Parsed Number) : readNumber negative cs ≠ .ok found := by
  unfold readNumber
  split
  · exact nofun
  · exact absurd (hcs '0' rfl) (by decide)
  · rename_i c rest _
    rw [if_neg (by simp [hcs c rfl])]
    exact nofun

theorem readNumber_of_leading_zero {d : Char} (hd : isDigit d = true) (cs : List Char)
    (negative : Bool) (found : Parsed Number) :
    readNumber negative ('0' :: d :: cs) ≠ .ok found := by
  rw [readNumber_zero, if_pos hd]
  exact nofun

/-- What must not follow a literal that is read to its end. -/
def Literal.Ends (l : Literal) (rest : List Char) : Prop := Follows rest l.fraction l.exponent

/-- The reader of numbers accepts just the literals that stand for a number, and reads them to their
end. -/
theorem readNumber_eq_ok_iff {negative : Bool} {cs rest : List Char} {n : Number} :
    readNumber negative cs = .ok (n, rest) ↔
      ∃ l : Literal, l.WellFormed ∧ l.negative = negative ∧ cs = l.unsigned ++ rest ∧
        l.Ends rest ∧ l.number? = some n := by
  constructor
  · intro h
    obtain ⟨whole, behind, rfl, hwhole, hbehind⟩ := exists_span cs
    cases whole with
    | nil => exact absurd h (readNumber_of_noDigit hbehind _ _)
    | cons c ds =>
        have hleading : c = '0' → ds = [] := by
          rintro rfl
          cases ds with
          | nil => rfl
          | cons d ds => exact absurd h (readNumber_of_leading_zero hwhole.tail.head _ _ _)
        rw [readNumber_append hwhole hbehind hleading, readAfterWhole_eq_ok_iff hbehind] at h
        obtain ⟨fraction, e, rfl, hfraction, he, hrest, hn⟩ := h
        refine ⟨⟨negative, c :: ds, fraction, e⟩, ⟨hwhole, nofun, ?_, hfraction, he⟩, rfl, ?_,
          hrest, hn⟩
        · intro hc
          obtain rfl := Option.some.inj hc
          rw [hleading rfl]
        · simp [Literal.unsigned]
  · rintro ⟨⟨negative, whole, fraction, e⟩, hl, rfl, rfl, hrest, hn⟩
    obtain ⟨c, ds, rfl⟩ := List.exists_cons_of_ne_nil hl.nonempty
    have hbehind : NoDigit (Literal.fractionText fraction ++ (Literal.exponentText e ++ rest)) := by
      cases fraction with
      | nil => exact noDigit_exponentText hl.exponent fun _ => hrest.digit
      | cons d fraction =>
          intro a ha
          obtain rfl := Option.mem_some_iff.mp ha
          rfl
    have hleading : c = '0' → ds = [] := by
      rintro rfl
      exact (List.cons.inj (hl.leading rfl)).2
    have hcs : Literal.unsigned ⟨negative, c :: ds, fraction, e⟩ ++ rest =
        c :: ds ++ (Literal.fractionText fraction ++ (Literal.exponentText e ++ rest)) := by
      simp [Literal.unsigned]
    rw [hcs, readNumber_append hl.whole hbehind hleading, readAfterWhole_eq_ok_iff hbehind]
    exact ⟨fraction, e, rfl, hl.fraction, hl.exponent, hrest, hn⟩

/-- What may follow a value: neither a digit nor anything else that goes on with a number. -/
def Delimits (rest : List Char) : Prop :=
  ∀ c ∈ rest.head?, isDigit c = false ∧ c ≠ '.' ∧ c ≠ 'e' ∧ c ≠ 'E'

theorem Literal.ends_of_delimits {rest : List Char} (h : Delimits rest) (l : Literal) :
    l.Ends rest := by
  have hdigit : NoDigit rest := fun c hc => (h c hc).1
  refine ⟨hdigit, ?_, fun _ _ c hc => (h c hc).2.1⟩
  cases l.exponent with
  | none => exact fun c hc => (h c hc).2.2
  | some e => exact hdigit

theorem Literal.WellFormed.text_cons {l : Literal} (hl : l.WellFormed) :
    ∃ c cs, l.text = c :: cs ∧ (c = '-' ∨ isDigit c = true) := by
  obtain ⟨c, ds, hds⟩ := List.exists_cons_of_ne_nil hl.nonempty
  cases hnegative : l.negative with
  | true => exact ⟨'-', l.unsigned, by simp [Literal.text, hnegative], .inl rfl⟩
  | false =>
      refine ⟨c, ds ++ Literal.fractionText l.fraction ++ Literal.exponentText l.exponent, ?_,
        .inr (hl.whole c (by simp [hds]))⟩
      simp [Literal.text, Literal.unsigned, hnegative, hds]

end RigidWorlds.Json
