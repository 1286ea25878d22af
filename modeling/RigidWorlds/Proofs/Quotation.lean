import RigidWorlds.Json.Lexeme
import RigidWorlds.Proofs.Result

/-!
Text in quotes.  It is written in pieces, plain characters and escapes, and the pieces say the
characters that are meant: one escape for most of them, two for those beyond the first plane.  The
reader of quoted text accepts just the pieces that say something, and the writer writes such pieces.
-/

namespace RigidWorlds.Json

inductive Piece where
  | plain (c : Char)
  | escape (letter : Char)
  /-- The number of a character in four hexadecimal digits. -/
  | unicode (a b c d : Char)

def hexNumber? (a b c d : Char) : Option Nat :=
  match hexValue? a, hexValue? b, hexValue? c, hexValue? d with
  | some a, some b, some c, some d => some (((a * 16 + b) * 16 + c) * 16 + d)
  | _, _, _, _ => none

namespace Piece

def text : Piece → List Char
  | plain c => [c]
  | escape letter => ['\\', letter]
  | unicode a b c d => ['\\', 'u', a, b, c, d]

def WellFormed : Piece → Prop
  | plain c => c ≠ '"' ∧ c ≠ '\\' ∧ ¬ c < ' '
  | escape letter => ∃ c, simpleEscape? letter = some c
  | unicode a b c d => ∃ n, hexNumber? a b c d = some n

end Piece

def piecesText (ps : List Piece) : List Char := ps.flatMap Piece.text

/-- The character of a pair of halves. -/
def joinSurrogates (high low : Nat) : Char :=
  Char.ofNat ((high - 0xD800) * 0x400 + (low - 0xDC00) + 0x10000)

/-- The characters that pieces say. -/
inductive Says : List Piece → List Char → Prop
  | nothing : Says [] []
  | plain {c : Char} {ps : List Piece} {cs : List Char} (hc : (Piece.plain c).WellFormed)
      (hrest : Says ps cs) : Says (.plain c :: ps) (c :: cs)
  | escape {letter c : Char} {ps : List Piece} {cs : List Char}
      (hc : simpleEscape? letter = some c) (hrest : Says ps cs) :
      Says (.escape letter :: ps) (c :: cs)
  | single {a b c d : Char} {n : Nat} {ps : List Piece} {cs : List Char}
      (hn : hexNumber? a b c d = some n) (hleading : isLeadingSurrogate n = false)
      (htrailing : isTrailingSurrogate n = false) (hrest : Says ps cs) :
      Says (.unicode a b c d :: ps) (Char.ofNat n :: cs)
  | pair {a b c d a' b' c' d' : Char} {high low : Nat} {ps : List Piece} {cs : List Char}
      (hhigh : hexNumber? a b c d = some high) (hleading : isLeadingSurrogate high = true)
      (hlow : hexNumber? a' b' c' d' = some low) (htrailing : isTrailingSurrogate low = true)
      (hrest : Says ps cs) :
      Says (.unicode a b c d :: .unicode a' b' c' d' :: ps) (joinSurrogates high low :: cs)

theorem Says.wellFormed {ps : List Piece} {cs : List Char} (h : Says ps cs) :
    ∀ p ∈ ps, p.WellFormed := by
  induction h with
  | nothing => exact nofun
  | plain hc hrest ih => exact List.forall_mem_cons.mpr ⟨hc, ih⟩
  | escape hc hrest ih => exact List.forall_mem_cons.mpr ⟨⟨_, hc⟩, ih⟩
  | single hn _ _ hrest ih => exact List.forall_mem_cons.mpr ⟨⟨_, hn⟩, ih⟩
  | pair hhigh _ hlow _ hrest ih =>
      exact List.forall_mem_cons.mpr ⟨⟨_, hhigh⟩, List.forall_mem_cons.mpr ⟨⟨_, hlow⟩, ih⟩⟩

theorem readHex_eq_ok_iff {cs rest : List Char} {n : Nat} :
    readHex cs = .ok (n, rest) ↔
      ∃ a b c d, cs = a :: b :: c :: d :: rest ∧ hexNumber? a b c d = some n := by
  constructor
  · intro h
    unfold readHex at h
    dsimp only at h
    split at h
    · rename_i a b c d after
      split at h
      · rename_i ha hb hc hd
        obtain ⟨rfl, rfl⟩ := Prod.mk.inj (Except.ok.inj h)
        exact ⟨a, b, c, d, rfl, by simp [hexNumber?, ha, hb, hc, hd]⟩
      · split at h <;> cases h
    · split at h <;> cases h
  · rintro ⟨a, b, c, d, rfl, hn⟩
    unfold hexNumber? at hn
    split at hn
    · rename_i ha hb hc hd
      obtain rfl := Option.some.inj hn
      simp [readHex, ha, hb, hc, hd]
    · cases hn

theorem readTrailingSurrogate_eq_ok_iff {high : Nat} {cs rest : List Char} {x : Char} :
    readTrailingSurrogate high cs = .ok (x, rest) ↔
      ∃ a b c d low, cs = '\\' :: 'u' :: a :: b :: c :: d :: rest ∧
        hexNumber? a b c d = some low ∧ isTrailingSurrogate low = true ∧
          x = joinSurrogates high low := by
  constructor
  · intro h
    unfold readTrailingSurrogate at h
    split at h
    · cases h
    · split at h
      · cases h
      · rename_i behind
        obtain ⟨⟨low, after⟩, hhex, hjoin⟩ := bind_eq_ok_iff.mp h
        obtain ⟨a, b, c, d, rfl, hlow⟩ := readHex_eq_ok_iff.mp hhex
        dsimp only at hjoin
        split at hjoin
        · rename_i htrailing
          obtain ⟨rfl, rfl⟩ := return_eq_ok_iff.mp hjoin
          exact ⟨a, b, c, d, low, rfl, hlow, htrailing, by rw [joinSurrogates]⟩
        · cases hjoin
      · cases h
    · cases h
  · rintro ⟨a, b, c, d, low, rfl, hlow, htrailing, hx⟩
    have hhex : readHex (a :: b :: c :: d :: rest) = .ok (low, rest) :=
      readHex_eq_ok_iff.mpr ⟨a, b, c, d, rfl, hlow⟩
    unfold readTrailingSurrogate
    simp only [hhex, ok_bind, htrailing, if_true]
    exact return_eq_ok_iff.mpr ⟨by rw [hx, joinSurrogates], rfl⟩

/-- One escape that says a character, or two. -/
inductive Escapes : List Piece → Char → Prop
  | escape {letter c : Char} (hc : simpleEscape? letter = some c) : Escapes [.escape letter] c
  | single {a b c d : Char} {n : Nat} (hn : hexNumber? a b c d = some n)
      (hleading : isLeadingSurrogate n = false) (htrailing : isTrailingSurrogate n = false) :
      Escapes [.unicode a b c d] (Char.ofNat n)
  | pair {a b c d a' b' c' d' : Char} {high low : Nat} (hhigh : hexNumber? a b c d = some high)
      (hleading : isLeadingSurrogate high = true) (hlow : hexNumber? a' b' c' d' = some low)
      (htrailing : isTrailingSurrogate low = true) :
      Escapes [.unicode a b c d, .unicode a' b' c' d'] (joinSurrogates high low)

theorem Escapes.says {ps ps' : List Piece} {c : Char} {cs : List Char} (h : Escapes ps c)
    (hrest : Says ps' cs) : Says (ps ++ ps') (c :: cs) := by
  cases h with
  | escape hc => exact .escape hc hrest
  | single hn hleading htrailing => exact .single hn hleading htrailing hrest
  | pair hhigh hleading hlow htrailing => exact .pair hhigh hleading hlow htrailing hrest

theorem not_trailing_of_leading {n : Nat} (h : isLeadingSurrogate n = true) :
    isTrailingSurrogate n = false := by
  unfold isLeadingSurrogate at h
  unfold isTrailingSurrogate
  simp only [Bool.and_eq_true, decide_eq_true_eq] at h
  simp only [Bool.and_eq_false_iff, decide_eq_false_iff_not]
  omega

theorem readUnicodeEscape_eq_ok_iff {cs rest : List Char} {x : Char} :
    readUnicodeEscape cs = .ok (x, rest) ↔
      ∃ a b c d ps, '\\' :: 'u' :: cs = piecesText (.unicode a b c d :: ps) ++ rest ∧
        Escapes (.unicode a b c d :: ps) x := by
  constructor
  · intro h
    obtain ⟨⟨n, after⟩, hhex, hmeant⟩ := bind_eq_ok_iff.mp h
    obtain ⟨a, b, c, d, rfl, hn⟩ := readHex_eq_ok_iff.mp hhex
    dsimp only at hmeant
    split at hmeant
    · cases hmeant
    · rename_i htrailing
      have htrailing := Bool.eq_false_iff.mpr htrailing
      split at hmeant
      · rename_i hleading
        obtain ⟨a', b', c', d', low, rfl, hlow, hlowtrailing, hx⟩ :=
          readTrailingSurrogate_eq_ok_iff.mp hmeant
        rw [hx]
        exact ⟨a, b, c, d, [.unicode a' b' c' d'], rfl, .pair hn hleading hlow hlowtrailing⟩
      · rename_i hleading
        obtain ⟨rfl, rfl⟩ := return_eq_ok_iff.mp hmeant
        exact ⟨a, b, c, d, [], rfl, .single hn (Bool.eq_false_iff.mpr hleading) htrailing⟩
  · rintro ⟨a, b, c, d, ps, heq, hescapes⟩
    have hread : ∀ (n : Nat) (after : List Char), hexNumber? a b c d = some n →
        readHex (a :: b :: c :: d :: after) = .ok (n, after) :=
      fun n after hn => readHex_eq_ok_iff.mpr ⟨a, b, c, d, rfl, hn⟩
    obtain rfl := (List.cons.inj (List.cons.inj heq).2).2
    cases hescapes with
    | single hn hleading htrailing =>
        show readUnicodeEscape (a :: b :: c :: d :: rest) = _
        simp only [readUnicodeEscape, hread _ _ hn, ok_bind, htrailing, hleading,
          Bool.false_eq_true, if_false]
        rfl
    | pair hhigh hleading hlow htrailing =>
        rename_i a' b' c' d' high low
        show readUnicodeEscape (a :: b :: c :: d :: '\\' :: 'u' :: a' :: b' :: c' :: d' :: rest) = _
        simp only [readUnicodeEscape, hread _ _ hhigh, ok_bind, not_trailing_of_leading hleading,
          hleading, Bool.false_eq_true, if_false, if_true]
        exact readTrailingSurrogate_eq_ok_iff.mpr
          ⟨a', b', c', d', low, rfl, hlow, htrailing, rfl⟩

theorem readEscape_eq_ok_iff {cs rest : List Char} {x : Char} :
    readEscape cs = .ok (x, rest) ↔
      ∃ ps, '\\' :: cs = piecesText ps ++ rest ∧ Escapes ps x := by
  constructor
  · intro h
    unfold readEscape at h
    split at h
    · cases h
    · obtain ⟨a, b, c, d, ps, heq, hescapes⟩ := readUnicodeEscape_eq_ok_iff.mp h
      exact ⟨_, heq, hescapes⟩
    · rename_i letter behind _
      split at h
      · rename_i c hc
        obtain ⟨rfl, rfl⟩ := Prod.mk.inj (Except.ok.inj h)
        exact ⟨[.escape letter], rfl, .escape hc⟩
      · cases h
  · rintro ⟨ps, heq, hescapes⟩
    have hunicode : ∀ a b c d ps', ps = .unicode a b c d :: ps' →
        readEscape cs = .ok (x, rest) := by
      rintro a b c d ps' rfl
      have hcs := heq
      obtain rfl := (List.cons.inj hcs).2
      exact readUnicodeEscape_eq_ok_iff.mpr ⟨a, b, c, d, ps', heq, hescapes⟩
    cases hescapes with
    | escape hc =>
        rename_i letter
        obtain rfl := (List.cons.inj heq).2
        show readEscape (letter :: rest) = _
        have hletter : letter ≠ 'u' := by
          rintro rfl
          cases hc
        unfold readEscape
        split
        · rename_i h
          cases h
        · rename_i h
          exact absurd (List.cons.inj h).1 hletter
        · rename_i h
          obtain ⟨rfl, rfl⟩ := List.cons.inj h
          rw [hc]
    | single => exact hunicode _ _ _ _ _ rfl
    | pair => exact hunicode _ _ _ _ _ rfl

theorem Escapes.head {ps : List Piece} {x : Char} (h : Escapes ps x) :
    ∃ cs, piecesText ps = '\\' :: cs := by
  cases h <;> exact ⟨_, rfl⟩

theorem Says.first {ps : List Piece} {xs : List Char} (h : Says ps xs) :
    (ps = [] ∧ xs = []) ∨
      (∃ c ps' xs', ps = .plain c :: ps' ∧ xs = c :: xs' ∧ (Piece.plain c).WellFormed ∧
        Says ps' xs') ∨
      ∃ first x ps' xs', ps = first ++ ps' ∧ xs = x :: xs' ∧ Escapes first x ∧ Says ps' xs' := by
  cases h with
  | nothing => exact .inl ⟨rfl, rfl⟩
  | plain hc hrest => exact .inr (.inl ⟨_, _, _, rfl, rfl, hc, hrest⟩)
  | escape hc hrest => exact .inr (.inr ⟨[_], _, _, _, rfl, rfl, .escape hc, hrest⟩)
  | single hn hleading htrailing hrest =>
      exact .inr (.inr ⟨[_], _, _, _, rfl, rfl, .single hn hleading htrailing, hrest⟩)
  | pair hhigh hleading hlow htrailing hrest =>
      exact .inr (.inr ⟨[_, _], _, _, _, rfl, rfl, .pair hhigh hleading hlow htrailing, hrest⟩)

theorem piecesText_append (ps ps' : List Piece) :
    piecesText (ps ++ ps') = piecesText ps ++ piecesText ps' := List.flatMap_append

theorem readChars_eq_ok_iff {fuel : Nat} {cs rest : List Char} (hfuel : cs.length ≤ fuel)
    {xs : List Char} :
    readChars fuel cs = .ok (xs, rest) ↔
      ∃ ps, cs = piecesText ps ++ '"' :: rest ∧ Says ps xs := by
  induction fuel generalizing cs xs with
  | zero =>
      obtain rfl := List.length_eq_zero_iff.mp (Nat.le_zero.mp hfuel)
      constructor
      · exact nofun
      · rintro ⟨ps, heq, -⟩
        simp at heq
  | succ fuel ih =>
      constructor
      · intro h
        cases cs with
        | nil => cases h
        | cons c cs =>
            have hshort : cs.length ≤ fuel := Nat.le_of_succ_le_succ hfuel
            rw [readChars] at h
            by_cases hquote : c = '"'
            · rw [if_pos hquote] at h
              obtain ⟨rfl, rfl⟩ := Prod.mk.inj (Except.ok.inj h)
              exact ⟨[], by rw [hquote]; rfl, .nothing⟩
            rw [if_neg hquote] at h
            by_cases hescape : c = '\\'
            · rw [if_pos hescape] at h
              obtain ⟨⟨x, behind⟩, hread, h⟩ := bind_eq_ok_iff.mp h
              obtain ⟨⟨xs', after⟩, hmore, h⟩ := bind_eq_ok_iff.mp h
              obtain ⟨rfl, rfl⟩ := return_eq_ok_iff.mp h
              obtain ⟨first, heq, hfirst⟩ := readEscape_eq_ok_iff.mp hread
              have hbehind : behind.length ≤ fuel := by
                obtain ⟨text, htext⟩ := hfirst.head
                have hlength := congrArg List.length heq
                simp only [htext, List.cons_append, List.length_cons, List.length_append] at hlength
                omega
              obtain ⟨ps, rfl, hps⟩ := (ih hbehind).mp hmore
              refine ⟨first ++ ps, ?_, hfirst.says hps⟩
              rw [hescape, heq, piecesText_append, List.append_assoc]
            rw [if_neg hescape] at h
            by_cases hcontrol : c < ' '
            · rw [if_pos hcontrol] at h
              cases h
            · rw [if_neg hcontrol] at h
              obtain ⟨⟨xs', after⟩, hmore, h⟩ := bind_eq_ok_iff.mp h
              obtain ⟨rfl, rfl⟩ := return_eq_ok_iff.mp h
              obtain ⟨ps, rfl, hps⟩ := (ih hshort).mp hmore
              exact ⟨.plain c :: ps, rfl, .plain ⟨hquote, hescape, hcontrol⟩ hps⟩
      · rintro ⟨ps, rfl, hps⟩
        rcases hps.first with ⟨rfl, rfl⟩ | ⟨c, ps, xs, rfl, rfl, ⟨hquote, hescape, hcontrol⟩, hps⟩ |
            ⟨first, x, ps, xs, rfl, rfl, hfirst, hps⟩
        · rfl
        · show readChars (fuel + 1) (c :: (piecesText ps ++ '"' :: rest)) = _
          have hmore := (ih (Nat.le_of_succ_le_succ hfuel)).mpr ⟨ps, rfl, hps⟩
          rw [readChars, if_neg hquote, if_neg hescape, if_neg hcontrol]
          exact bind_eq_ok_iff.mpr ⟨_, hmore, rfl⟩
        · obtain ⟨text, htext⟩ := hfirst.head
          rw [piecesText_append, htext, List.append_assoc] at hfuel ⊢
          have hread : readEscape (text ++ (piecesText ps ++ '"' :: rest)) =
              .ok (x, piecesText ps ++ '"' :: rest) :=
            readEscape_eq_ok_iff.mpr ⟨first, by rw [htext]; rfl, hfirst⟩
          have hmore : readChars fuel (piecesText ps ++ '"' :: rest) = .ok (xs, rest) := by
            refine (ih ?_).mpr ⟨ps, rfl, hps⟩
            simp only [List.cons_append, List.length_cons, List.length_append] at hfuel ⊢
            omega
          show readChars (fuel + 1) ('\\' :: (text ++ (piecesText ps ++ '"' :: rest))) = _
          rw [readChars, if_neg (by decide), if_pos rfl]
          exact bind_eq_ok_iff.mpr ⟨_, hread, bind_eq_ok_iff.mpr ⟨_, hmore, rfl⟩⟩

theorem readText_eq_ok_iff {cs rest : List Char} {s : String} :
    readText cs = .ok (s, rest) ↔
      ∃ ps, cs = piecesText ps ++ '"' :: rest ∧ Says ps s.toList := by
  have hchars : ∀ xs, readChars (cs.length + 1) cs = .ok (xs, rest) ↔
      ∃ ps, cs = piecesText ps ++ '"' :: rest ∧ Says ps xs :=
    fun xs => readChars_eq_ok_iff (Nat.le_succ cs.length)
  constructor
  · intro h
    obtain ⟨⟨xs, after⟩, hread, h⟩ := bind_eq_ok_iff.mp h
    obtain ⟨rfl, rfl⟩ := return_eq_ok_iff.mp h
    rw [String.toList_ofList]
    exact (hchars xs).mp hread
  · intro h
    exact bind_eq_ok_iff.mpr
      ⟨_, (hchars s.toList).mpr h, return_eq_ok_iff.mpr ⟨String.ofList_toList, rfl⟩⟩

/-- The piece by which a character is written. -/
def Piece.ofChar (c : Char) : Piece :=
  if c = '"' then .escape '"'
  else if c = '\\' then .escape '\\'
  else if c = '\x08' then .escape 'b'
  else if c = '\x0c' then .escape 'f'
  else if c = '\n' then .escape 'n'
  else if c = '\r' then .escape 'r'
  else if c = '\t' then .escape 't'
  else if c < ' ' then .unicode '0' '0' (hexDigit (c.toNat / 16)) (hexDigit (c.toNat % 16))
  else .plain c

theorem Piece.text_ofChar (c : Char) : (Piece.ofChar c).text = escapeChar c := by
  unfold ofChar escapeChar
  repeat' split
  all_goals rfl

theorem hexNumber?_control :
    ∀ n < 32, hexNumber? '0' '0' (hexDigit (n / 16)) (hexDigit (n % 16)) = some n ∧
      isLeadingSurrogate n = false ∧ isTrailingSurrogate n = false := by
  decide

theorem Says.ofChar (c : Char) {ps : List Piece} {cs : List Char} (hrest : Says ps cs) :
    Says (Piece.ofChar c :: ps) (c :: cs) := by
  have hsimple : ∀ letter x : Char, c = x → simpleEscape? letter = some x →
      Says (.escape letter :: ps) (c :: cs) := by
    rintro letter x rfl hletter
    exact .escape hletter hrest
  unfold Piece.ofChar
  by_cases hquote : c = '"'
  · rw [if_pos hquote]
    exact hsimple _ _ hquote rfl
  rw [if_neg hquote]
  by_cases hescape : c = '\\'
  · rw [if_pos hescape]
    exact hsimple _ _ hescape rfl
  rw [if_neg hescape]
  repeat' split
  · exact hsimple _ _ ‹_› rfl
  · exact hsimple _ _ ‹_› rfl
  · exact hsimple _ _ ‹_› rfl
  · exact hsimple _ _ ‹_› rfl
  · exact hsimple _ _ ‹_› rfl
  · rename_i hcontrol
    obtain ⟨hn, hleading, htrailing⟩ := hexNumber?_control c.toNat hcontrol
    have hsaid := Says.single hn hleading htrailing hrest
    rwa [Char.ofNat_toNat] at hsaid
  · rename_i hcontrol
    exact .plain ⟨hquote, hescape, hcontrol⟩ hrest

def piecesOf (cs : List Char) : List Piece := cs.map Piece.ofChar

theorem says_piecesOf (cs : List Char) : Says (piecesOf cs) cs := by
  induction cs with
  | nil => exact .nothing
  | cons c cs ih => exact .ofChar c ih

theorem renderText_eq (s : String) :
    renderText s = '"' :: (piecesText (piecesOf s.toList) ++ ['"']) := by
  simp only [renderText, piecesText, piecesOf, List.flatMap_map, Piece.text_ofChar,
    List.cons_append]

theorem readText_renderText (s : String) (rest : List Char) :
    readText ((renderText s).tail ++ rest) = .ok (s, rest) := by
  rw [readText_eq_ok_iff, renderText_eq]
  exact ⟨_, by simp, says_piecesOf s.toList⟩

end RigidWorlds.Json
