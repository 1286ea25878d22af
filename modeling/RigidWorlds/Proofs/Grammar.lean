import Mathlib.Data.List.Forall2
import RigidWorlds.Json.Reader
import RigidWorlds.Proofs.Literal
import RigidWorlds.Proofs.Quotation

/-!
The grammar of structured text.  A text spells terms, and a term means a value unless it is nested
too deeply, a number in it is too large or an escape in it stands for half a character.  The reader
finds just the values of what a text spells.
-/

namespace RigidWorlds.Json

/-- What a text spells, numbers and quoted text as they are written. -/
inductive Term where
  | null
  | boolean (b : Bool)
  | number (l : Literal)
  | text (ps : List Piece)
  | array (items : List Term)
  | object (entries : List (List Piece × Term))

/-- Blanks lead from a text to the rest of it. -/
def Blanks (cs rest : List Char) : Prop :=
  ∃ blanks, cs = blanks ++ rest ∧ ∀ c ∈ blanks, isBlank c = true

/-- What stands between the parts of a container: a comma, except in front of the first. -/
def Separates (first : Bool) (cs rest : List Char) : Prop :=
  if first then Blanks cs rest else ∃ behind, Blanks cs (',' :: behind) ∧ Blanks behind rest

mutual

/-- A text begins with a term and goes on with a rest. -/
inductive Spells : Term → List Char → List Char → Prop
  | null {rest : List Char} : Spells .null ('n' :: 'u' :: 'l' :: 'l' :: rest) rest
  | yes {rest : List Char} : Spells (.boolean true) ('t' :: 'r' :: 'u' :: 'e' :: rest) rest
  | no {rest : List Char} : Spells (.boolean false) ('f' :: 'a' :: 'l' :: 's' :: 'e' :: rest) rest
  | number {l : Literal} {rest : List Char} (hl : l.WellFormed) :
      Spells (.number l) (l.text ++ rest) rest
  | text {ps : List Piece} {rest : List Char} (hps : ∀ p ∈ ps, p.WellFormed) :
      Spells (.text ps) ('"' :: (piecesText ps ++ '"' :: rest)) rest
  | array {items : List Term} {cs rest : List Char} (hitems : SpellsItems true items cs rest) :
      Spells (.array items) ('[' :: cs) rest
  | object {entries : List (List Piece × Term)} {cs rest : List Char}
      (hentries : SpellsEntries true entries cs rest) : Spells (.object entries) ('\x7b' :: cs) rest

/-- The items of a list up to and with its bracket. -/
inductive SpellsItems : Bool → List Term → List Char → List Char → Prop
  | done {first : Bool} {cs rest : List Char} (hend : Blanks cs (']' :: rest)) :
      SpellsItems first [] cs rest
  | item {first : Bool} {t : Term} {items : List Term} {cs inside behind rest : List Char}
      (hstart : Separates first cs inside) (ht : Spells t inside behind)
      (hmore : SpellsItems false items behind rest) : SpellsItems first (t :: items) cs rest

/-- The entries of an object up to and with its brace. -/
inductive SpellsEntries : Bool → List (List Piece × Term) → List Char → List Char → Prop
  | done {first : Bool} {cs rest : List Char} (hend : Blanks cs ('\x7d' :: rest)) :
      SpellsEntries first [] cs rest
  | entry {first : Bool} {ps : List Piece} {t : Term} {entries : List (List Piece × Term)}
      {cs key value inside behind rest : List Char}
      (hstart : Separates first cs ('"' :: (piecesText ps ++ '"' :: key)))
      (hps : ∀ p ∈ ps, p.WellFormed) (hcolon : Blanks key (':' :: value))
      (hvalue : Blanks value inside) (ht : Spells t inside behind)
      (hmore : SpellsEntries false entries behind rest) :
      SpellsEntries first ((ps, t) :: entries) cs rest

end

/-- A term means a value if `depth` containers may be open at once. -/
def Means : Nat → Term → Value → Prop
  | _, .null, v => v = .null
  | _, .boolean b, v => v = .boolean b
  | _, .number l, v => ∃ n, l.number? = some n ∧ v = .number n
  | _, .text ps, v => ∃ s : String, Says ps s.toList ∧ v = .text s
  | 0, .array _, _ => False
  | depth + 1, .array items, v => ∃ vs, List.Forall₂ (Means depth) items vs ∧ v = .array vs
  | 0, .object _, _ => False
  | depth + 1, .object entries, v =>
      ∃ es, List.Forall₂ (fun m e => Says m.1 e.1.toList ∧ Means depth m.2 e.2) entries es ∧
        v = .ofEntries es

/-- A text consists of a term, but for blanks around it. -/
def Document (text : String) (t : Term) : Prop :=
  ∃ start rest, Blanks text.toList start ∧ Spells t start rest ∧ Blanks rest []

theorem Blanks.length_le {cs rest : List Char} (h : Blanks cs rest) : rest.length ≤ cs.length := by
  obtain ⟨blanks, rfl, -⟩ := h
  simp

theorem Separates.length_le {first : Bool} {cs rest : List Char} (h : Separates first cs rest) :
    rest.length ≤ cs.length := by
  cases first with
  | true => exact Blanks.length_le h
  | false =>
      obtain ⟨behind, hcomma, hrest⟩ := h
      have hlong := hcomma.length_le
      have hshort := hrest.length_le
      simp only [List.length_cons] at hlong
      omega

mutual

theorem Spells.length_lt {t : Term} {cs rest : List Char} (h : Spells t cs rest) :
    rest.length < cs.length := by
  cases h with
  | null | yes | no => simp only [List.length_cons]; omega
  | number hl =>
      obtain ⟨c, text, htext, -⟩ := hl.text_cons
      simp only [htext, List.length_append, List.length_cons]
      omega
  | text => simp only [List.length_cons, List.length_append]; omega
  | array hitems =>
      have := hitems.length_lt
      simp only [List.length_cons]
      omega
  | object hentries =>
      have := hentries.length_lt
      simp only [List.length_cons]
      omega

theorem SpellsItems.length_lt {first : Bool} {items : List Term} {cs rest : List Char}
    (h : SpellsItems first items cs rest) : rest.length < cs.length := by
  cases h with
  | done hend => exact hend.length_le
  | item hstart ht hmore =>
      exact Nat.lt_trans hmore.length_lt (Nat.lt_of_lt_of_le ht.length_lt hstart.length_le)

theorem SpellsEntries.length_lt {first : Bool} {entries : List (List Piece × Term)}
    {cs rest : List Char} (h : SpellsEntries first entries cs rest) : rest.length < cs.length := by
  cases h with
  | done hend => exact hend.length_le
  | entry hstart _ hcolon hvalue ht hmore =>
      have h1 := hstart.length_le
      have h2 := hcolon.length_le
      have h3 := hvalue.length_le
      have h4 := ht.length_lt
      have h5 := hmore.length_lt
      simp only [List.length_cons, List.length_append] at h1 h2
      omega

end

theorem blanks_refl (cs : List Char) : Blanks cs cs := ⟨[], rfl, nofun⟩

theorem Blanks.trans {cs middle rest : List Char} (h : Blanks cs middle)
    (h' : Blanks middle rest) : Blanks cs rest := by
  obtain ⟨blanks, rfl, hblanks⟩ := h
  obtain ⟨blanks', rfl, hblanks'⟩ := h'
  refine ⟨blanks ++ blanks', (List.append_assoc ..).symm, ?_⟩
  exact List.forall_mem_append.mpr ⟨hblanks, hblanks'⟩

theorem blanks_skipBlanks (cs : List Char) : Blanks cs (skipBlanks cs) :=
  ⟨cs.takeWhile isBlank, List.takeWhile_append_dropWhile.symm,
    List.all_eq_true.mp List.all_takeWhile⟩

theorem skipBlanks_of_blanks {cs rest : List Char} (h : Blanks cs rest)
    (hrest : ∀ c ∈ rest.head?, isBlank c = false) : skipBlanks cs = rest := by
  obtain ⟨blanks, rfl, hblanks⟩ := h
  rw [skipBlanks, List.dropWhile_append_of_pos hblanks]
  cases rest with
  | nil => rfl
  | cons c rest => rw [List.dropWhile_cons_of_neg (by simp [hrest c rfl])]

theorem skipBlanks_of_blanks_cons {cs rest : List Char} {c : Char} (h : Blanks cs (c :: rest))
    (hc : isBlank c = false) : skipBlanks cs = c :: rest := by
  refine skipBlanks_of_blanks h ?_
  intro d hd
  rw [← Option.mem_some_iff.mp hd]
  exact hc

theorem blanks_of_skipBlanks {cs rest : List Char} (h : skipBlanks cs = rest) : Blanks cs rest :=
  h ▸ blanks_skipBlanks cs

theorem Separates.blanks {first : Bool} {cs middle rest : List Char}
    (h : Separates first cs middle) (h' : Blanks middle rest) : Separates first cs rest := by
  cases first with
  | true => exact Blanks.trans h h'
  | false =>
      obtain ⟨behind, hcomma, hmiddle⟩ := h
      exact ⟨behind, hcomma, hmiddle.trans h'⟩

theorem readWord_eq_ok_iff {word cs rest : List Char} {u : Unit} :
    readWord word cs = .ok (u, rest) ↔ cs = word ++ rest := by
  induction word generalizing cs with
  | nil => simp [readWord]
  | cons expected word ih =>
      cases cs with
      | nil => simp [readWord]
      | cons c cs =>
          rw [readWord]
          by_cases hc : c = expected
          · rw [if_pos hc, ih]
            simp [hc]
          · rw [if_neg hc]
            simp [hc]

/-- The text in front of an item: one character at least, neither a blank nor the bracket. -/
def Begins (close : Char) (cs : List Char) : Prop :=
  ∃ c rest, cs = c :: rest ∧ isBlank c = false ∧ c ≠ close

theorem nextItem_done (first : Bool) {cs rest : List Char} (h : Blanks cs (']' :: rest)) :
    nextItem first cs = .ok (false, ']' :: rest) := by
  rw [nextItem, skipBlanks_of_blanks_cons h (by decide)]
  rfl

theorem nextItem_item {first : Bool} {cs rest : List Char} (h : Separates first cs rest)
    (hrest : Begins ']' rest) : nextItem first cs = .ok (true, rest) := by
  obtain ⟨c, behind, rfl, hc, hne⟩ := hrest
  cases first with
  | true =>
      rw [nextItem, skipBlanks_of_blanks_cons h hc]
      split
      · rename_i heq
        cases heq
      · rename_i heq
        exact absurd (List.cons.inj heq).1 hne
      · rename_i heq
        rw [if_pos rfl, heq]
  | false =>
      obtain ⟨middle, hcomma, hmiddle⟩ := h
      rw [nextItem, skipBlanks_of_blanks_cons hcomma (by decide)]
      split
      · rename_i heq
        cases heq
      · rename_i heq
        cases heq
      · rename_i heq
        obtain ⟨rfl, rfl⟩ := List.cons.inj heq
        rw [if_neg Bool.false_ne_true, if_pos rfl, skipBlanks_of_blanks_cons hmiddle hc]
        split
        · rename_i heq
          cases heq
        · rename_i heq
          exact absurd (List.cons.inj heq).1 hne
        · rfl

theorem nextItem_eq_ok {first : Bool} {cs behind : List Char} {more : Bool}
    (h : nextItem first cs = .ok (more, behind)) :
    if more then Separates first cs behind
    else ∃ rest, behind = ']' :: rest ∧ Blanks cs behind := by
  unfold nextItem at h
  split at h
  · cases h
  · rename_i rest hskip
    obtain ⟨rfl, rfl⟩ := Prod.mk.inj (Except.ok.inj h)
    exact ⟨rest, rfl, blanks_of_skipBlanks hskip⟩
  · rename_i c rest _ hskip
    cases first with
    | true =>
        obtain ⟨rfl, rfl⟩ := Prod.mk.inj (Except.ok.inj h)
        exact blanks_of_skipBlanks hskip
    | false =>
        rw [if_neg (by decide)] at h
        split at h
        · rename_i hcomma
          split at h
          · cases h
          · cases h
          · rename_i heq
            obtain ⟨rfl, rfl⟩ := Prod.mk.inj (Except.ok.inj h)
            exact ⟨rest, hcomma ▸ blanks_of_skipBlanks hskip, blanks_skipBlanks rest⟩
        · cases h

theorem nextKey_done (first : Bool) {cs rest : List Char} (h : Blanks cs ('\x7d' :: rest)) :
    nextKey first cs = .ok (false, '\x7d' :: rest) := by
  rw [nextKey, skipBlanks_of_blanks_cons h (by decide)]
  rfl

theorem nextKey_entry {first : Bool} {cs rest : List Char} (h : Separates first cs ('"' :: rest)) :
    nextKey first cs = .ok (true, rest) := by
  cases first with
  | true =>
      rw [nextKey, skipBlanks_of_blanks_cons h (by decide)]
      rfl
  | false =>
      obtain ⟨behind, hcomma, hquote⟩ := h
      rw [nextKey, skipBlanks_of_blanks_cons hcomma (by decide)]
      split
      · rename_i heq
        cases heq
      · rename_i heq
        cases heq
      · rename_i heq
        obtain ⟨rfl, rfl⟩ := List.cons.inj heq
        rw [if_neg Bool.false_ne_true, if_pos rfl, skipBlanks_of_blanks_cons hquote (by decide)]
        rfl

theorem nextKey_eq_ok {first : Bool} {cs behind : List Char} {more : Bool}
    (h : nextKey first cs = .ok (more, behind)) :
    if more then Separates first cs ('"' :: behind)
    else ∃ rest, behind = '\x7d' :: rest ∧ Blanks cs behind := by
  unfold nextKey at h
  split at h
  · cases h
  · rename_i rest hskip
    obtain ⟨rfl, rfl⟩ := Prod.mk.inj (Except.ok.inj h)
    exact ⟨rest, rfl, blanks_of_skipBlanks hskip⟩
  · rename_i c rest _ hskip
    cases first with
    | true =>
        rw [if_pos rfl] at h
        split at h
        · rename_i hquote
          obtain ⟨rfl, rfl⟩ := Prod.mk.inj (Except.ok.inj h)
          exact hquote ▸ blanks_of_skipBlanks hskip
        · cases h
    | false =>
        rw [if_neg (by decide)] at h
        split at h
        · rename_i hcomma
          split at h
          · rename_i heq
            obtain ⟨rfl, rfl⟩ := Prod.mk.inj (Except.ok.inj h)
            exact ⟨rest, hcomma ▸ blanks_of_skipBlanks hskip, blanks_of_skipBlanks heq⟩
          · cases h
          · cases h
          · cases h
        · cases h

theorem readColon_eq_ok_iff {cs rest : List Char} {u : Unit} :
    readColon cs = .ok (u, rest) ↔ Blanks cs (':' :: rest) := by
  constructor
  · intro h
    unfold readColon at h
    split at h
    · rename_i hskip
      obtain ⟨-, rfl⟩ := Prod.mk.inj (Except.ok.inj h)
      exact blanks_of_skipBlanks hskip
    · cases h
    · cases h
  · intro h
    rw [readColon, skipBlanks_of_blanks_cons h (by decide)]
    rfl

theorem spells_of_readNumber {negative : Bool} {cs rest : List Char} {n : Number}
    (h : readNumber negative cs = .ok (n, rest)) (depth : Nat) :
    ∃ t, Spells t ((if negative then ['-'] else []) ++ cs) rest ∧ Means depth t (.number n) := by
  obtain ⟨l, hl, rfl, rfl, -, hn⟩ := readNumber_eq_ok_iff.mp h
  refine ⟨.number l, ?_, ?_⟩
  · rw [← List.append_assoc]
    exact .number hl
  · rw [Means]
    exact ⟨n, hn, rfl⟩

def ValuesSpelled (fuel : Nat) : Prop :=
  ∀ {depth : Nat} {cs rest : List Char} {v : Value}, readValue fuel (depth + 1) cs = .ok (v, rest) →
    ∃ t start, Blanks cs start ∧ Spells t start rest ∧ Means depth t v

def ItemsSpelled (fuel : Nat) : Prop :=
  ∀ {depth : Nat} {first : Bool} {cs rest : List Char} {vs : List Value},
    readItems fuel (depth + 1) first cs = .ok (vs, rest) →
    ∃ items, SpellsItems first items cs rest ∧ List.Forall₂ (Means depth) items vs

def EntriesSpelled (fuel : Nat) : Prop :=
  ∀ {depth : Nat} {first : Bool} {cs rest : List Char} {es : List (String × Value)},
    readEntries fuel (depth + 1) first cs = .ok (es, rest) →
    ∃ entries, SpellsEntries first entries cs rest ∧
      List.Forall₂ (fun m e => Says m.1 e.1.toList ∧ Means depth m.2 e.2) entries es

theorem itemsSpelled_succ {fuel : Nat} (hvalue : ValuesSpelled fuel) (hitems : ItemsSpelled fuel) :
    ItemsSpelled (fuel + 1) := by
  intro depth first cs rest vs h
  rw [readItems] at h
  obtain ⟨⟨more, inside⟩, hnext, hmore⟩ := bind_eq_ok_iff.mp h
  have hinside := nextItem_eq_ok hnext
  cases more with
  | true =>
      obtain ⟨⟨v, behind⟩, hv, hrest⟩ := bind_eq_ok_iff.mp hmore
      obtain ⟨⟨vs', rest'⟩, hvs, hend⟩ := bind_eq_ok_iff.mp hrest
      obtain ⟨rfl, rfl⟩ := return_eq_ok_iff.mp hend
      obtain ⟨t, start, hstart, ht, hmeans⟩ := hvalue hv
      obtain ⟨items, hitems, hall⟩ := hitems hvs
      exact ⟨t :: items, .item (hinside.blanks hstart) ht hitems, .cons hmeans hall⟩
  | false =>
      obtain ⟨after, rfl, hblanks⟩ := hinside
      obtain ⟨rfl, rfl⟩ := return_eq_ok_iff.mp hmore
      exact ⟨[], .done hblanks, .nil⟩

theorem entriesSpelled_succ {fuel : Nat} (hvalue : ValuesSpelled fuel)
    (hentries : EntriesSpelled fuel) : EntriesSpelled (fuel + 1) := by
  intro depth first cs rest es h
  rw [readEntries] at h
  obtain ⟨⟨more, inside⟩, hnext, hmore⟩ := bind_eq_ok_iff.mp h
  have hinside := nextKey_eq_ok hnext
  cases more with
  | true =>
      obtain ⟨⟨key, behindKey⟩, hkey, hcolon⟩ := bind_eq_ok_iff.mp hmore
      obtain ⟨⟨_, value⟩, hvalues, hv⟩ := bind_eq_ok_iff.mp hcolon
      obtain ⟨⟨v, behind⟩, hread, hrest⟩ := bind_eq_ok_iff.mp hv
      obtain ⟨⟨es', rest'⟩, hes, hend⟩ := bind_eq_ok_iff.mp hrest
      obtain ⟨rfl, rfl⟩ := return_eq_ok_iff.mp hend
      obtain ⟨ps, rfl, hsaid⟩ := readText_eq_ok_iff.mp hkey
      obtain ⟨t, start, hstart, ht, hmeans⟩ := hvalue hread
      obtain ⟨entries, hentries, hall⟩ := hentries hes
      exact ⟨(ps, t) :: entries, .entry hinside hsaid.wellFormed (readColon_eq_ok_iff.mp hvalues)
        hstart ht hentries, .cons ⟨hsaid, hmeans⟩ hall⟩
  | false =>
      obtain ⟨after, rfl, hblanks⟩ := hinside
      obtain ⟨rfl, rfl⟩ := return_eq_ok_iff.mp hmore
      exact ⟨[], .done hblanks, .nil⟩

theorem valuesSpelled_succ {fuel : Nat} (hitems : ItemsSpelled fuel)
    (hentries : EntriesSpelled fuel) : ValuesSpelled (fuel + 1) := by
  intro depth cs rest v h
  rw [readValue] at h
  split at h
  · cases h
  · rename_i behind hskip
    obtain ⟨⟨_, behind'⟩, hword, hend⟩ := bind_eq_ok_iff.mp h
    obtain ⟨rfl, rfl⟩ := return_eq_ok_iff.mp hend
    rw [readWord_eq_ok_iff.mp hword] at hskip
    exact ⟨.null, _, blanks_of_skipBlanks hskip, .null, by rw [Means]⟩
  · rename_i behind hskip
    obtain ⟨⟨_, behind'⟩, hword, hend⟩ := bind_eq_ok_iff.mp h
    obtain ⟨rfl, rfl⟩ := return_eq_ok_iff.mp hend
    rw [readWord_eq_ok_iff.mp hword] at hskip
    exact ⟨.boolean true, _, blanks_of_skipBlanks hskip, .yes, by rw [Means]⟩
  · rename_i behind hskip
    obtain ⟨⟨_, behind'⟩, hword, hend⟩ := bind_eq_ok_iff.mp h
    obtain ⟨rfl, rfl⟩ := return_eq_ok_iff.mp hend
    rw [readWord_eq_ok_iff.mp hword] at hskip
    exact ⟨.boolean false, _, blanks_of_skipBlanks hskip, .no, by rw [Means]⟩
  · rename_i behind hskip
    obtain ⟨⟨n, behind'⟩, hnumber, hend⟩ := bind_eq_ok_iff.mp h
    obtain ⟨rfl, rfl⟩ := return_eq_ok_iff.mp hend
    obtain ⟨t, ht, hmeans⟩ := spells_of_readNumber hnumber depth
    exact ⟨t, _, blanks_of_skipBlanks hskip, ht, hmeans⟩
  · rename_i behind hskip
    obtain ⟨⟨s, behind'⟩, htext, hend⟩ := bind_eq_ok_iff.mp h
    obtain ⟨rfl, rfl⟩ := return_eq_ok_iff.mp hend
    obtain ⟨ps, rfl, hsaid⟩ := readText_eq_ok_iff.mp htext
    refine ⟨.text ps, _, blanks_of_skipBlanks hskip, .text hsaid.wellFormed, ?_⟩
    rw [Means]
    exact ⟨s, hsaid, rfl⟩
  · rename_i behind hskip
    rcases depth with _ | depth
    · cases h
    · rw [if_neg (by omega)] at h
      obtain ⟨⟨items, behind'⟩, hread, hend⟩ := bind_eq_ok_iff.mp h
      obtain ⟨rfl, rfl⟩ := return_eq_ok_iff.mp hend
      obtain ⟨ts, hts, hall⟩ := hitems hread
      refine ⟨.array ts, _, blanks_of_skipBlanks hskip, .array hts, ?_⟩
      rw [Means]
      exact ⟨items, hall, rfl⟩
  · rename_i behind hskip
    rcases depth with _ | depth
    · cases h
    · rw [if_neg (by omega)] at h
      obtain ⟨⟨entries, behind'⟩, hread, hend⟩ := bind_eq_ok_iff.mp h
      obtain ⟨rfl, rfl⟩ := return_eq_ok_iff.mp hend
      obtain ⟨ts, hts, hall⟩ := hentries hread
      refine ⟨.object ts, _, blanks_of_skipBlanks hskip, .object hts, ?_⟩
      rw [Means]
      exact ⟨entries, hall, rfl⟩
  · rename_i c behind _ _ _ _ _ _ _ hskip
    split at h
    · obtain ⟨⟨n, behind'⟩, hnumber, hend⟩ := bind_eq_ok_iff.mp h
      obtain ⟨rfl, rfl⟩ := return_eq_ok_iff.mp hend
      obtain ⟨t, ht, hmeans⟩ := spells_of_readNumber hnumber depth
      exact ⟨t, _, blanks_of_skipBlanks hskip, ht, hmeans⟩
    · cases h

theorem spelled_of_read (fuel : Nat) :
    ValuesSpelled fuel ∧ ItemsSpelled fuel ∧ EntriesSpelled fuel := by
  induction fuel with
  | zero => exact ⟨nofun, nofun, nofun⟩
  | succ fuel ih =>
      obtain ⟨hvalue, hitems, hentries⟩ := ih
      exact ⟨valuesSpelled_succ hitems hentries, itemsSpelled_succ hvalue hitems,
        entriesSpelled_succ hvalue hentries⟩

theorem Delimits.cons {c : Char} (hc : isDigit c = false ∧ c ≠ '.' ∧ c ≠ 'e' ∧ c ≠ 'E')
    (rest : List Char) : Delimits (c :: rest) := by
  intro d hd
  obtain rfl := Option.mem_some_iff.mp hd
  exact hc

theorem Blanks.delimits {cs rest : List Char} (h : Blanks cs rest) (hrest : Delimits rest) :
    Delimits cs := by
  obtain ⟨blanks, rfl, hblanks⟩ := h
  rcases blanks with _ | ⟨c, blanks⟩
  · exact hrest
  · have hc : isBlank c = true := hblanks c (List.mem_cons_self ..)
    simp only [isBlank, Bool.or_eq_true, decide_eq_true_eq] at hc
    refine .cons ?_ _
    rcases hc with ((rfl | rfl) | rfl) | rfl <;> decide

theorem SpellsItems.delimits {items : List Term} {cs rest : List Char}
    (h : SpellsItems false items cs rest) : Delimits cs := by
  cases h with
  | done hend => exact hend.delimits (.cons (by decide) _)
  | item hstart ht hmore =>
      obtain ⟨behind, hcomma, -⟩ := hstart
      exact hcomma.delimits (.cons (by decide) _)

theorem SpellsEntries.delimits {entries : List (List Piece × Term)} {cs rest : List Char}
    (h : SpellsEntries false entries cs rest) : Delimits cs := by
  cases h with
  | done hend => exact hend.delimits (.cons (by decide) _)
  | entry hstart =>
      obtain ⟨behind, hcomma, -⟩ := hstart
      exact hcomma.delimits (.cons (by decide) _)

theorem isBlank_of_isDigit {c : Char} (h : isDigit c = true) : isBlank c = false := by
  rw [Bool.eq_false_iff]
  intro hc
  simp only [isBlank, Bool.or_eq_true, decide_eq_true_eq] at hc
  rcases hc with ((rfl | rfl) | rfl) | rfl <;> exact absurd h (by decide)

theorem Spells.begins {t : Term} {cs rest : List Char} (h : Spells t cs rest) : Begins ']' cs := by
  cases h with
  | null | yes | no | text | array | object => exact ⟨_, _, rfl, by decide, by decide⟩
  | number hl =>
      obtain ⟨c, text, htext, hc⟩ := hl.text_cons
      refine ⟨c, text ++ rest, by rw [htext]; rfl, ?_⟩
      rcases hc with rfl | hc
      · decide
      · refine ⟨isBlank_of_isDigit hc, ?_⟩
        rintro rfl
        exact absurd hc (by decide)

theorem Begins.not_blank {close : Char} {cs : List Char} (h : Begins close cs) :
    ∀ c ∈ cs.head?, isBlank c = false := by
  obtain ⟨c, rest, rfl, hc, -⟩ := h
  intro d hd
  obtain rfl := Option.mem_some_iff.mp hd
  exact hc

theorem readValue_of_blanks {cs rest : List Char} (h : Blanks cs rest)
    (hrest : Begins ']' rest) (fuel depth : Nat) :
    readValue (fuel + 1) depth cs = readValue (fuel + 1) depth rest := by
  have hskip : skipBlanks cs = skipBlanks rest := by
    rw [skipBlanks_of_blanks h hrest.not_blank, skipBlanks_of_blanks (blanks_refl rest)
      hrest.not_blank]
  rw [readValue, readValue, hskip]

theorem readValue_of_minus (cs : List Char) (fuel depth : Nat) :
    readValue (fuel + 1) depth ('-' :: cs) =
      readNumber true cs >>= fun found => .ok (.number found.1, found.2) := by
  rw [readValue, skipBlanks_of_blanks_cons (blanks_refl _) (by decide)]
  rfl

theorem readValue_of_digit {c : Char} (hc : isDigit c = true) (cs : List Char)
    (fuel depth : Nat) :
    readValue (fuel + 1) depth (c :: cs) =
      readNumber false (c :: cs) >>= fun found => .ok (.number found.1, found.2) := by
  rw [readValue, skipBlanks_of_blanks_cons (blanks_refl _) (isBlank_of_isDigit hc)]
  split
  · rename_i heq
    cases heq
  iterate 7
    · rename_i heq
      obtain ⟨rfl, -⟩ := List.cons.inj heq
      exact absurd hc (by decide)
  · rename_i heq
    obtain ⟨rfl, rfl⟩ := List.cons.inj heq
    rw [if_pos hc]
    rfl

theorem readValue_of_literal {l : Literal} {n : Number} {rest : List Char} (hl : l.WellFormed)
    (hn : l.number? = some n) (hrest : Delimits rest) (fuel depth : Nat) :
    readValue (fuel + 1) depth (l.text ++ rest) = .ok (.number n, rest) := by
  have hread : readNumber l.negative (l.unsigned ++ rest) = .ok (n, rest) :=
    readNumber_eq_ok_iff.mpr ⟨l, hl, rfl, rfl, l.ends_of_delimits hrest, hn⟩
  rcases hnegative : l.negative with _ | _
  · obtain ⟨c, ds, hds⟩ := List.exists_cons_of_ne_nil hl.nonempty
    have hc : isDigit c = true := hl.whole c (by simp [hds])
    have htext : l.text ++ rest = l.unsigned ++ rest := by simp [Literal.text, hnegative]
    have hunsigned : ∃ cs, l.unsigned ++ rest = c :: cs := by simp [Literal.unsigned, hds]
    obtain ⟨cs, hcs⟩ := hunsigned
    rw [hnegative, hcs] at hread
    rw [htext, hcs, readValue_of_digit hc, hread]
    rfl
  · have htext : l.text ++ rest = '-' :: (l.unsigned ++ rest) := by
      simp [Literal.text, hnegative]
    rw [hnegative] at hread
    rw [htext, readValue_of_minus, hread]
    rfl

mutual

theorem Spells.readValue_eq {t : Term} {cs rest : List Char} (h : Spells t cs rest) {depth : Nat}
    {v : Value} (hmeans : Means depth t v) (hrest : Delimits rest) {fuel : Nat}
    (hfuel : 2 * cs.length ≤ fuel + 2 * rest.length) :
    readValue fuel (depth + 1) cs = .ok (v, rest) := by
  have hlength := h.length_lt
  obtain ⟨fuel, rfl⟩ : ∃ k, fuel = k + 1 := ⟨fuel - 1, by omega⟩
  cases h with
  | null =>
      rw [Means] at hmeans
      rw [readValue, skipBlanks_of_blanks_cons (blanks_refl _) (by decide), hmeans]
      rfl
  | yes =>
      rw [Means] at hmeans
      rw [readValue, skipBlanks_of_blanks_cons (blanks_refl _) (by decide), hmeans]
      rfl
  | no =>
      rw [Means] at hmeans
      rw [readValue, skipBlanks_of_blanks_cons (blanks_refl _) (by decide), hmeans]
      rfl
  | number hl =>
      rw [Means] at hmeans
      obtain ⟨n, hn, rfl⟩ := hmeans
      exact readValue_of_literal hl hn hrest fuel (depth + 1)
  | text hps =>
      rw [Means] at hmeans
      obtain ⟨s, hs, rfl⟩ := hmeans
      rw [readValue, skipBlanks_of_blanks_cons (blanks_refl _) (by decide)]
      show (readText _ >>= fun found => Except.ok (Value.text found.1, found.2)) = _
      rw [readText_eq_ok_iff.mpr ⟨_, rfl, hs⟩]
      rfl
  | array hitems =>
      rcases depth with _ | depth
      · rw [Means] at hmeans
        exact hmeans.elim
      · rw [Means] at hmeans
        obtain ⟨vs, hvs, rfl⟩ := hmeans
        rw [readValue, skipBlanks_of_blanks_cons (blanks_refl _) (by decide)]
        simp only [List.length_cons] at hfuel
        show (readItems fuel (depth + 1) true _ >>=
          fun found => Except.ok (Value.array found.1, found.2)) = _
        rw [hitems.readItems_eq hvs hrest (by omega)]
        rfl
  | object hentries =>
      rcases depth with _ | depth
      · rw [Means] at hmeans
        exact hmeans.elim
      · rw [Means] at hmeans
        obtain ⟨es, hes, rfl⟩ := hmeans
        rw [readValue, skipBlanks_of_blanks_cons (blanks_refl _) (by decide)]
        simp only [List.length_cons] at hfuel
        show (readEntries fuel (depth + 1) true _ >>=
          fun found => Except.ok (Value.ofEntries found.1, found.2)) = _
        rw [hentries.readEntries_eq hes hrest (by omega)]
        rfl

theorem SpellsItems.readItems_eq {first : Bool} {items : List Term} {cs rest : List Char}
    (h : SpellsItems first items cs rest) {depth : Nat} {vs : List Value}
    (hmeans : List.Forall₂ (Means depth) items vs) (hrest : Delimits rest) {fuel : Nat}
    (hfuel : 2 * cs.length ≤ fuel + 2 * rest.length) :
    readItems fuel (depth + 1) first cs = .ok (vs, rest) := by
  have hlength := h.length_lt
  obtain ⟨fuel, rfl⟩ : ∃ k, fuel = k + 1 := ⟨fuel - 1, by omega⟩
  cases h with
  | done hend =>
      obtain rfl := List.forall₂_nil_left_iff.mp hmeans
      rw [readItems, nextItem_done first hend]
      rfl
  | item hstart ht hmore =>
      obtain ⟨v, vs, hv, hvs, rfl⟩ := List.forall₂_cons_left_iff.mp hmeans
      have h1 := hstart.length_le
      have h2 := ht.length_lt
      have h3 := hmore.length_lt
      rw [readItems, nextItem_item hstart ht.begins]
      show (readValue fuel (depth + 1) _ >>= fun found =>
        readItems fuel (depth + 1) false found.2 >>= fun more =>
          Except.ok (found.1 :: more.1, more.2)) = _
      rw [ht.readValue_eq hv hmore.delimits (by omega), ok_bind,
        hmore.readItems_eq hvs hrest (by omega)]
      rfl

theorem SpellsEntries.readEntries_eq {first : Bool} {entries : List (List Piece × Term)}
    {cs rest : List Char} (h : SpellsEntries first entries cs rest) {depth : Nat}
    {es : List (String × Value)}
    (hmeans : List.Forall₂ (fun m e => Says m.1 e.1.toList ∧ Means depth m.2 e.2) entries es)
    (hrest : Delimits rest) {fuel : Nat} (hfuel : 2 * cs.length ≤ fuel + 2 * rest.length) :
    readEntries fuel (depth + 1) first cs = .ok (es, rest) := by
  have hlength := h.length_lt
  obtain ⟨fuel, rfl⟩ : ∃ k, fuel = k + 1 := ⟨fuel - 1, by omega⟩
  cases h with
  | done hend =>
      obtain rfl := List.forall₂_nil_left_iff.mp hmeans
      rw [readEntries, nextKey_done first hend]
      rfl
  | entry hstart _ hcolon hvalue ht hmore =>
      obtain ⟨⟨key, v⟩, es, ⟨hkey, hv⟩, hes, rfl⟩ := List.forall₂_cons_left_iff.mp hmeans
      have h1 := hstart.length_le
      have h2 := hcolon.length_le
      have h3 := hvalue.length_le
      have h4 := ht.length_lt
      have h5 := hmore.length_lt
      simp only [List.length_cons, List.length_append] at h1 h2
      obtain ⟨fuel, rfl⟩ : ∃ k, fuel = k + 1 := ⟨fuel - 1, by omega⟩
      rw [readEntries, nextKey_entry hstart]
      show (readText _ >>= fun text => readColon text.2 >>= fun colon =>
        readValue (fuel + 1) (depth + 1) colon.2 >>= fun found =>
          readEntries (fuel + 1) (depth + 1) false found.2 >>= fun more =>
            Except.ok ((text.1, found.1) :: more.1, more.2)) = _
      rw [readText_eq_ok_iff.mpr ⟨_, rfl, hkey⟩, ok_bind,
        readColon_eq_ok_iff (u := ()) |>.mpr hcolon,
        ok_bind, readValue_of_blanks hvalue ht.begins, ht.readValue_eq hv hmore.delimits (by omega),
        ok_bind, hmore.readEntries_eq hes hrest (by omega)]
      rfl

end

/-- A text stands for a value: it consists of a term that means the value. -/
def Denotes (text : String) (v : Value) : Prop :=
  ∃ t, Document text t ∧ Means (depthLimit - 1) t v

theorem readAll_eq_ok_iff {α : Type} {read : List Char → Except Fault (Parsed α)} {text : String}
    {a : α} :
    readAll read text = .ok a ↔ ∃ rest, read text.toList = .ok (a, rest) ∧ Blanks rest [] := by
  simp only [readAll]
  rcases read text.toList with fault | ⟨b, rest⟩
  · exact ⟨nofun, nofun⟩
  · dsimp only
    constructor
    · intro h
      split at h
      · rename_i hskip
        rw [← Except.ok.inj h]
        exact ⟨rest, rfl, blanks_of_skipBlanks hskip⟩
      · cases h
    · rintro ⟨rest', hfound, hblanks⟩
      obtain ⟨rfl, rfl⟩ := Prod.mk.inj (Except.ok.inj hfound)
      rw [skipBlanks_of_blanks hblanks nofun]

theorem readValue_eq_ok_iff {cs rest : List Char} {v : Value} (hrest : Delimits rest) :
    readValue (stepsFor cs) depthLimit cs = .ok (v, rest) ↔
      ∃ t start, Blanks cs start ∧ Spells t start rest ∧ Means (depthLimit - 1) t v := by
  constructor
  · exact (spelled_of_read _).1
  · rintro ⟨t, start, hstart, ht, hmeans⟩
    have hle := hstart.length_le
    rw [stepsFor, readValue_of_blanks hstart ht.begins]
    exact ht.readValue_eq hmeans hrest (by omega)

theorem readObject_eq_ok_iff {cs rest : List Char} {entries : List (String × Value)}
    (hrest : Delimits rest) :
    readObject cs = .ok (entries, rest) ↔
      ∃ t start, Blanks cs start ∧ Spells t start rest ∧
        Means (depthLimit - 1) t (.object entries) := by
  constructor
  · intro h
    unfold readObject at h
    split at h
    · cases h
    · rename_i behind hskip
      obtain ⟨⟨es, rest'⟩, hes, hend⟩ := bind_eq_ok_iff.mp h
      obtain ⟨rfl, rfl⟩ := return_eq_ok_iff.mp hend
      obtain ⟨ms, hms, hall⟩ := (spelled_of_read _).2.2 hes
      refine ⟨.object ms, _, blanks_of_skipBlanks hskip, .object hms, ?_⟩
      rw [depthLimit, Means]
      exact ⟨es, hall, rfl⟩
    · cases h
  · rintro ⟨t, start, hstart, ht, hmeans⟩
    cases ht with
    | object hms =>
        rw [depthLimit, Means] at hmeans
        obtain ⟨es, hall, hentries⟩ := hmeans
        rw [readObject, skipBlanks_of_blanks_cons hstart (by decide)]
        show (readEntries _ 127 true _ >>= fun found => Except.ok
          (found.1.foldl (fun sorted e => insertEntry e.1 e.2 sorted) [], found.2)) = _
        rw [hms.readEntries_eq hall hrest (by rw [stepsFor]; omega), Value.object.inj hentries]
        rfl
    | null | yes | no =>
        rw [Means] at hmeans
        cases hmeans
    | number hl =>
        rw [Means] at hmeans
        obtain ⟨n, -, hn⟩ := hmeans
        cases hn
    | text hps =>
        rw [Means] at hmeans
        obtain ⟨s, -, hs⟩ := hmeans
        cases hs
    | array hitems =>
        rw [depthLimit, Means] at hmeans
        obtain ⟨vs, -, hvs⟩ := hmeans
        cases hvs

theorem Blanks.delimits_nil {rest : List Char} (h : Blanks rest []) : Delimits rest :=
  h.delimits nofun

/-- The reader of values finds just the values of the terms that a text consists of. -/
theorem parse_eq_ok_iff {text : String} {v : Value} : parse text = .ok v ↔ Denotes text v := by
  rw [parse, readAll_eq_ok_iff]
  constructor
  · rintro ⟨rest, hread, hrest⟩
    obtain ⟨t, start, hstart, ht, hmeans⟩ := (readValue_eq_ok_iff hrest.delimits_nil).mp hread
    exact ⟨t, ⟨start, rest, hstart, ht, hrest⟩, hmeans⟩
  · rintro ⟨t, ⟨start, rest, hstart, ht, hrest⟩, hmeans⟩
    exact ⟨rest, (readValue_eq_ok_iff hrest.delimits_nil).mpr ⟨t, start, hstart, ht, hmeans⟩, hrest⟩

theorem parseObject_eq_ok_iff {text : String} {entries : List (String × Value)} :
    parseObject text = .ok entries ↔ Denotes text (.object entries) := by
  rw [parseObject, readAll_eq_ok_iff]
  constructor
  · rintro ⟨rest, hread, hrest⟩
    obtain ⟨t, start, hstart, ht, hmeans⟩ := (readObject_eq_ok_iff hrest.delimits_nil).mp hread
    exact ⟨t, ⟨start, rest, hstart, ht, hrest⟩, hmeans⟩
  · rintro ⟨t, ⟨start, rest, hstart, ht, hrest⟩, hmeans⟩
    exact ⟨rest, (readObject_eq_ok_iff hrest.delimits_nil).mpr ⟨t, start, hstart, ht, hmeans⟩,
      hrest⟩

theorem Denotes.unique {text : String} {v v' : Value} (h : Denotes text v) (h' : Denotes text v') :
    v = v' := by
  have hparse := parse_eq_ok_iff.mpr h
  rw [parse_eq_ok_iff.mpr h'] at hparse
  exact (Except.ok.inj hparse).symm

end RigidWorlds.Json
