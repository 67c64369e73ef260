import HeaderAbi.Proofs.Yaml.Place
import HeaderAbi.Yaml.Scalar
import Mathlib.Algebra.Group.Nat.Defs

/-!
# Quoted scalars are read back

**A text in single or double quotes is read as the text it writes** (`Quoted.quoted?`).  Both styles
are instances of one relation, `Quoted`, between a text and what is written for it: characters that
stand for themselves or are escaped, blanks, and the line breaks that single quotes may hold, with
the indentation behind them.  `quoted_double` and `quoted_single` say that the printer's texts are
of this form.
-/

namespace HeaderAbi.Yaml

open Data

/-! ### Characters in double quotes -/

theorem digit?_hexDigit_toUpper {n : Nat} (h : n < 16) :
    digit? 16 (Json.hexDigit n).toUpper = some n := by
  revert n
  decide

theorem length_hexDigits (w n : Nat) : (hexDigits w n).length = w := by
  induction w generalizing n with
  | zero => rfl
  | succ w ih => rw [hexDigits, List.length_append, ih, List.length_singleton]

/-- The digits of an escape, when more follow. -/
theorem doubleWord?_hexDigits {word cs : List Char} : ∀ {w n m v : Nat} {p : Place}, n < 16 ^ w →
    doubleWord? p word (some ⟨v, w + (m + 1)⟩) (hexDigits w n ++ cs) =
      doubleWord? (p.right w) word (some ⟨v * 16 ^ w + n, m + 1⟩) cs
  | 0, n, m, v, p, h => by
    obtain rfl : n = 0 := by simpa using h
    simp [hexDigits, Place.right_zero]
  | w + 1, n, m, v, p, h => by
    have hdiv : n / 16 < 16 ^ w := by
      rw [Nat.div_lt_iff_lt_mul (by decide), ← Nat.pow_succ]
      exact h
    have hdigit := digit?_hexDigit_toUpper (Nat.mod_lt n (by decide : 0 < 16))
    have hvalue : (v * 16 ^ w + n / 16) * 16 + n % 16 = v * 16 ^ (w + 1) + n := by
      rw [Nat.pow_succ, ← Nat.mul_assoc]
      omega
    have hmissing : w + 1 + (m + 1) = w + (m + 1 + 1) := by omega
    have hmore : 1 < m + 1 + 1 := by omega
    rw [hexDigits, List.append_assoc, hmissing, doubleWord?_hexDigits hdiv, List.singleton_append,
      doubleWord?, hdigit]
    simp only [Option.bind_eq_bind, Option.bind_some, hvalue, hmore, if_true,
      Nat.add_sub_cancel]
    rfl

theorem isValidChar_toNat (c : Char) : c.toNat.isValidChar := c.valid

/-- An escape of hexadecimal digits stands for the character of that number. -/
theorem doubleWord?_escape {x : Char} {w : Nat} {c : Char} (hx : hexWidth? x = some (w + 1))
    (hbreak : isBreak x = false) (hc : c.toNat < 16 ^ (w + 1)) {p : Place} {word cs : List Char} :
    doubleWord? p word none (['\\', x] ++ hexDigits (w + 1) c.toNat ++ cs) =
      doubleWord? (p.right (['\\', x] ++ hexDigits (w + 1) c.toNat).length) (c :: word) none
        cs := by
  have hdiv : c.toNat / 16 < 16 ^ w := by
    rw [Nat.div_lt_iff_lt_mul (by decide), ← Nat.pow_succ]
    exact hc
  have hdigit := digit?_hexDigit_toUpper (Nat.mod_lt c.toNat (by decide : 0 < 16))
  have hvalue : (0 * 16 ^ w + c.toNat / 16) * 16 + c.toNat % 16 = c.toNat := by omega
  have hopen : ∀ ds, doubleWord? p word none ('\\' :: x :: ds) =
      doubleWord? (p.right 2) word (some ⟨0, w + 1⟩) ds := by
    intro ds
    rw [doubleWord?.eq_def]
    simp [isBlank, hbreak, hx]
    rfl
  have hlast : ∀ q, doubleWord? q word (some ⟨0 * 16 ^ w + c.toNat / 16, 1⟩)
      ((Json.hexDigit (c.toNat % 16)).toUpper :: cs) = doubleWord? q.next (c :: word) none cs := by
    intro q
    rw [doubleWord?]
    simp only [hdigit, hvalue, Option.bind_eq_bind, Option.bind_some, Nat.lt_irrefl, if_false,
      isValidChar_toNat, if_true, Char.ofNat_toNat]
  have hlength : (['\\', x] ++ hexDigits (w + 1) c.toNat).length = w + 3 := by
    rw [List.length_append, length_hexDigits]
    simp
    omega
  rw [hlength, List.append_assoc]
  simp only [List.cons_append, List.nil_append, hopen]
  rw [hexDigits, List.append_assoc, doubleWord?_hexDigits hdiv, List.singleton_append, hlast,
    Place.next_eq_right, Place.right_right, Place.right_right]
  congr 2
  omega

theorem doubleWord?_plain {c : Char} (hblank : isBlank c = false) (hbreak : isBreak c = false)
    (hquote : c ≠ '"') (hslash : c ≠ '\\') {p : Place} {word cs : List Char} :
    doubleWord? p word none (c :: cs) = doubleWord? p.next (c :: word) none cs := by
  rw [doubleWord?.eq_def]
  simp [hblank, hbreak, hquote, hslash]

/-- **A character in double quotes is read back**, unless it is a space. -/
theorem doubleWord?_doubleChar {c : Char} (h : c ≠ ' ') {p : Place} {word cs : List Char} :
    doubleWord? p word none (doubleChar c ++ cs) =
      doubleWord? (p.right (doubleChar c).length) (c :: word) none cs := by
  unfold doubleChar
  split
  · next h => obtain rfl := beq_iff_eq.1 h; rfl
  split
  · next h => obtain rfl := beq_iff_eq.1 h; rfl
  split
  · next hquote hslash hprint =>
    rw [Bool.and_eq_true, Bool.not_eq_true'] at hprint
    have hblank : isBlank c = false := by
      simp only [isBlank, Bool.or_eq_false_iff, beq_eq_false_iff_ne]
      refine ⟨h, ?_⟩
      rintro rfl
      exact absurd hprint.1 (by decide)
    exact doubleWord?_plain hblank hprint.2 (by simpa using hquote) (by simpa using hslash)
  · split
    all_goals first | rfl | skip
    simp only
    split
    · next hn => exact doubleWord?_escape rfl rfl (Nat.lt_succ_of_le hn)
    split
    · next hn => exact doubleWord?_escape rfl rfl (Nat.lt_succ_of_le hn)
    · have hlt : c.toNat < 16 ^ (7 + 1) := by
        have := isValidChar_toNat c
        simp only [Nat.isValidChar] at this
        omega
      exact doubleWord?_escape rfl rfl hlt

/-! ### Words and gaps -/

/-- The word inside quotes at the start of some characters. -/
def quotedWord? (isDouble : Bool) (p : Place) (done cs : List Char) :
    Option (List Char × QuotedEnd × Cursor) :=
  if isDouble then doubleWord? p done none cs else singleWord? p done cs

/-- The text goes on behind a gap. -/
def resume? (isDouble : Bool) (fuel : Nat) (done : List Char) (g : Gap × Cursor) :
    Option (List Char × Cursor) :=
  quotedFrom? isDouble fuel (g.1.fold.reverse ++ done) g.2

/-- The text goes on behind a word, with what ended it. -/
def afterWord? (isDouble : Bool) (fuel : Nat) (done : List Char) :
    List Char × QuotedEnd × Cursor → Option (List Char × Cursor)
  | (word, .quote, cursor) => some ((word ++ done).reverse, cursor)
  | (word, .gap, cursor) => resume? isDouble fuel (word ++ done) (Gap.scan 0 cursor)
  | (word, .escapedBreak, cursor) =>
    let (gap, cursor) := Gap.scanFrom 0 { breaks := [' '] } cursor.place cursor.rest
    quotedFrom? isDouble fuel (gap.breaks.dropLast ++ (word ++ done)) cursor

theorem quotedFrom?_succ (isDouble : Bool) (fuel : Nat) (done : List Char) {c : Cursor}
    (h : c.place.column ≠ 0) :
    quotedFrom? isDouble (fuel + 1) done c =
      (quotedWord? isDouble c.place [] c.rest).bind (afterWord? isDouble fuel done) := by
  rw [quotedFrom?, Cursor.atMarker_of_column h, quotedWord?]
  cases isDouble
  all_goals
    simp only [Bool.false_eq_true, if_false, if_true, Option.bind_eq_bind]
    congr 1
    funext ⟨word, stop, cursor⟩
    cases stop <;> rfl

/-! ### Texts -/

/-- A character as it is written inside quotes. -/
structure Letter (isDouble : Bool) (c : Char) (x : List Char) : Prop where
  solid : Solid x
  ne_nil : x ≠ []
  printable : ∀ a ∈ x, isPrintable a = true
  read : ∀ p word cs, quotedWord? isDouble p word (x ++ cs) =
    quotedWord? isDouble (p.right x.length) (c :: word) cs

/-- `Quoted isDouble indent b cs xs` says that `xs` writes the text `cs` inside quotes.  After a
line break, which `b` tells, comes the indentation; blanks never touch a line break. -/
inductive Quoted (isDouble : Bool) (indent : Nat) : Bool → List Char → List Char → Prop
  | done (b : Bool) : Quoted isDouble indent b [] (if b then spaces indent else [])
  | letter {b : Bool} {c : Char} {x cs xs : List Char} (hc : Letter isDouble c x)
      (h : Quoted isDouble indent false cs xs) :
      Quoted isDouble indent b (c :: cs) ((if b then spaces indent else []) ++ (x ++ xs))
  | space {cs xs : List Char} (hnext : ∀ c ∈ xs.head?, isBreak c = false)
      (h : Quoted isDouble indent false cs xs) :
      Quoted isDouble indent false (' ' :: cs) (' ' :: xs)
  | lineBreak {b : Bool} {c : Char} {cs xs : List Char} (hc : c = '\u2028' ∨ c = '\u2029')
      (h : Quoted isDouble indent true cs xs) : Quoted isDouble indent b (c :: cs) (c :: xs)

/-- A gap that stands for the blanks and line breaks that were read.  Blanks never touch a line
break, and a single line feed would turn into a space. -/
structure Gap.Faithful (g : Gap) : Prop where
  apart : g.blanks = [] ∨ g.breaks = []
  separators : ∀ c ∈ g.breaks, c ≠ '\n'

theorem Gap.Faithful.fold {g : Gap} (h : g.Faithful) :
    g.fold = g.blanks.reverse ++ g.breaks.reverse := by
  obtain ⟨hapart, hsep⟩ := h
  have hmem : ∀ c ∈ g.breaks.reverse, c ≠ '\n' := fun c hc => hsep c (List.mem_reverse.1 hc)
  unfold Gap.fold
  split
  · next hbreaks => rw [hbreaks, List.append_nil]
  · next hbreaks => exact absurd rfl (hmem '\n' (by simp [hbreaks]))
  · next hbreaks => exact absurd rfl (hmem '\n' (by simp [hbreaks]))
  · next hbreaks _ _ =>
    have hblanks : g.blanks = [] := hapart.resolve_right fun h => hbreaks (by rw [h]; rfl)
    rw [hblanks]
    rfl

/-- The closing quote. -/
def quoteMark (isDouble : Bool) : Char :=
  if isDouble then '"' else '\''

/-- A quote ends the text, unless it is single and another one follows. -/
theorem quotedWord?_quoteMark {isDouble : Bool} {p : Place} {word rest : List Char}
    (h : rest.head? ≠ some '\'') :
    quotedWord? isDouble p word (quoteMark isDouble :: rest) =
      some (word, .quote, ⟨p.next, rest⟩) := by
  cases isDouble with
  | true =>
    change doubleWord? p word none ('"' :: rest) = _
    rw [doubleWord?.eq_def]
    rfl
  | false =>
    change singleWord? p word ('\'' :: rest) = _
    rw [singleWord?]
    · rfl
    · rintro rest' - rfl
      exact absurd rfl h

theorem solid_quoteMark (isDouble : Bool) (rest : List Char) :
    Solid (quoteMark isDouble :: rest) := by
  cases isDouble <;> exact solid_cons.2 ⟨rfl, rfl⟩

/-- A blank or a line break ends a word. -/
theorem quotedWord?_gap {isDouble : Bool} {p : Place} {c : Char} {word rest : List Char}
    (h : (isBlank c || isBreak c) = true) :
    quotedWord? isDouble p word (c :: rest) = some (word, .gap, ⟨p, c :: rest⟩) := by
  cases isDouble with
  | true =>
    change doubleWord? p word none (c :: rest) = _
    rw [doubleWord?.eq_def]
    simp [h]
  | false =>
    change singleWord? p word (c :: rest) = _
    rw [singleWord?.eq_def]
    split
    · next hc => cases hc
    · next hc => cases hc; exact absurd h (by decide)
    · next heq => cases heq; rw [if_pos h]

/-! ### Reading a quoted text -/

section Reading
variable {isDouble : Bool} {indent : Nat} {cs xs rest : List Char}

/-- Inside a word, the characters `xs` and a quote deliver the text `cs`. -/
def ReadsWord (isDouble : Bool) (rest cs xs : List Char) : Prop :=
  ∀ fuel done word p, cs.length ≤ fuel → p.column ≠ 0 → ∃ q,
    (quotedWord? isDouble p word (xs ++ quoteMark isDouble :: rest)).bind
      (afterWord? isDouble fuel done) = some (done.reverse ++ word.reverse ++ cs, ⟨q, rest⟩)

/-- Inside a gap, which has line breaks if `b`, the same; `n` words at most are still to come. -/
def ReadsGap (isDouble b : Bool) (n : Nat) (rest cs xs : List Char) : Prop :=
  ∀ fuel done g p, n ≤ fuel → g.Faithful → (g.breaks = [] ↔ b = false) →
    (g.blanks ≠ [] → ∀ c ∈ xs.head?, isBreak c = false) → (b = false → p.column ≠ 0) → ∃ q,
      resume? isDouble fuel done (Gap.scanFrom 0 g p (xs ++ quoteMark isDouble :: rest)) =
        some (done.reverse ++ (g.blanks.reverse ++ g.breaks.reverse) ++ cs, ⟨q, rest⟩)

theorem readsWord_done (hrest : rest.head? ≠ some '\'') : ReadsWord isDouble rest [] [] := by
  intro fuel done word p _ _
  refine ⟨p.next, ?_⟩
  rw [List.nil_append, quotedWord?_quoteMark hrest, Option.bind_some, afterWord?,
    List.reverse_append, List.append_nil]

theorem ReadsWord.letter {c : Char} {x : List Char} (hc : Letter isDouble c x)
    (h : ReadsWord isDouble rest cs xs) : ReadsWord isDouble rest (c :: cs) (x ++ xs) := by
  intro fuel done word p hfuel hp
  have hcolumn : (p.right x.length).column ≠ 0 := by
    change p.column + x.length ≠ 0
    omega
  obtain ⟨q, hq⟩ := h fuel done (c :: word) _ (Nat.le_of_succ_le hfuel) hcolumn
  refine ⟨q, ?_⟩
  rw [List.append_assoc, hc.read, hq]
  simp

/-- A word ends where a gap starts. -/
theorem ReadsGap.word {c : Char} (hc : (isBlank c || isBreak c) = true)
    (h : ReadsGap isDouble false (cs.length + 1) rest (c :: cs) (c :: xs)) :
    ReadsWord isDouble rest (c :: cs) (c :: xs) := by
  intro fuel done word p hfuel hp
  have hempty : Gap.Faithful {} := ⟨.inl rfl, by simp⟩
  obtain ⟨q, hq⟩ := h fuel (word ++ done) {} p hfuel hempty (by simp) (fun hne => absurd rfl hne)
    fun _ => hp
  refine ⟨q, ?_⟩
  rw [List.cons_append, quotedWord?_gap hc, Option.bind_some]
  change resume? isDouble fuel (word ++ done) (Gap.scanFrom 0 {} p _) = _
  rw [← List.cons_append, hq]
  simp

/-- A gap ends where a word starts; after a line break comes the indentation. -/
theorem ReadsWord.gap {b : Bool} (hindent : indent ≠ 0) (h : ReadsWord isDouble rest cs xs)
    (hsolid : Solid (xs ++ quoteMark isDouble :: rest)) :
    ReadsGap isDouble b (cs.length + 1) rest cs ((if b then spaces indent else []) ++ xs) := by
  intro fuel done g p hfuel hg hb hblanks hp
  obtain ⟨p', hcolumn, hscan⟩ : ∃ p' : Place, p'.column ≠ 0 ∧
      Gap.scanFrom 0 g p ((if b then spaces indent else []) ++ xs ++ quoteMark isDouble :: rest) =
        (g, ⟨p', xs ++ quoteMark isDouble :: rest⟩) := by
    cases b with
    | false => exact ⟨p, hp rfl, Gap.scanFrom_solid hsolid⟩
    | true =>
      have hbreaks : g.breaks ≠ [] := fun h => absurd (hb.1 h) (by decide)
      refine ⟨p.right indent, ?_, ?_⟩
      · change p.column + indent ≠ 0
        omega
      · rw [if_pos rfl, List.append_assoc, Gap.scanFrom_spaces hbreaks,
          Gap.scanFrom_solid hsolid]
  obtain ⟨fuel, rfl⟩ : ∃ f, fuel = f + 1 := ⟨fuel - 1, by omega⟩
  obtain ⟨q, hq⟩ := h fuel (g.fold.reverse ++ done) [] p' (Nat.le_of_succ_le_succ hfuel) hcolumn
  refine ⟨q, ?_⟩
  rw [hscan, resume?, quotedFrom?_succ isDouble fuel _ hcolumn, hq, hg.fold]
  simp

theorem ReadsGap.mono {b : Bool} {m n : Nat} (hmn : m ≤ n)
    (h : ReadsGap isDouble b m rest cs xs) : ReadsGap isDouble b n rest cs xs :=
  fun fuel done g p hfuel => h fuel done g p (Nat.le_trans hmn hfuel)

theorem ReadsGap.space {n : Nat} (hnext : ∀ c ∈ xs.head?, isBreak c = false)
    (h : ReadsGap isDouble false n rest cs xs) :
    ReadsGap isDouble false n rest (' ' :: cs) (' ' :: xs) := by
  intro fuel done g p hfuel hg hb hblanks hp
  have hbreaks : g.breaks = [] := hb.2 rfl
  have hg' : Gap.Faithful { g with blanks := ' ' :: g.blanks } := ⟨.inr hbreaks, hg.separators⟩
  have hcolumn : p.next.column ≠ 0 := Nat.succ_ne_zero _
  obtain ⟨q, hq⟩ := h fuel done { g with blanks := ' ' :: g.blanks } p.next
    hfuel hg' hb (fun _ => hnext) fun _ => hcolumn
  refine ⟨q, ?_⟩
  rw [List.cons_append, Gap.scanFrom_space hbreaks, hq]
  simp [hbreaks]

theorem ReadsGap.lineBreak {b : Bool} {n : Nat} {c : Char} (hc : c = '\u2028' ∨ c = '\u2029')
    (h : ReadsGap isDouble true n rest cs xs) : ReadsGap isDouble b n rest (c :: cs) (c :: xs) := by
  intro fuel done g p hfuel hg hb hblanks hp
  have hbreak : isBreak c = true := by obtain rfl | rfl := hc <;> decide
  have hvalue : breakValue c = c := by obtain rfl | rfl := hc <;> decide
  have hnone : g.blanks = [] := by
    by_cases hne : g.blanks = []
    · exact hne
    · exact absurd (hblanks hne c rfl) (by rw [hbreak]; decide)
  have hg' : Gap.Faithful { g with blanks := [], breaks := breakValue c :: g.breaks } := by
    refine ⟨.inl rfl, ?_⟩
    rw [hvalue]
    intro a ha
    obtain rfl | ha := List.mem_cons.1 ha
    · obtain rfl | rfl := hc <;> decide
    · exact hg.separators a ha
  obtain ⟨q, hq⟩ := h fuel done _ (p.nextLine 1) hfuel hg' (by simp)
    (fun hne => absurd rfl hne) nofun
  refine ⟨q, ?_⟩
  have hreturn : c ≠ '\x0d' := by obtain rfl | rfl := hc <;> decide
  have hblank : isBlank c = false := by obtain rfl | rfl := hc <;> decide
  rw [List.cons_append, Gap.scanFrom_break hbreak hreturn hblank, hq]
  simp [hnone, hvalue]

/-- **A text in quotes is read back**, in either state. -/
theorem Quoted.read (hindent : indent ≠ 0) (hrest : rest.head? ≠ some '\'') {b : Bool}
    (h : Quoted isDouble indent b cs xs) :
    ReadsGap isDouble b (cs.length + 1) rest cs xs ∧
      (b = false → ReadsWord isDouble rest cs xs) := by
  induction h with
  | done b =>
    have hword : ReadsWord isDouble rest [] [] := readsWord_done hrest
    have hgap := hword.gap (b := b) hindent (solid_quoteMark isDouble rest)
    rw [List.append_nil] at hgap
    refine ⟨hgap, ?_⟩
    rintro rfl
    exact hword
  | @letter b c x cs xs hc _ ih =>
    have hword : ReadsWord isDouble rest (c :: cs) (x ++ xs) := (ih.2 rfl).letter hc
    have hsolid : Solid (x ++ xs ++ quoteMark isDouble :: rest) := by
      rw [List.append_assoc]
      exact hc.solid.append hc.ne_nil
    refine ⟨hword.gap hindent hsolid, ?_⟩
    rintro rfl
    exact hword
  | space hnext _ ih =>
    have hgap := ih.1.space hnext
    exact ⟨hgap.mono (Nat.le_succ _), fun _ => hgap.word rfl⟩
  | @lineBreak b c cs xs hc _ ih =>
    have hgap : ReadsGap isDouble b (cs.length + 1) rest (c :: cs) (c :: xs) := ih.1.lineBreak hc
    refine ⟨hgap.mono (Nat.le_succ _), ?_⟩
    rintro rfl
    exact hgap.word (by obtain rfl | rfl := hc <;> decide)

theorem Quoted.length_le {b : Bool} (h : Quoted isDouble indent b cs xs) :
    cs.length ≤ xs.length := by
  induction h with
  | done b => exact Nat.zero_le _
  | letter hc _ ih =>
    have := List.length_pos_iff.2 hc.ne_nil
    simp only [List.length_append, List.length_cons]
    omega
  | space _ _ ih => exact Nat.succ_le_succ ih
  | lineBreak _ _ ih => exact Nat.succ_le_succ ih

theorem isPrintable_spaces {n : Nat} : ∀ a ∈ spaces n, isPrintable a = true := by
  intro a ha
  rw [(List.mem_replicate.1 ha).2]
  rfl

theorem Quoted.isPrintable {b : Bool} (h : Quoted isDouble indent b cs xs) :
    ∀ a ∈ xs, isPrintable a = true := by
  have hindent : ∀ b : Bool, ∀ a ∈ (if b then spaces indent else []),
      Yaml.isPrintable a = true := by
    intro b a ha
    cases b with
    | false => cases ha
    | true => exact isPrintable_spaces a ha
  induction h with
  | done b => exact hindent b
  | @letter b c x cs xs hc _ ih =>
    intro a ha
    obtain ha | ha := List.mem_append.1 ha
    · exact hindent b a ha
    obtain ha | ha := List.mem_append.1 ha
    · exact hc.printable a ha
    · exact ih a ha
  | space _ _ ih =>
    intro a ha
    obtain rfl | ha := List.mem_cons.1 ha
    · rfl
    · exact ih a ha
  | lineBreak hc _ ih =>
    intro a ha
    obtain rfl | ha := List.mem_cons.1 ha
    · obtain rfl | rfl := hc <;> decide
    · exact ih a ha

theorem Quoted.quoted? (hindent : indent ≠ 0) (hrest : rest.head? ≠ some '\'')
    (h : Quoted isDouble indent false cs xs) (p : Place) :
    ∃ q, quoted? isDouble ⟨p, quoteMark isDouble :: (xs ++ quoteMark isDouble :: rest)⟩ =
      some (cs, ⟨q, rest⟩) := by
  have hadvance : Cursor.advance ⟨p, quoteMark isDouble :: (xs ++ quoteMark isDouble :: rest)⟩ =
      ⟨p.next, xs ++ quoteMark isDouble :: rest⟩ := by
    cases isDouble <;> rfl
  have hcolumn : p.next.column ≠ 0 := Nat.succ_ne_zero _
  have hfuel : cs.length ≤ (xs ++ quoteMark isDouble :: rest).length := by
    have := h.length_le
    rw [List.length_append]
    omega
  obtain ⟨q, hq⟩ := (h.read hindent hrest).2 rfl _ [] [] p.next hfuel hcolumn
  refine ⟨q, ?_⟩
  rw [Yaml.quoted?, hadvance, quotedFrom?_succ _ _ _ hcolumn, hq]
  rfl

end Reading

/-! ### The two ways of quoting -/

theorem solid_doubleChar {c : Char} (h : c ≠ ' ') : Solid (doubleChar c) ∧ doubleChar c ≠ [] := by
  have hslash : isBlank '\\' = false ∧ isBreak '\\' = false := ⟨rfl, rfl⟩
  unfold doubleChar
  split
  · exact ⟨solid_cons.2 hslash, List.cons_ne_nil _ _⟩
  split
  · exact ⟨solid_cons.2 hslash, List.cons_ne_nil _ _⟩
  split
  · next hprint =>
    rw [Bool.and_eq_true, Bool.not_eq_true'] at hprint
    have hblank : isBlank c = false := by
      simp only [isBlank, Bool.or_eq_false_iff, beq_eq_false_iff_ne]
      refine ⟨h, ?_⟩
      rintro rfl
      exact absurd hprint.1 (by decide)
    exact ⟨solid_cons.2 ⟨hblank, hprint.2⟩, List.cons_ne_nil _ _⟩
  · split
    all_goals first | exact ⟨solid_cons.2 hslash, List.cons_ne_nil _ _⟩ | skip
    simp only
    split
    · exact ⟨solid_cons.2 hslash, List.cons_ne_nil _ _⟩
    split
    · exact ⟨solid_cons.2 hslash, List.cons_ne_nil _ _⟩
    · exact ⟨solid_cons.2 hslash, List.cons_ne_nil _ _⟩

theorem isPrintable_hexDigits (w n : Nat) : ∀ a ∈ hexDigits w n, isPrintable a = true := by
  have hdigit : ∀ n < 16, isPrintable (Json.hexDigit n).toUpper = true := by decide
  induction w generalizing n with
  | zero => simp [hexDigits]
  | succ w ih =>
    intro a ha
    rw [hexDigits, List.mem_append, List.mem_singleton] at ha
    obtain ha | rfl := ha
    · exact ih _ a ha
    · exact hdigit _ (Nat.mod_lt _ (by decide))

theorem isPrintable_escape {x : Char} (hx : isPrintable x = true) (w n : Nat) :
    ∀ a ∈ ['\\', x] ++ hexDigits w n, isPrintable a = true := by
  intro a ha
  simp only [List.mem_append, List.mem_cons, List.not_mem_nil, or_false] at ha
  obtain (rfl | rfl) | ha := ha
  · rfl
  · exact hx
  · exact isPrintable_hexDigits w n a ha

theorem isPrintable_doubleChar (c : Char) : ∀ a ∈ doubleChar c, isPrintable a = true := by
  unfold doubleChar
  split
  · exact List.all_eq_true.1 rfl
  split
  · exact List.all_eq_true.1 rfl
  split
  · next hprint =>
    rw [Bool.and_eq_true] at hprint
    simpa using hprint.1
  · split
    all_goals first | exact List.all_eq_true.1 rfl | skip
    simp only
    split
    · exact isPrintable_escape rfl _ _
    split
    · exact isPrintable_escape rfl _ _
    · exact isPrintable_escape rfl _ _

theorem letter_doubleChar {c : Char} (h : c ≠ ' ') : Letter true c (doubleChar c) where
  solid := (solid_doubleChar h).1
  ne_nil := (solid_doubleChar h).2
  printable := isPrintable_doubleChar c
  read _ _ _ := doubleWord?_doubleChar h

/-- Any text can be written in double quotes. -/
theorem quoted_double (indent : Nat) (cs : List Char) :
    Quoted true indent false cs (cs.flatMap doubleChar) := by
  induction cs with
  | nil => exact .done false
  | cons c cs ih =>
    by_cases h : c = ' '
    · subst h
      refine .space ?_ ih
      cases cs with
      | nil => simp
      | cons d cs =>
        by_cases hd : d = ' '
        · subst hd
          rintro _ ⟨⟩
          rfl
        · have hsolid := (solid_doubleChar hd).1.append (t := cs.flatMap doubleChar)
            (solid_doubleChar hd).2
          exact fun c hc => (hsolid c hc).2
    · exact .letter (letter_doubleChar h) ih

theorem letter_single {c : Char} (hprint : isPrintable c = true) (hblank : isBlank c = false)
    (hbreak : isBreak c = false) :
    Letter false c (if c == '\'' then ['\'', '\''] else [c]) := by
  split
  · next h =>
    obtain rfl := beq_iff_eq.1 h
    refine ⟨solid_cons.2 ⟨rfl, rfl⟩, List.cons_ne_nil _ _, List.all_eq_true.1 rfl,
      fun p word cs => ?_⟩
    change singleWord? p word ('\'' :: '\'' :: cs) = _
    rw [singleWord?]
    rfl
  · next h =>
    refine ⟨solid_cons.2 ⟨hblank, hbreak⟩, List.cons_ne_nil _ _, by simpa using hprint,
      fun p word cs => ?_⟩
    have hne : c ≠ '\'' := by simpa using h
    change singleWord? p word (c :: cs) = _
    rw [singleWord?]
    · simp only [hblank, hbreak, h, Bool.or_self, Bool.false_eq_true, if_false]
      rfl
    · intro rest hc
      exact absurd hc hne

/-- Without line feeds, the line breaks that are written as they are separate lines or
paragraphs. -/
theorem separator_of_isBreak {c : Char} (hprint : isPrintable c = true) (hfeed : c ≠ '\n')
    (h : isBreak c = true) : c = '\u2028' ∨ c = '\u2029' := by
  simp only [isBreak, Bool.or_eq_true, beq_iff_eq] at h
  obtain ((((rfl | rfl) | rfl) | h) | h) := h
  · exact absurd rfl hfeed
  · exact absurd hprint (by decide)
  · exact absurd hprint (by decide)
  · exact .inl h
  · exact .inr h

/-- A blank and a line break stand side by side. -/
def touches (a b : Char) : Bool :=
  (isBreak a && b == ' ') || (a == ' ' && isBreak b)

theorem head?_singleQuoted {indent : Nat} {cs : List Char}
    (h : ∀ c ∈ cs.head?, isBreak c = false) :
    ∀ c ∈ (singleQuoted indent false cs).head?, isBreak c = false := by
  cases cs with
  | nil => simp [singleQuoted]
  | cons a cs =>
    have ha := h a rfl
    rw [singleQuoted, ha]
    simp only [Bool.false_eq_true, if_false]
    split
    · rintro _ ⟨⟩
      exact ha
    split
    · rintro _ ⟨⟩
      rfl
    · rintro _ ⟨⟩
      exact ha

theorem quoted_single (indent : Nat) {cs : List Char} (hprint : ∀ c ∈ cs, isPrintable c = true)
    (hfeed : '\n' ∉ cs) (hpair : hasPair touches cs = false) {b : Bool}
    (hspace : b = true → cs.head? ≠ some ' ') :
    Quoted false indent b cs (singleQuoted indent b cs) := by
  induction cs generalizing b with
  | nil => exact .done b
  | cons c cs ih =>
    have hpair' : hasPair touches cs = false ∧ ∀ d ∈ cs.head?, touches c d = false := by
      cases cs with
      | nil => exact ⟨rfl, by simp⟩
      | cons d cs =>
        simp only [hasPair, Bool.or_eq_false_iff] at hpair
        exact ⟨hpair.2, by rintro _ ⟨⟩; exact hpair.1⟩
    have ih' := @ih (fun d hd => hprint d (List.mem_cons_of_mem _ hd))
      (fun h => hfeed (List.mem_cons_of_mem _ h)) hpair'.1
    rw [singleQuoted]
    split
    · next hbreak =>
      have hne : c ≠ '\n' := fun h => hfeed (h ▸ List.mem_cons_self)
      refine .lineBreak (separator_of_isBreak (hprint c List.mem_cons_self) hne hbreak)
        (ih' fun _ hhead => ?_)
      have := hpair'.2 ' ' hhead
      simp [touches, hbreak] at this
    split
    · next hbreak hc =>
      obtain rfl := beq_iff_eq.1 hc
      cases b with
      | true => exact absurd rfl (hspace rfl)
      | false =>
        refine .space (head?_singleQuoted fun d hd => ?_) (ih' nofun)
        have := hpair'.2 d hd
        simp only [touches, Bool.or_eq_false_iff, beq_self_eq_true, Bool.true_and] at this
        exact this.2
    · next hbreak hc =>
      have hbreak' : isBreak c = false := by simpa using hbreak
      have hblank : isBlank c = false := by
        simp only [isBlank, Bool.or_eq_false_iff, beq_eq_false_iff_ne]
        refine ⟨by simpa using hc, ?_⟩
        rintro rfl
        exact absurd (hprint _ List.mem_cons_self) (by decide)
      rw [List.append_assoc]
      exact .letter (letter_single (hprint c List.mem_cons_self) hblank hbreak') (ih' nofun)

end HeaderAbi.Yaml
