import HeaderAbi.Proofs.Yaml.Place
import HeaderAbi.Yaml.Scalar
import HeaderAbi.Yaml.ScalarText

/-!
# Literal blocks are read back

A block is read in turns: a gap of empty lines and indentation (`blockGap?`), then a line.  What a
block holds is split the same way (`BlockLines`), and the reader keeps what it has read in three
parts, since the line breaks at the end may have to go (`LinesRead`).
-/

namespace HeaderAbi.Yaml

theorem breakValue_of_isPrintable {c : Char} (hprint : isPrintable c = true)
    (h : isBreak c = true) : breakValue c = c ∧ c ≠ '\x0d' ∧ isBlank c = false := by
  simp only [isBreak, Bool.or_eq_true, beq_iff_eq] at h
  obtain ((((rfl | rfl) | rfl) | rfl) | rfl) := h
  · decide
  · exact absurd hprint (by decide)
  · exact absurd hprint (by decide)
  · decide
  · decide

/-! ### Gaps between lines -/

section Gaps
variable {given widest : Nat} {breaks : List Char} {p : Place} {cs : List Char}

theorem blockGap?_break {c : Char} (hprint : isPrintable c = true) (h : isBreak c = true) :
    blockGap? given widest breaks p (c :: cs) =
      blockGap? given (max widest p.column) (c :: breaks) (p.nextLine 1) cs := by
  obtain ⟨hvalue, hreturn, hblank⟩ := breakValue_of_isPrintable hprint h
  simp only [isBlank, Bool.or_eq_false_iff] at hblank
  rw [blockGap?]
  · simp [hblank, h, hvalue]
  · rintro rest rfl
    exact absurd rfl hreturn

/-- Empty lines. -/
theorem blockGap?_breaks {bs : List Char} (given widest : Nat) (breaks cs : List Char)
    (hprint : ∀ c ∈ bs, isPrintable c = true) (h : ∀ c ∈ bs, isBreak c = true) (hp : p.column = 0) :
    ∃ q : Place, q.column = 0 ∧ blockGap? given widest breaks p (bs ++ cs) =
      blockGap? given widest (bs.reverse ++ breaks) q cs := by
  induction bs generalizing p breaks with
  | nil => exact ⟨p, hp, rfl⟩
  | cons c bs ih =>
    obtain ⟨q, hq, hread⟩ := @ih (p.nextLine 1) (c :: breaks)
      (fun d hd => hprint d (List.mem_cons_of_mem _ hd))
      (fun d hd => h d (List.mem_cons_of_mem _ hd)) rfl
    refine ⟨q, hq, ?_⟩
    rw [List.cons_append, blockGap?_break (hprint c List.mem_cons_self) (h c List.mem_cons_self),
      hp, Nat.max_eq_left (Nat.zero_le _), hread]
    simp

/-- The indentation of a line. -/
theorem blockGap?_spaces {n : Nat} (h : given = 0 ∨ p.column + n ≤ given) :
    blockGap? given widest breaks p (spaces n ++ cs) =
      blockGap? given widest breaks (p.right n) cs := by
  induction n generalizing p with
  | zero => rfl
  | succ n ih =>
    have hmore : (given == 0 || decide (p.column < given)) = true := by
      rw [Bool.or_eq_true, beq_iff_eq, decide_eq_true_eq]
      omega
    have hstep : blockGap? given widest breaks p (' ' :: (spaces n ++ cs)) =
        blockGap? given widest breaks p.next (spaces n ++ cs) := by
      rw [blockGap?]
      · simp [hmore]
      · rintro rest ⟨⟩
    change blockGap? given widest breaks p (' ' :: (spaces n ++ cs)) = _
    have hnext : given = 0 ∨ p.next.column + n ≤ given := by
      change given = 0 ∨ p.column + 1 + n ≤ given
      omega
    rw [hstep, ih hnext, Place.next_eq_right, Place.right_right, Nat.add_comm]

/-- The gap ends at text that is no blank, or where the line has its indentation. -/
theorem blockGap?_stop
    (h : ∀ c ∈ cs.head?, isBreak c = false ∧ (isBlank c = true → given ≠ 0 ∧ given ≤ p.column)) :
    blockGap? given widest breaks p cs = some (max widest p.column, breaks, ⟨p, cs⟩) := by
  cases cs with
  | nil => rfl
  | cons c cs =>
    obtain ⟨hbreak, hblank⟩ := h c rfl
    have hspace : (c == ' ' && (given == 0 || decide (p.column < given))) = false := by
      by_cases hc : c = ' '
      · subst hc
        obtain ⟨hgiven, hle⟩ := hblank rfl
        simp [hgiven, Nat.not_lt.2 hle]
      · rw [beq_eq_false_iff_ne.2 hc, Bool.false_and]
    have htab : (c == '\t' && (given == 0 || decide (p.column < given))) = false := by
      by_cases hc : c = '\t'
      · subst hc
        obtain ⟨hgiven, hle⟩ := hblank rfl
        simp [hgiven, Nat.not_lt.2 hle]
      · rw [beq_eq_false_iff_ne.2 hc, Bool.false_and]
    rw [blockGap?]
    · simp only [hspace, htab, hbreak, Bool.false_eq_true, if_false]
    · rintro rest rfl
      exact absurd hbreak (by decide)

end Gaps

/-! ### The lines of a text -/

/-- Nonempty lines, each with the line break at its end and the empty lines behind it. -/
inductive BlockLines : List Char → Prop
  | nil : BlockLines []
  | line {l bs cs : List Char} {b : Char} (hne : l ≠ []) (hl : ∀ c ∈ l, isBreak c = false)
      (hb : isBreak b = true) (hbs : ∀ c ∈ bs, isBreak c = true) (h : BlockLines cs) :
      BlockLines (l ++ b :: (bs ++ cs))

/-- A text that ends with a line break is some empty lines with other lines behind. -/
theorem exists_blockLines {cs : List Char} (h : ∀ c ∈ cs.getLast?, isBreak c = true) :
    ∃ bs ls, cs = bs ++ ls ∧ (∀ c ∈ bs, isBreak c = true) ∧ BlockLines ls := by
  induction cs with
  | nil => exact ⟨[], [], rfl, by simp, .nil⟩
  | cons c cs ih =>
    have hlast : ∀ d ∈ cs.getLast?, isBreak d = true := by
      intro d hd
      refine h d ?_
      cases cs with
      | nil => cases hd
      | cons e cs => rwa [List.getLast?_cons_cons]
    obtain ⟨bs, ls, rfl, hbs, hls⟩ := ih hlast
    by_cases hc : isBreak c = true
    · refine ⟨c :: bs, ls, rfl, ?_, hls⟩
      intro d hd
      obtain rfl | hd := List.mem_cons.1 hd
      · exact hc
      · exact hbs d hd
    · have hc' : isBreak c = false := by simpa using hc
      refine ⟨[], c :: (bs ++ ls), rfl, by simp, ?_⟩
      cases bs with
      | cons b bs =>
        exact .line (l := [c]) (List.cons_ne_nil _ _) (by simpa using hc')
          (hbs b List.mem_cons_self) (fun d hd => hbs d (List.mem_cons_of_mem _ hd)) hls
      | nil =>
        cases hls with
        | nil => exact absurd (h c rfl) hc
        | @line l bs' cs' b hne hl hb hbs' h' =>
          refine .line (l := c :: l) (List.cons_ne_nil _ _) ?_ hb hbs' h'
          intro d hd
          obtain rfl | hd := List.mem_cons.1 hd
          · exact hc'
          · exact hl d hd

theorem BlockLines.head? {cs : List Char} (h : BlockLines cs) :
    ∀ c ∈ cs.head?, isBreak c = false := by
  cases h with
  | nil => simp
  | @line l bs cs b hne hl hb hbs h =>
    cases l with
    | nil => exact absurd rfl hne
    | cons a l =>
      rintro _ ⟨⟩
      exact hl a List.mem_cons_self

/-! ### What is written for lines -/

section Written
variable {indent : Nat} {cs : List Char}

theorem literalLines_breaks {bs : List Char} (h : ∀ c ∈ bs, isBreak c = true) :
    literalLines indent true (bs ++ cs) = bs ++ literalLines indent true cs := by
  induction bs with
  | nil => rfl
  | cons b bs ih =>
    rw [List.cons_append, literalLines, h b List.mem_cons_self, if_pos rfl,
      ih fun c hc => h c (List.mem_cons_of_mem _ hc), List.cons_append]

/-- A line is written as it is, up to its break. -/
theorem literalLines_line {l : List Char} (h : ∀ c ∈ l, isBreak c = false) {b : Char}
    (hb : isBreak b = true) :
    literalLines indent false (l ++ b :: cs) = l ++ b :: literalLines indent true cs := by
  induction l with
  | nil => simp [literalLines, hb]
  | cons c l ih =>
    rw [List.cons_append, literalLines, h c List.mem_cons_self,
      ih fun c hc => h c (List.mem_cons_of_mem _ hc)]
    rfl

/-- The indentation stands in front of a nonempty line. -/
theorem literalLines_indent (hne : cs ≠ []) (h : ∀ c ∈ cs.head?, isBreak c = false) :
    literalLines indent true cs = spaces indent ++ literalLines indent false cs := by
  cases cs with
  | nil => exact absurd rfl hne
  | cons c cs => simp [literalLines, h c rfl]

/-- A line feed at the end is written as it is. -/
theorem literalLines_concat (afterBreak : Bool) :
    literalLines indent afterBreak (cs ++ ['\n']) =
      literalLines indent afterBreak cs ++ ['\n'] := by
  induction cs generalizing afterBreak with
  | nil => rfl
  | cons c cs ih =>
    simp only [List.cons_append, literalLines, ih]
    split
    · rfl
    · simp

end Written

theorem length_literalLines (indent : Nat) (cs : List Char) (afterBreak : Bool) :
    cs.length ≤ (literalLines indent afterBreak cs).length := by
  induction cs generalizing afterBreak with
  | nil => exact Nat.zero_le _
  | cons c cs ih =>
    rw [literalLines]
    split
    · exact Nat.succ_le_succ (ih true)
    · have := ih false
      simp only [List.length_append, List.length_cons]
      omega

/-! ### Reading lines -/

/-- What has been read of a block, in its three parts: the lines, the break behind the last one and
the breaks of the empty lines after it. -/
structure LinesRead (read done : List Char) (lead : Option Char) (trail : List Char) : Prop where
  all : trail ++ (lead.toList ++ done) = read
  solid : ∀ c ∈ done.head?, isBreak c = false
  breaks : ∀ c ∈ trail ++ lead.toList, isBreak c = true
  first : lead = none → done = []

/-- The place and the rest of the text behind a gap, when the lines `cs` come next. -/
def lineStart (indent k : Nat) (t : List Char) (p : Place) (cs : List Char) : Cursor :=
  if cs.isEmpty then ⟨p.right k, t⟩
  else ⟨p.right indent, literalLines indent false cs ++ (spaces k ++ t)⟩

section Reading
variable {indent k : Nat} {t cs : List Char} {p : Place}

/-- The gap before the lines `cs`, with empty lines `bs` at its start.  If the indentation is still
to be found out, the first line must show it. -/
theorem blockGap?_lines {given : Nat} {bs : List Char} (widest : Nat) (breaks : List Char)
    (hgiven : given = indent ∨ (given = 0 ∧ cs ≠ [] ∧ cs.head? ≠ some ' '))
    (hk : k < indent) (ht : Solid t) (hprint : ∀ c ∈ bs ++ cs, isPrintable c = true)
    (hbs : ∀ c ∈ bs, isBreak c = true) (hcs : BlockLines cs) (hp : p.column = 0) :
    ∃ q : Place, q.column = 0 ∧
      blockGap? given widest breaks p (literalLines indent true (bs ++ cs) ++ (spaces k ++ t)) =
        some (max widest (lineStart indent k t q cs).place.column, bs.reverse ++ breaks,
          lineStart indent k t q cs) := by
  have hprint' : ∀ c ∈ bs, isPrintable c = true := fun c hc => hprint c (List.mem_append_left _ hc)
  obtain ⟨q, hq, hgap⟩ := blockGap?_breaks given widest breaks
    (literalLines indent true cs ++ (spaces k ++ t)) hprint' hbs hp
  refine ⟨q, hq, ?_⟩
  rw [literalLines_breaks hbs, List.append_assoc, hgap]
  cases hcs' : cs with
  | nil =>
    have hle : given = 0 ∨ q.column + k ≤ given := by
      obtain rfl | ⟨-, hne, -⟩ := hgiven
      · omega
      · exact absurd hcs' hne
    have hstop : ∀ c ∈ t.head?, isBreak c = false ∧
        (isBlank c = true → given ≠ 0 ∧ given ≤ (q.right k).column) := by
      intro c hc
      obtain ⟨hblank, hbreak⟩ := ht c hc
      exact ⟨hbreak, fun h => absurd h (by rw [hblank]; decide)⟩
    change blockGap? given widest _ q (spaces k ++ t) = _
    rw [blockGap?_spaces hle, blockGap?_stop hstop]
    rfl
  | cons c cs' =>
    subst hcs'
    have hc : isBreak c = false := hcs.head? c rfl
    have hle : given = 0 ∨ q.column + indent ≤ given := by
      obtain rfl | ⟨rfl, -⟩ := hgiven
      · omega
      · exact .inl rfl
    have hstop : ∀ a ∈ (literalLines indent false (c :: cs') ++ (spaces k ++ t)).head?,
        isBreak a = false ∧ (isBlank a = true → given ≠ 0 ∧ given ≤ (q.right indent).column) := by
      rw [literalLines, hc]
      rintro _ ⟨⟩
      refine ⟨hc, fun hblank => ?_⟩
      obtain rfl | ⟨-, -, hspace⟩ := hgiven
      · change given ≠ 0 ∧ given ≤ q.column + given
        omega
      · have hprint' := hprint c (List.mem_append_right _ List.mem_cons_self)
        simp only [isBlank, Bool.or_eq_true, beq_iff_eq] at hblank
        obtain rfl | rfl := hblank
        · exact absurd rfl hspace
        · exact absurd hprint' (by decide)
    rw [literalLines_indent (List.cons_ne_nil _ _) hcs.head?, List.append_assoc,
      blockGap?_spaces hle, blockGap?_stop hstop]
    rfl

/-- A line, with its break and the gap behind it. -/
theorem blockLines?_line {l : List Char} {b : Char} (fuel : Nat) (done trail xs : List Char)
    (lead : Option Char) (wasBlank : Bool) (hl : ∀ c ∈ l, isBreak c = false)
    (hb : isBreak b = true) (hprint : isPrintable b = true) (hp : p.column = indent) :
    ∃ startsBlank, blockLines? false indent (fuel + 1) done lead trail wasBlank ⟨p, l ++ b :: xs⟩ =
      (blockGap? indent 0 [] ((p.right l.length).nextLine 1) xs).bind fun g =>
        blockLines? false indent fuel (l.reverse ++ (trail ++ lead.toList) ++ done) (some b) g.2.1
          startsBlank g.2.2 := by
  obtain ⟨hvalue, hreturn, -⟩ := breakValue_of_isPrintable hprint hb
  have hl' : ∀ c ∈ l, (!isBreak c) = true := by simpa using hl
  have hb' : ∀ c ∈ (b :: xs).head?, (!isBreak c) = false := by
    rintro _ ⟨⟩
    rw [hb]
    rfl
  have hempty : (l ++ b :: xs).isEmpty = false := by simp
  refine ⟨((l ++ b :: xs).head?.map isBlank).getD false, ?_⟩
  rw [blockLines?]
  simp only [hp, hempty, Cursor.skipWhile_append hl' hb', Cursor.takeWhile_append_stop hl' hb',
    Cursor.advance_break hb hreturn, List.head?_cons, Option.map_some, hvalue, Bool.false_and,
    ne_eq, not_true_eq_false, decide_false, Bool.false_eq_true, if_false, Bool.or_self,
    Option.bind_eq_bind]

/-- The reader stops where a line is not indented as the block is. -/
theorem blockLines?_stop {fuel : Nat} {done trail : List Char} {lead : Option Char}
    {wasBlank : Bool} {c : Cursor} (h : c.place.column ≠ indent) :
    blockLines? false indent (fuel + 1) done lead trail wasBlank c =
      some (done, lead, trail, c) := by
  rw [blockLines?, decide_eq_true h]
  rfl

/-- **The lines of a block are read**, up to what is indented less. -/
theorem BlockLines.read (hk : k < indent) (ht : Solid t) (h : BlockLines cs)
    (hprint : ∀ c ∈ cs, isPrintable c = true) {fuel : Nat} {read done trail : List Char}
    {lead : Option Char} (wasBlank : Bool) (hfuel : cs.length < fuel) (hp : p.column = 0)
    (hread : LinesRead read done lead trail) :
    ∃ done' lead' trail' q, blockLines? false indent fuel done lead trail wasBlank
        (lineStart indent k t p cs) = some (done', lead', trail', ⟨q, t⟩) ∧ q.column = k ∧
      LinesRead (cs.reverse ++ read) done' lead' trail' := by
  induction h generalizing fuel read done trail lead wasBlank p with
  | nil =>
    obtain ⟨fuel, rfl⟩ : ∃ f, fuel = f + 1 := ⟨fuel - 1, by simp at hfuel; omega⟩
    have hcolumn : (p.right k).column = k := by
      change p.column + k = k
      omega
    have hstop : (p.right k).column ≠ indent := by omega
    exact ⟨done, lead, trail, p.right k, blockLines?_stop hstop, hcolumn, hread⟩
  | @line l bs cs b hne hl hb hbs hcs ih =>
    obtain ⟨fuel, rfl⟩ : ∃ f, fuel = f + 1 := ⟨fuel - 1, by omega⟩
    have hprint' : ∀ c ∈ bs ++ cs, isPrintable c = true := fun c hc =>
      hprint c (List.mem_append_right _ (List.mem_cons_of_mem _ hc))
    have hb' : isPrintable b = true :=
      hprint b (List.mem_append_right _ List.mem_cons_self)
    have hlen : cs.length < fuel := by
      simp only [List.length_append, List.length_cons] at hfuel
      omega
    have hcolumn : (p.right indent).column = indent := by
      change p.column + indent = indent
      omega
    have hstart : lineStart indent k t p (l ++ b :: (bs ++ cs)) =
        ⟨p.right indent, l ++ b :: (literalLines indent true (bs ++ cs) ++ (spaces k ++ t))⟩ := by
      rw [lineStart, literalLines_line hl hb]
      simp
    obtain ⟨startsBlank, hline⟩ := blockLines?_line fuel done trail
      (literalLines indent true (bs ++ cs) ++ (spaces k ++ t)) lead wasBlank hl hb hb' hcolumn
    obtain ⟨q, hq, hgap⟩ := blockGap?_lines 0 [] (.inl rfl) hk ht hprint'
      hbs hcs (p := ((p.right indent).right l.length).nextLine 1) rfl
    have hread' : LinesRead ((l ++ b :: bs).reverse ++ read)
        (l.reverse ++ (trail ++ lead.toList) ++ done) (some b) bs.reverse := by
      refine ⟨by simp [← hread.all], ?_, ?_, nofun⟩
      · intro c hc
        cases hlast : l.reverse with
        | nil => exact absurd (List.reverse_eq_nil_iff.1 hlast) hne
        | cons a l' =>
          rw [hlast] at hc
          obtain rfl : a = c := by simpa using hc
          exact hl a (List.mem_reverse.1 (hlast ▸ List.mem_cons_self))
      · intro c hc
        obtain hc | hc := List.mem_append.1 hc
        · exact hbs c (List.mem_reverse.1 hc)
        · obtain rfl : c = b := by simpa using hc
          exact hb
    obtain ⟨done', lead', trail', q', hrest, hq', hread''⟩ := ih
      (fun c hc => hprint' c (List.mem_append_right _ hc)) startsBlank hlen hq hread'
    refine ⟨done', lead', trail', q', ?_, hq', ?_⟩
    · rw [hstart, hline, hgap, Option.bind_some, List.append_nil]
      exact hrest
    · simpa using hread''

end Reading

/-! ### The header and the end -/

/-- What has to become of the line breaks at the end of a text. -/
def chompingOf (cs : List Char) : Chomping :=
  match cs.reverse with
  | a :: b :: _ => if !isBreak a then .strip else if isBreak b then .keep else .clip
  | [a] => if isBreak a then .keep else .strip
  | [] => .strip

def Chomping.mark : Chomping → List Char
  | .clip => []
  | .strip => ['-']
  | .keep => ['+']

/-- The first line of a text does not show its indentation. -/
def hidesIndent (cs : List Char) : Bool :=
  cs.head?.any fun c => c == ' ' || isBreak c

theorem literalHints_eq (cs : List Char) :
    literalHints cs = (if hidesIndent cs then ['2'] else []) ++ (chompingOf cs).mark := by
  unfold literalHints
  change _ ++ _ = _ ++ _
  congr 1
  · cases cs <;> rfl
  · unfold chompingOf
    generalize cs.reverse = r
    obtain _ | ⟨a, _ | ⟨b, r⟩⟩ := r
    · rfl
    · dsimp only
      cases isBreak a <;> rfl
    · dsimp only
      cases isBreak a <;> cases isBreak b <;> rfl

theorem blockHeader?_hints (cs xs : List Char) :
    blockHeader? (literalHints cs ++ '\n' :: xs) =
      some (chompingOf cs, if hidesIndent cs then 2 else 0, '\n' :: xs) := by
  rw [literalHints_eq]
  cases hidesIndent cs <;> cases chompingOf cs <;> rfl

/-- The three parts can be told from the whole. -/
theorem LinesRead.parts {read done trail : List Char} {lead : Option Char}
    (h : LinesRead read done lead trail) :
    done = read.dropWhile isBreak ∧ trail ++ lead.toList = read.takeWhile isBreak := by
  have hread : read = trail ++ lead.toList ++ done := by rw [List.append_assoc, h.all]
  rw [hread, Cursor.dropWhile_append_stop h.breaks h.solid,
    Cursor.takeWhile_append_stop h.breaks h.solid]
  exact ⟨rfl, rfl⟩

/-- The breaks at the end, last first, as the block says what becomes of them. -/
def Chomping.ending (lead : Option Char) (trail : List Char) : Chomping → List Char
  | .strip => []
  | .clip => lead.toList
  | .keep => trail ++ lead.toList

theorem chompingOf_strip {a : Char} (ha : isBreak a = false) (r : List Char) :
    chompingOf (a :: r).reverse = .strip := by
  rw [chompingOf, List.reverse_reverse]
  cases r <;> simp only [ha] <;> rfl

theorem chompingOf_keep {a : Char} (ha : isBreak a = true) {r : List Char}
    (hr : ∀ b ∈ r.head?, isBreak b = true) : chompingOf (a :: r).reverse = .keep := by
  rw [chompingOf, List.reverse_reverse]
  cases r with
  | nil => simp only [ha]; rfl
  | cons b r => simp only [ha, hr b rfl]; rfl

theorem chompingOf_clip {a b : Char} (ha : isBreak a = true) (hb : isBreak b = false)
    (r : List Char) : chompingOf (a :: b :: r).reverse = .clip := by
  rw [chompingOf, List.reverse_reverse]
  simp only [ha, hb]
  rfl

/-- The breaks at the end of the text are what is left of those that were read. -/
theorem LinesRead.ending {cs done trail : List Char} {lead : Option Char} (hne : cs ≠ [])
    (h : LinesRead ((cs ++ lineEnd cs).reverse) done lead trail) :
    (chompingOf cs).ending lead trail ++ done = cs.reverse := by
  obtain ⟨hdone, hbreaks⟩ := h.parts
  obtain ⟨r, rfl⟩ : ∃ r, cs = r.reverse := ⟨cs.reverse, (List.reverse_reverse cs).symm⟩
  cases r with
  | nil => exact absurd rfl hne
  | cons a r =>
    have hlineEnd : lineEnd (a :: r).reverse = if isBreak a then [] else ['\n'] := by
      simp [lineEnd]
    have hall := h.all
    rw [hlineEnd, List.reverse_append, List.reverse_reverse] at hdone hbreaks hall
    rw [List.reverse_reverse]
    cases ha : isBreak a with
    | false =>
      rw [chompingOf_strip ha, hdone, ha]
      change (a :: r).dropWhile isBreak = a :: r
      rw [List.dropWhile_cons, ha]
      rfl
    | true =>
      simp only [ha, if_true, List.reverse_nil, List.nil_append] at hdone hbreaks hall
      by_cases hr : ∀ b ∈ r.head?, isBreak b = true
      · rw [chompingOf_keep ha hr, Chomping.ending, List.append_assoc, hall]
      · cases r with
        | nil => exact absurd (by simp) hr
        | cons b r =>
          have hb : isBreak b = false := by simpa using hr
          have hclip : done = b :: r := by simp [hdone, ha, hb]
          have hone : trail ++ lead.toList = [a] := by simp [hbreaks, ha, hb]
          rw [chompingOf_clip ha hb, Chomping.ending, hclip]
          cases lead with
          | none => exact absurd (h.first rfl) (by rw [hclip]; exact List.cons_ne_nil _ _)
          | some x =>
            obtain rfl : x = a := by
              have := congrArg List.getLast? hone
              simpa using this
            rfl

/-- The indentation that the header gives. -/
def givenIndent (m : Nat) (cs : List Char) : Nat :=
  if hidesIndent cs then m + 2 else 0

/-- The lines behind a header. -/
def blockBody? (parent given : Nat) (chomping : Chomping) (p : Place) (xs : List Char) :
    Option (List Char × Cursor) :=
  (blockGap? given 0 [] p xs).bind fun g =>
    (blockLines? false (if given == 0 then max g.1 (max parent 1) else given)
      (g.2.2.rest.length + 1) [] none g.2.1 false g.2.2).bind fun r =>
        some ((chomping.ending r.2.1 r.2.2.1 ++ r.1).reverse, r.2.2.2)

/-- A block is its header and a line break in front of its lines. -/
theorem block?_hints (m : Nat) (p : Place) (cs xs : List Char) :
    ∃ q : Place, q.column = 0 ∧
      block? false (m + 1) ⟨p, '|' :: (literalHints cs ++ '\n' :: xs)⟩ =
        blockBody? (m + 1) (givenIndent m cs) (chompingOf cs) q xs := by
  have hadvance : Cursor.advance ⟨p, '|' :: (literalHints cs ++ '\n' :: xs)⟩ =
      ⟨p.next, literalHints cs ++ '\n' :: xs⟩ := rfl
  have hskip : ∀ q, Cursor.skipWhile isBlank ⟨q, '\n' :: xs⟩ = ⟨q, '\n' :: xs⟩ := fun _ => rfl
  have hbreak : ∀ q, Cursor.advance ⟨q, '\n' :: xs⟩ = ⟨q.nextLine 1, xs⟩ := fun q =>
    Cursor.advance_break rfl (by decide)
  have hgiven : (if (if hidesIndent cs then 2 else 0) == 0 then 0
      else m + 1 - 1 + if hidesIndent cs then 2 else 0) = givenIndent m cs := by
    rw [givenIndent]
    cases hidesIndent cs <;> rfl
  suffices h : ∃ q : Place, block? false (m + 1) ⟨p, '|' :: (literalHints cs ++ '\n' :: xs)⟩ =
      blockBody? (m + 1) (givenIndent m cs) (chompingOf cs) (q.nextLine 1) xs by
    obtain ⟨q, hq⟩ := h
    exact ⟨q.nextLine 1, rfl, hq⟩
  rw [block?, hadvance]
  have hhash : (('\n' :: xs).head? == some '#') = false := rfl
  have hstop : (!atBreak ('\n' :: xs)) = false := rfl
  simp only [blockHeader?_hints, Option.bind_eq_bind, Option.bind_some, hskip, hhash, hstop, hbreak,
    hgiven, List.isEmpty_cons, Bool.false_eq_true, if_false]
  refine ⟨p.next.right ((literalHints cs ++ '\n' :: xs).length - ('\n' :: xs).length), ?_⟩
  cases chompingOf cs <;> rfl

/-! ### Whole blocks -/

section Whole
variable {m : Nat} {cs : List Char}

theorem literalLines_append_lineEnd (indent : Nat) (cs : List Char) :
    literalLines indent true cs ++ lineEnd cs = literalLines indent true (cs ++ lineEnd cs) := by
  rw [lineEnd]
  split
  · rw [List.append_nil, List.append_nil]
  · exact (literalLines_concat true).symm

theorem getLast?_append_lineEnd (cs : List Char) :
    ∀ c ∈ (cs ++ lineEnd cs).getLast?, isBreak c = true := by
  rw [lineEnd]
  cases hlast : cs.getLast?.any isBreak with
  | true =>
    intro c hc
    rw [if_pos rfl, List.append_nil] at hc
    rw [hc] at hlast
    exact hlast
  | false =>
    intro c hc
    obtain rfl : '\n' = c := by simpa using hc
    rfl

theorem isPrintable_append_lineEnd (h : ∀ c ∈ cs, isPrintable c = true) :
    ∀ c ∈ cs ++ lineEnd cs, isPrintable c = true := by
  intro c hc
  obtain hc | hc := List.mem_append.1 hc
  · exact h c hc
  · rw [lineEnd] at hc
    split at hc
    · cases hc
    · obtain rfl := List.mem_singleton.1 hc
      rfl

/-- The indentation is given, or the first line shows it: it starts with no blank. -/
theorem givenIndent_cases {us bs ls : List Char} (hne : cs ≠ []) (hsplit : cs ++ us = bs ++ ls)
    (hbs : ∀ c ∈ bs, isBreak c = true) :
    givenIndent m cs = m + 2 ∨ (givenIndent m cs = 0 ∧ ls ≠ [] ∧ ls.head? ≠ some ' ') := by
  rw [givenIndent]
  cases hhides : hidesIndent cs with
  | true => exact .inl rfl
  | false =>
    obtain ⟨c, cs, rfl⟩ := List.exists_cons_of_ne_nil hne
    have hc : (c == ' ' || isBreak c) = false := hhides
    rw [Bool.or_eq_false_iff, beq_eq_false_iff_ne] at hc
    cases bs with
    | nil =>
      rw [List.nil_append] at hsplit
      rw [← hsplit]
      exact .inr ⟨rfl, List.cons_ne_nil _ _, by simpa using hc.1⟩
    | cons b bs =>
      obtain ⟨rfl, -⟩ := List.cons.inj hsplit
      have hbreak := hbs c List.mem_cons_self
      rw [hc.2] at hbreak
      cases hbreak

/-- Either way the lines are read at the indentation at which they are written. -/
theorem indent_of_givenIndent {k : Nat} {t ls : List Char} {q : Place} (hq : q.column = 0)
    (hgiven : givenIndent m cs = m + 2 ∨
      (givenIndent m cs = 0 ∧ ls ≠ [] ∧ ls.head? ≠ some ' ')) :
    (if givenIndent m cs == 0 then
      max (max 0 (lineStart (m + 2) k t q ls).place.column) (max (m + 1) 1)
      else givenIndent m cs) = m + 2 := by
  obtain h | ⟨h, hls, -⟩ := hgiven
  · rw [h]
    rfl
  · have hcolumn : (lineStart (m + 2) k t q ls).place.column = m + 2 := by
      rw [lineStart, List.isEmpty_eq_false_iff.2 hls]
      change q.column + (m + 2) = m + 2
      omega
    rw [h, hcolumn]
    simp only [beq_self_eq_true, if_true]
    omega

theorem length_lt_lineStart (indent k : Nat) (t : List Char) (q : Place) (ls : List Char) :
    ls.length < (lineStart indent k t q ls).rest.length + 1 := by
  rw [lineStart]
  cases ls with
  | nil => exact Nat.succ_pos _
  | cons c ls =>
    have := length_literalLines indent (c :: ls) false
    simp only [List.isEmpty_cons, Bool.false_eq_true, if_false, List.length_append]
    omega

/-- **A literal block is read back**, up to what is indented less. -/
theorem block?_literal {k : Nat} {t : List Char} (p : Place) (hne : cs ≠ [])
    (hprint : ∀ c ∈ cs, isPrintable c = true) (hk : k ≤ m) (ht : Solid t) :
    ∃ q : Place, q.column = k ∧
      block? false (m + 1) ⟨p, '|' :: (literalHints cs ++ '\n' ::
        (literalLines (m + 2) true cs ++ (lineEnd cs ++ (spaces k ++ t))))⟩ =
          some (cs, ⟨q, t⟩) := by
  obtain ⟨bs, ls, hsplit, hbs, hls⟩ := exists_blockLines (getLast?_append_lineEnd cs)
  have hprint' := isPrintable_append_lineEnd hprint
  rw [hsplit] at hprint'
  have hgiven : givenIndent m cs = m + 2 ∨
      (givenIndent m cs = 0 ∧ ls ≠ [] ∧ ls.head? ≠ some ' ') := givenIndent_cases hne hsplit hbs
  have hk' : k < m + 2 := by omega
  obtain ⟨q, hq, hblock⟩ := block?_hints m p cs
    (literalLines (m + 2) true (cs ++ lineEnd cs) ++ (spaces k ++ t))
  obtain ⟨q', hq', hgap⟩ := blockGap?_lines 0 [] hgiven hk' ht hprint' hbs hls hq
  have hstart : LinesRead bs.reverse [] none (bs.reverse ++ []) :=
    ⟨by simp, by simp, by simpa using hbs, fun _ => rfl⟩
  obtain ⟨done, lead, trail, r, hlines, hr, hread⟩ := hls.read hk' ht
    (fun c hc => hprint' c (List.mem_append_right _ hc)) false
    (length_lt_lineStart (m + 2) k t q' ls) hq' hstart
  have hread' : LinesRead (cs ++ lineEnd cs).reverse done lead trail := by
    rwa [hsplit, List.reverse_append]
  refine ⟨r, hr, ?_⟩
  rw [← List.append_assoc, literalLines_append_lineEnd, hblock, blockBody?, hsplit, hgap,
    Option.bind_some, indent_of_givenIndent hq' hgiven, hlines, Option.bind_some,
    hread'.ending hne, List.reverse_reverse]

end Whole

end HeaderAbi.Yaml
