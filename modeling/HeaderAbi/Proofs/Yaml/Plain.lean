import HeaderAbi.Proofs.Yaml.Place
import HeaderAbi.Yaml.Scalar
import HeaderAbi.Yaml.ScalarText

/-!
# Plain scalars are read back

A plain scalar has no mark at its end: it goes on until a line break or a colon, and blanks count
only when more of the scalar follows.  `PlainEnd` describes what may come behind, and
`plain?_of_isPlainSafe` says that a text that may stand without quotes is read up to there.
-/

namespace HeaderAbi.Yaml

/-! ### What comes behind -/

/-- A plain scalar ends before the characters `u`; `stop` is the cursor behind the gap. -/
structure PlainEnd (indent : Nat) (u : List Char) (endsLine : Bool) (stop : Place → Cursor) :
    Prop where
  word : ∀ p word, plainWord? false p word u = some (word, ⟨p, u⟩)
  gap : ∀ p, ∃ g, Gap.scan indent ⟨p, u⟩ = (g, stop p) ∧ g.hasTab = false ∧
    g.breaks.isEmpty = !endsLine ∧
      ((g.blanks.isEmpty && g.breaks.isEmpty) = true ∨ (stop p).place.column < indent)

/-- A line break ends a scalar, when the next line is indented less. -/
theorem plainEnd_newline {indent k : Nat} {t : List Char} (hk : k < indent) (ht : Solid t) :
    PlainEnd indent ('\n' :: (spaces k ++ t)) true fun p => ⟨(p.nextLine 1).right k, t⟩ where
  word p word := by
    rw [plainWord?]
    rfl
  gap p := by
    refine ⟨{ breaks := ['\n'] }, ?_, rfl, rfl, .inr ?_⟩
    · have hbreaks : Gap.breaks { breaks := ['\n'] } ≠ [] := List.cons_ne_nil _ _
      rw [Gap.scan, Gap.scanFrom_break rfl (by decide) rfl]
      change Gap.scanFrom indent { breaks := ['\n'] } _ _ = _
      rw [Gap.scanFrom_spaces hbreaks, Gap.scanFrom_solid ht]
    · change 0 + k < indent
      omega

/-- A colon before a blank ends a scalar. -/
theorem plainEnd_colon {indent : Nat} {t : List Char} (ht : atBlank t = true) :
    PlainEnd indent (':' :: t) false fun p => ⟨p, ':' :: t⟩ where
  word p word := by
    have hgap : (isBlank ':' || isBreak ':') = false := rfl
    simp [plainWord?, hgap, ht]
  gap p := ⟨{}, Gap.scanFrom_solid (solid_cons.2 ⟨rfl, rfl⟩), rfl, rfl, .inl rfl⟩

/-! ### Words and gaps -/

/-- The scalar goes on behind a gap. -/
def plainResume? (indent fuel : Nat) (done : List Char) (g : Gap × Cursor) : Option Plain :=
  if g.1.hasTab then none
  else if (g.1.blanks.isEmpty && g.1.breaks.isEmpty) || g.2.place.column < indent then
    some ⟨done.reverse, !g.1.breaks.isEmpty, g.2⟩
  else plainFrom? false indent fuel done g.1 g.2

/-- The scalar goes on behind a word, which came after a gap. -/
def plainAfter? (indent fuel : Nat) (done : List Char) (gap : Gap) (w : List Char × Cursor) :
    Option Plain :=
  if w.1.isEmpty then some ⟨done.reverse, !gap.breaks.isEmpty, w.2⟩
  else plainResume? indent fuel (w.1 ++ gap.fold.reverse ++ done) (Gap.scan indent w.2)

theorem plainFrom?_succ (indent fuel : Nat) (done : List Char) (gap : Gap) {c : Cursor}
    (hmarker : c.atMarker = false) (hhash : c.rest.head? ≠ some '#') :
    plainFrom? false indent (fuel + 1) done gap c =
      (plainWord? false c.place [] c.rest).bind (plainAfter? indent fuel done gap) := by
  have hhash' : (c.rest.head? == some '#') = false := beq_eq_false_iff_ne.2 hhash
  rw [plainFrom?, hmarker, hhash']
  simp only [Bool.or_self, Bool.false_eq_true, if_false, Option.bind_eq_bind]
  congr 1
  funext ⟨word, cursor⟩
  simp only [plainAfter?, plainResume?]
  split
  · rfl
  split
  · rfl
  · by_cases hempty : (Gap.scan indent cursor).1.blanks.isEmpty &&
        (Gap.scan indent cursor).1.breaks.isEmpty
    · simp [hempty]
    · simp [hempty]

/-! ### Texts -/

/-- The rest of a text that may stand without quotes. -/
structure PlainTail (cs : List Char) : Prop where
  chars : ∀ c ∈ cs, c = ' ' ∨ (isBlank c = false ∧ isBreak c = false)
  early : endsEarly cs = false
  last : cs.getLast? ≠ some ' '

theorem endsEarly_cons {c : Char} {cs : List Char} (h : endsEarly (c :: cs) = false) :
    endsEarly cs = false ∧ (c = ':' → ∀ u, atBlank (cs ++ u) = false) ∧
      (c = ' ' → cs.head? ≠ some '#') := by
  cases cs with
  | nil =>
    refine ⟨rfl, ?_, by simp⟩
    rintro rfl
    exact absurd h (by decide)
  | cons d cs =>
    simp only [endsEarly, hasPair, Bool.or_eq_false_iff] at h ⊢
    obtain ⟨⟨⟨hcolon, hhash⟩, hpair⟩, hlast⟩ := h
    refine ⟨⟨hpair, by simpa using hlast⟩, ?_, ?_⟩
    · rintro rfl u
      simp only [beq_self_eq_true, Bool.true_and, Bool.or_eq_false_iff] at hcolon
      simp only [List.cons_append, atBlank, hcolon.1.1, hcolon.1.2, Bool.or_self]
    · rintro rfl hd
      obtain rfl : d = '#' := by simpa using hd
      exact absurd hhash (by decide)

theorem PlainTail.of_cons {c : Char} {cs : List Char} (h : PlainTail (c :: cs)) : PlainTail cs where
  chars d hd := h.chars d (List.mem_cons_of_mem _ hd)
  early := (endsEarly_cons h.early).1
  last := by
    cases cs with
    | nil => simp
    | cons d cs =>
      have := h.last
      rwa [List.getLast?_cons_cons] at this

section Reading
variable {indent : Nat} {u : List Char} {endsLine : Bool} {stop : Place → Cursor}
  {cs : List Char}

/-- A character that neither is a blank nor ends the scalar belongs to the word. -/
theorem plainWord?_cons {c : Char} (h : PlainTail (c :: cs)) (hc : c ≠ ' ') (p : Place)
    (word : List Char) :
    plainWord? false p word (c :: cs ++ u) = plainWord? false p.next (c :: word) (cs ++ u) := by
  obtain ⟨hblank, hbreak⟩ := (h.chars c List.mem_cons_self).resolve_left hc
  have hcolon : (c == ':' && atBlank (cs ++ u)) = false := by
    rw [Bool.and_eq_false_iff]
    by_cases hc : c = ':'
    · exact .inr ((endsEarly_cons h.early).2.1 hc u)
    · exact .inl (beq_eq_false_iff_ne.2 hc)
  rw [List.cons_append, plainWord?]
  simp [hblank, hbreak, hcolon]

/-- Inside a word, the rest `cs` of a text is read up to what comes behind. -/
def PlainWord (indent : Nat) (u : List Char) (endsLine : Bool) (stop : Place → Cursor)
    (cs : List Char) : Prop :=
  ∀ fuel done gap word p, cs.length ≤ fuel → word ≠ [] → indent ≤ p.column → p.column ≠ 0 →
    (plainWord? false p word (cs ++ u)).bind (plainAfter? indent fuel done gap) =
      some ⟨done.reverse ++ gap.fold ++ word.reverse ++ cs, endsLine, stop (p.right cs.length)⟩

/-- Inside a gap of blanks, the same. -/
def PlainGap (indent : Nat) (u : List Char) (endsLine : Bool) (stop : Place → Cursor)
    (cs : List Char) : Prop :=
  ∀ fuel done blanks p, cs.length ≤ fuel → blanks ≠ [] → indent ≤ p.column → p.column ≠ 0 →
    plainResume? indent fuel done (Gap.scanFrom indent { blanks := blanks } p (cs ++ u)) =
      some ⟨done.reverse ++ blanks.reverse ++ cs, endsLine, stop (p.right cs.length)⟩

theorem plainWord_nil (hu : PlainEnd indent u endsLine stop) :
    PlainWord indent u endsLine stop [] := by
  intro fuel done gap word p _ hword _ _
  obtain ⟨g, hscan, htab, hbreaks, hend⟩ := hu.gap p
  have hempty : word.isEmpty = false := List.isEmpty_eq_false_iff.2 hword
  have hend' : ((g.blanks.isEmpty && g.breaks.isEmpty) ||
      decide ((stop p).place.column < indent)) = true := by simpa using hend
  rw [List.nil_append, hu.word, Option.bind_some]
  simp only [plainAfter?, hempty, hscan, plainResume?, htab, Bool.false_eq_true, if_false]
  rw [if_pos hend', hbreaks, Bool.not_not]
  simp [Place.right_zero]

/-- A word goes on, or a gap of blanks starts. -/
theorem PlainWord.cons {c : Char} (h : PlainTail (c :: cs))
    (hword : PlainWord indent u endsLine stop cs)
    (hgap : c = ' ' → PlainGap indent u endsLine stop cs) :
    PlainWord indent u endsLine stop (c :: cs) := by
  intro fuel done gap word p hfuel hne hindent hcolumn
  have hindent' : indent ≤ p.next.column := Nat.le_succ_of_le hindent
  by_cases hc : c = ' '
  · subst hc
    have hempty : word.isEmpty = false := List.isEmpty_eq_false_iff.2 hne
    have hstop : plainWord? false p word (' ' :: cs ++ u) = some (word, ⟨p, ' ' :: (cs ++ u)⟩) := by
      rw [List.cons_append, plainWord?]
      rfl
    have hread := hgap rfl fuel (word ++ gap.fold.reverse ++ done) [' '] p.next
      (Nat.le_of_succ_le hfuel) (List.cons_ne_nil _ _) hindent' (Nat.succ_ne_zero _)
    rw [hstop, Option.bind_some]
    simp only [plainAfter?, hempty, Bool.false_eq_true, if_false, Gap.scan]
    rw [Gap.scanFrom_space rfl, hread, Place.next_eq_right, Place.right_right, List.length_cons,
      Nat.add_comm]
    simp
  · rw [plainWord?_cons h hc, hword fuel done gap (c :: word) p.next (Nat.le_of_succ_le hfuel)
      (List.cons_ne_nil _ _) hindent' (Nat.succ_ne_zero _), Place.next_eq_right,
      Place.right_right, List.length_cons, Nat.add_comm]
    simp

/-- A gap goes on, or a word starts; a hash would start a comment instead. -/
theorem PlainGap.cons {c : Char} (h : PlainTail (c :: cs)) (hhash : c ≠ '#')
    (hword : PlainWord indent u endsLine stop cs)
    (hgap : c = ' ' → PlainGap indent u endsLine stop cs) :
    PlainGap indent u endsLine stop (c :: cs) := by
  intro fuel done blanks p hfuel hne hindent hcolumn
  have hindent' : indent ≤ p.next.column := Nat.le_succ_of_le hindent
  by_cases hc : c = ' '
  · subst hc
    have hread := hgap rfl fuel done (' ' :: blanks) p.next (Nat.le_of_succ_le hfuel)
      (List.cons_ne_nil _ _) hindent' (Nat.succ_ne_zero _)
    rw [List.cons_append, Gap.scanFrom_space rfl, hread, Place.next_eq_right, Place.right_right,
      List.length_cons, Nat.add_comm]
    simp
  · obtain ⟨fuel, rfl⟩ : ∃ f, fuel = f + 1 := ⟨fuel - 1, by simp at hfuel; omega⟩
    have hsolid : Solid (c :: cs ++ u) :=
      solid_cons.2 ((h.chars c List.mem_cons_self).resolve_left hc)
    have hempty : blanks.isEmpty = false := List.isEmpty_eq_false_iff.2 hne
    have hmarker : Cursor.atMarker ⟨p, c :: cs ++ u⟩ = false := Cursor.atMarker_of_column hcolumn
    have hnocomment : (c :: cs ++ u).head? ≠ some '#' := by simpa using hhash
    have hread := hword fuel done { blanks := blanks } [c] p.next (Nat.le_of_succ_le_succ hfuel)
      (List.cons_ne_nil _ _) hindent' (Nat.succ_ne_zero _)
    have hnot : ¬ p.column < indent := Nat.not_lt.2 hindent
    rw [Gap.scanFrom_solid hsolid]
    simp only [plainResume?, hempty, hnot, Bool.false_and, Bool.false_or, Bool.false_eq_true,
      decide_false, if_false]
    rw [plainFrom?_succ _ _ _ _ hmarker hnocomment, plainWord?_cons h hc, hread,
      Place.next_eq_right, Place.right_right, List.length_cons, Nat.add_comm]
    simp [Gap.fold]

/-- **The rest of a plain text is read**, from inside a word or a gap. -/
theorem PlainTail.read (hu : PlainEnd indent u endsLine stop) (h : PlainTail cs) :
    PlainWord indent u endsLine stop cs ∧
      (cs ≠ [] → cs.head? ≠ some '#' → PlainGap indent u endsLine stop cs) := by
  induction cs with
  | nil => exact ⟨plainWord_nil hu, fun hne => absurd rfl hne⟩
  | cons c cs ih =>
    obtain ⟨hword, hgap⟩ := ih h.of_cons
    have hgap' : c = ' ' → PlainGap indent u endsLine stop cs := by
      rintro rfl
      refine hgap ?_ ((endsEarly_cons h.early).2.2 rfl)
      rintro rfl
      exact absurd rfl h.last
    refine ⟨hword.cons h hgap', fun _ hhash => ?_⟩
    exact PlainGap.cons h (by simpa using hhash) hword hgap'

theorem PlainTail.of_isPlainSafe (h : isPlainSafe cs = true) : PlainTail cs := by
  simp only [isPlainSafe, Bool.and_eq_true, Bool.not_eq_true', List.all_eq_true,
    decide_eq_true_eq] at h
  obtain ⟨⟨⟨⟨-, hearly⟩, hchars⟩, -⟩, hlast⟩ := h
  refine ⟨fun c hc => ?_, hearly, hlast⟩
  obtain ⟨hprint, hbreak⟩ := hchars c hc
  by_cases hspace : c = ' '
  · exact .inl hspace
  · refine .inr ⟨?_, hbreak⟩
    simp only [isBlank, Bool.or_eq_false_iff, beq_eq_false_iff_ne]
    refine ⟨hspace, ?_⟩
    rintro rfl
    exact absurd hprint (by decide)

/-- What a plain text starts with does not start another kind of node. -/
theorem startsLikeNode_of_isPlainSafe (h : isPlainSafe cs = true) : startsLikeNode cs = false := by
  simp only [isPlainSafe, Bool.and_eq_true, Bool.not_eq_true'] at h
  exact h.1.1.1.1

theorem head?_of_isPlainSafe (h : isPlainSafe cs = true) : cs.head? ≠ some ' ' := by
  simp only [isPlainSafe, Bool.and_eq_true, decide_eq_true_eq] at h
  exact h.1.2

/-- Characters that no plain text starts with. -/
theorem startsLikeNode_of_mem {c : Char}
    (h : c ∈ "#,[]\x7b\x7d&*!|>'\"%@\x60".toList) (cs : List Char) :
    startsLikeNode (c :: cs) = true := by
  have hdash : c ≠ '-' := by rintro rfl; exact absurd h (by decide)
  have hdot : c ≠ '.' := by rintro rfl; exact absurd h (by decide)
  rw [startsLikeNode]
  · rw [List.contains_iff_mem.2 h, Bool.true_or]
  · rintro rest hc -
    exact absurd hc hdash
  · rintro rest hc -
    exact absurd hc hdot

/-- **A text that may stand without quotes is read up to what comes behind.** -/
theorem plain?_of_isPlainSafe {c : Char} (h : isPlainSafe (c :: cs) = true)
    (hu : PlainEnd indent u endsLine stop) {p : Place} (hp : indent ≤ p.column + 1)
    (hmarker : Cursor.atMarker ⟨p, c :: cs ++ u⟩ = false) :
    plain? false indent ⟨p, c :: cs ++ u⟩ =
      some ⟨c :: cs, endsLine, stop (p.right (cs.length + 1))⟩ := by
  have htail := PlainTail.of_isPlainSafe h
  have hc : c ≠ ' ' := by simpa using head?_of_isPlainSafe h
  have hhash : (c :: cs ++ u).head? ≠ some '#' := by
    rintro ⟨⟩
    have hstart := startsLikeNode_of_isPlainSafe h
    rw [startsLikeNode_of_mem (by decide)] at hstart
    cases hstart
  have hfuel : cs.length ≤ (c :: cs ++ u).length := by
    simp only [List.length_append, List.length_cons]
    omega
  have hread := (htail.of_cons.read hu).1 _ [] {} [c] p.next hfuel (List.cons_ne_nil _ _) hp
    (Nat.succ_ne_zero _)
  rw [plain?, plainFrom?_succ _ _ _ _ hmarker hhash, plainWord?_cons htail hc, hread,
    Place.next_eq_right, Place.right_right, Nat.add_comm]
  rfl

end Reading

/-! ### Words of letters and digits -/

/-- The characters of names and of numbers without a sign. -/
def isWordChar (c : Char) : Bool :=
  c.isLower || c.isDigit || c == '_'

theorem toNat_of_isWordChar {c : Char} (h : isWordChar c = true) :
    0x30 ≤ c.toNat ∧ c.toNat ≤ 0x7A := by
  have hlower : c.isLower = (decide (c.val ≥ 'a'.val) && decide (c.val ≤ 'z'.val)) := rfl
  have hdigit : c.isDigit = (decide (c.val ≥ '0'.val) && decide (c.val ≤ '9'.val)) := rfl
  simp only [isWordChar, hlower, hdigit, Bool.or_eq_true, Bool.and_eq_true, decide_eq_true_eq,
    beq_iff_eq, UInt32.le_iff_toNat_le, ge_iff_le] at h
  obtain (h | h) | rfl := h
  · simp at h
    omega
  · simp at h
    omega
  · decide

theorem hasPair_eq_false {test : Char → Char → Bool} {cs : List Char}
    (h : ∀ a ∈ cs, ∀ b, test a b = false) : hasPair test cs = false := by
  induction cs with
  | nil => rfl
  | cons a cs ih =>
    have ih' := ih fun a ha => h a (List.mem_cons_of_mem _ ha)
    cases cs with
    | nil => rfl
    | cons b cs => rw [hasPair, h a List.mem_cons_self, ih', Bool.or_self]

section Chars
variable {cs : List Char}

theorem not_mem_of_chars (h : ∀ c ∈ cs, isWordChar c = true ∨ c = '-') {x : Char}
    (hx : isWordChar x = false) (hdash : x ≠ '-') : x ∉ cs := by
  intro hmem
  obtain hword | rfl := h x hmem
  · rw [hx] at hword
    cases hword
  · exact hdash rfl

theorem isBreak_of_chars (h : ∀ c ∈ cs, isWordChar c = true ∨ c = '-') :
    ∀ c ∈ cs, isBreak c = false := by
  intro c hc
  have hne : ∀ x, isWordChar x = false → x ≠ '-' → c ≠ x := by
    rintro x hx hdash rfl
    exact not_mem_of_chars h hx hdash hc
  simp only [isBreak, Bool.or_eq_false_iff, beq_eq_false_iff_ne]
  exact ⟨⟨⟨⟨hne _ rfl (by decide), hne _ rfl (by decide)⟩, hne _ rfl (by decide)⟩,
    hne _ rfl (by decide)⟩, hne _ rfl (by decide)⟩

theorem isPrintable_of_chars (h : ∀ c ∈ cs, isWordChar c = true ∨ c = '-') :
    ∀ c ∈ cs, isPrintable c = true := by
  intro c hc
  have hrange : 0x2D ≤ c.toNat ∧ c.toNat ≤ 0x7A := by
    obtain hword | rfl := h c hc
    · have := toNat_of_isWordChar hword
      omega
    · decide
  rw [isPrintable]
  simp only [Bool.or_eq_true, Bool.and_eq_true, decide_eq_true_eq]
  omega

theorem endsEarly_of_chars (h : ∀ c ∈ cs, isWordChar c = true ∨ c = '-') :
    endsEarly cs = false := by
  have hpair : hasPair (fun a b =>
      (a == ':' && (isBlank b || isBreak b || b == '\x00')) ||
        ((isBlank a || isBreak a || a == '\x00') && b == '#')) cs = false := by
    refine hasPair_eq_false fun a ha b => ?_
    have hne : ∀ x, isWordChar x = false → x ≠ '-' → a ≠ x := by
      rintro x hx hdash rfl
      exact not_mem_of_chars h hx hdash ha
    have hcolon : a ≠ ':' := hne _ rfl (by decide)
    have hzero : a ≠ '\x00' := hne _ rfl (by decide)
    have hblank : isBlank a = false := by
      simp only [isBlank, Bool.or_eq_false_iff, beq_eq_false_iff_ne]
      exact ⟨hne _ rfl (by decide), hne _ rfl (by decide)⟩
    simp [hcolon, isBreak_of_chars h a ha, hblank, hzero]
  have hlast : cs.getLast? ≠ some ':' := fun hlast =>
    not_mem_of_chars h rfl (by decide) (List.mem_of_getLast? hlast)
  rw [endsEarly, hpair, Bool.false_or]
  exact beq_eq_false_iff_ne.2 hlast

/-- Letters, digits and minus signs may stand without quotes, if they start no other node. -/
theorem isPlainSafe_of_chars (h : ∀ c ∈ cs, isWordChar c = true ∨ c = '-')
    (hstart : startsLikeNode cs = false) : isPlainSafe cs = true := by
  have hspace : ' ' ∉ cs := not_mem_of_chars h rfl (by decide)
  simp only [isPlainSafe, hstart, endsEarly_of_chars h, Bool.not_false, Bool.true_and,
    Bool.and_eq_true, List.all_eq_true, decide_eq_true_eq, Bool.not_eq_true']
  exact ⟨⟨fun c hc => ⟨isPrintable_of_chars h c hc, isBreak_of_chars h c hc⟩,
    fun hhead => hspace (List.mem_of_head? hhead)⟩,
    fun hlast => hspace (List.mem_of_getLast? hlast)⟩

end Chars

end HeaderAbi.Yaml
