import HeaderAbi.Yaml.ScalarText

/-!
# Lines and gaps of written YAML

A written text is laid out in lines that start with some spaces.  What the lexer does between two
words then comes down to a few cases: `scanFrom` passes over spaces, over line breaks and over the
indentation after a line break, and stops at `Solid` text.
-/

namespace HeaderAbi.Yaml

/-- Text at which a gap ends: the end, or a character that is no blank and no line break. -/
def Solid (t : List Char) : Prop :=
  ∀ c ∈ t.head?, isBlank c = false ∧ isBreak c = false

theorem solid_cons {c : Char} {t : List Char} :
    Solid (c :: t) ↔ isBlank c = false ∧ isBreak c = false := by
  simp [Solid]

theorem Solid.append {s t : List Char} (h : Solid s) (hs : s ≠ []) : Solid (s ++ t) := by
  cases s with
  | nil => exact absurd rfl hs
  | cons c s => exact solid_cons.2 (solid_cons.1 h)

namespace Place

/-- The position some characters further right. -/
def right (p : Place) (n : Nat) : Place :=
  { p with index := p.index + n, column := p.column + n }

theorem right_zero (p : Place) : p.right 0 = p := rfl

theorem right_right (p : Place) (m n : Nat) : (p.right m).right n = p.right (m + n) := by
  simp only [right, Nat.add_assoc]

theorem next_eq_right (p : Place) : p.next = p.right 1 := rfl

end Place

/-- A line break behind a text that does not end with one. -/
def lineEnd (cs : List Char) : List Char :=
  if cs.getLast?.any isBreak then [] else ['\n']

namespace Cursor

theorem atMarker_of_column {c : Cursor} (h : c.place.column ≠ 0) : c.atMarker = false := by
  have hcolumn : (c.place.column == 0) = false := beq_eq_false_iff_ne.2 h
  simp only [atMarker, isMarker, hcolumn, Bool.false_and, Bool.or_false]

theorem takeWhile_append_stop {test : Char → Bool} {s t : List Char} (hs : ∀ c ∈ s, test c = true)
    (ht : ∀ c ∈ t.head?, test c = false) : (s ++ t).takeWhile test = s := by
  rw [List.takeWhile_append_of_pos hs]
  cases t with
  | nil => simp
  | cons c t => rw [List.takeWhile_cons, ht c rfl]; simp

theorem dropWhile_append_stop {test : Char → Bool} {s t : List Char}
    (hs : ∀ c ∈ s, test c = true) (ht : ∀ c ∈ t.head?, test c = false) :
    (s ++ t).dropWhile test = t := by
  rw [List.dropWhile_append_of_pos hs]
  cases t with
  | nil => rfl
  | cons c t => rw [List.dropWhile_cons, ht c rfl]; rfl

theorem skipWhile_append {test : Char → Bool} {p : Place} {s t : List Char}
    (hs : ∀ c ∈ s, test c = true) (ht : ∀ c ∈ t.head?, test c = false) :
    skipWhile test ⟨p, s ++ t⟩ = ⟨p.right s.length, t⟩ := by
  rw [skipWhile, takeWhile_append_stop hs ht, dropWhile_append_stop hs ht]
  rfl

theorem advance_break {p : Place} {c : Char} {cs : List Char} (h : isBreak c = true)
    (hreturn : c ≠ '\x0d') : advance ⟨p, c :: cs⟩ = ⟨p.nextLine 1, cs⟩ := by
  unfold advance
  split
  · next heq => cases heq; exact absurd rfl hreturn
  · next heq => cases heq; rw [if_pos h]
  · next heq => cases heq

end Cursor

namespace Gap

variable {indent : Nat} {g : Gap} {p : Place} {cs : List Char}

theorem scanFrom_solid (h : Solid cs) : scanFrom indent g p cs = (g, ⟨p, cs⟩) := by
  cases cs with
  | nil => rfl
  | cons c cs =>
    obtain ⟨hblank, hbreak⟩ := h c rfl
    rw [scanFrom]
    · simp [hblank, hbreak]
    · rintro rest rfl
      exact absurd hbreak (by decide)

theorem scanFrom_space (h : g.breaks = []) :
    scanFrom indent g p (' ' :: cs) =
      scanFrom indent { g with blanks := ' ' :: g.blanks } p.next cs := by
  rw [scanFrom]
  · simp [isBlank, h]
  · rintro rest ⟨⟩

theorem scanFrom_break {c : Char} (h : isBreak c = true) (hreturn : c ≠ '\x0d')
    (hblank : isBlank c = false) :
    scanFrom indent g p (c :: cs) =
      scanFrom indent { g with blanks := [], breaks := breakValue c :: g.breaks } (p.nextLine 1)
        cs := by
  rw [scanFrom]
  · simp [hblank, h]
  · rintro rest rfl
    exact absurd rfl hreturn

/-- Spaces after a line break are indentation. -/
theorem scanFrom_spaces (h : g.breaks ≠ []) (n : Nat) :
    scanFrom indent g p (spaces n ++ cs) = scanFrom indent g (p.right n) cs := by
  induction n generalizing p with
  | zero => rfl
  | succ n ih =>
    have hstep : scanFrom indent g p (' ' :: (spaces n ++ cs)) =
        scanFrom indent g p.next (spaces n ++ cs) := by
      rw [scanFrom]
      · simp [isBlank, h]
      · rintro rest ⟨⟩
    change scanFrom indent g p (' ' :: (spaces n ++ cs)) = _
    rw [hstep, ih, Place.next_eq_right, Place.right_right, Nat.add_comm]

end Gap

end HeaderAbi.Yaml
