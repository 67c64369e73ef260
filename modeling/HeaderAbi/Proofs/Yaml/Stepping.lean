import HeaderAbi.Proofs.Yaml.Place
import HeaderAbi.Yaml.Lexer

/-!
# The lexer from word to word

`Reaches x y` says that the lexer gives the same words from `x` as from `y`, with fuel to spare:
every step takes at least one character.  `At` describes a lexer outside brackets by what the next
steps depend on.  From such a place the lexer passes over blanks (`At.spaces`, `At.line`), closes a
collection (`At.close`), opens one (`At.openHere`), or reads a word.
-/

namespace HeaderAbi.Yaml

/-- Text at which blanks and comments end. -/
def Clear (t : List Char) : Prop :=
  Solid t ∧ t.head? ≠ some '#'

theorem clear_nil : Clear [] := ⟨by simp [Solid], by simp⟩

theorem clear_cons {c : Char} (hblank : isBlank c = false) (hbreak : isBreak c = false)
    (hhash : c ≠ '#') (t : List Char) : Clear (c :: t) :=
  ⟨solid_cons.2 ⟨hblank, hbreak⟩, by simpa using hhash⟩

theorem Clear.append {s t : List Char} (h : Clear s) (hs : s ≠ []) : Clear (s ++ t) := by
  obtain ⟨c, s, rfl⟩ := List.exists_cons_of_ne_nil hs
  exact ⟨h.1.append (List.cons_ne_nil _ _), h.2⟩

namespace Lexer

/-! ### Blanks -/

theorem skipBlanks_spaces {x : Lexer} {p : Place} {n : Nat} {t : List Char}
    (hx : x.cursor = ⟨p, spaces n ++ t⟩) (ht : Clear t) (fuel : Nat) :
    x.skipBlanks (fuel + 1) = { x with cursor := ⟨p.right n, t⟩ } := by
  have hskip : ∀ tabs : Bool, Cursor.skipWhile (fun b => b == ' ' || (tabs && b == '\t'))
      ⟨p, spaces n ++ t⟩ = ⟨p.right n, t⟩ := by
    intro tabs
    have hspaces : ∀ c ∈ spaces n, (c == ' ' || (tabs && c == '\t')) = true := by
      intro c hc
      rw [(List.mem_replicate.1 hc).2]
      rfl
    have hstop : ∀ c ∈ t.head?, (c == ' ' || (tabs && c == '\t')) = false := by
      intro c hc
      have hblank := (ht.1 c hc).1
      simp only [isBlank, Bool.or_eq_false_iff] at hblank
      rw [hblank.1, hblank.2, Bool.and_false, Bool.or_self]
    rw [Cursor.skipWhile_append hspaces hstop, spaces, List.length_replicate]
  have hhash : (t.head? == some '#') = false := beq_eq_false_iff_ne.2 ht.2
  have hbreak : (t.isEmpty || !atBreak t) = true := by
    cases t with
    | nil => rfl
    | cons c t => rw [atBreak, (ht.1 c rfl).2]; rfl
  rw [skipBlanks]
  simp only [hx, hskip, hhash, hbreak, Bool.false_eq_true, if_false, if_true]

theorem skipBlanks_line {x : Lexer} {p : Place} {n : Nat} {t : List Char}
    (hx : x.cursor = ⟨p, '\n' :: (spaces n ++ t)⟩) (hflow : x.flowLevel = 0) (ht : Clear t)
    (fuel : Nat) :
    x.skipBlanks (fuel + 2) =
      { x with cursor := ⟨(p.nextLine 1).right n, t⟩, keyAllowed := true } := by
  have hskip : ∀ tabs : Bool, Cursor.skipWhile (fun b => b == ' ' || (tabs && b == '\t'))
      ⟨p, '\n' :: (spaces n ++ t)⟩ = ⟨p, '\n' :: (spaces n ++ t)⟩ := by
    intro tabs
    cases tabs <;> rfl
  have hadvance : Cursor.advance ⟨p, '\n' :: (spaces n ++ t)⟩ = ⟨p.nextLine 1, spaces n ++ t⟩ :=
    Cursor.advance_break rfl (by decide)
  have hhash : (('\n' :: (spaces n ++ t)).head? == some '#') = false := rfl
  have hbreak : (('\n' :: (spaces n ++ t)).isEmpty || !atBreak ('\n' :: (spaces n ++ t))) = false :=
    rfl
  rw [skipBlanks]
  simp only [hx, hskip, hhash, hbreak, hadvance, hflow, Bool.false_eq_true, if_false,
    beq_self_eq_true, Bool.or_true]
  rw [skipBlanks_spaces rfl ht]

/-- The lexer where the next word starts: blanks are passed over, and the collections closed that
are indented more. -/
def settle (x : Lexer) : Lexer :=
  let x := x.skipBlanks (x.cursor.rest.length + 1)
  x.closeBeyond (x.cursor.place.column + 1)

theorem run?_succ (x : Lexer) (fuel : Nat) :
    x.run? (fuel + 1) = match x.settle.cursor.rest with
      | [] => (x.settle.closeBeyond 0).dropKey?.map (·.found.reverse)
      | c :: after => (x.settle.word? c after).bind (·.run? fuel) := rfl

/-! ### Reaching -/

/-- From `x` the same words are read as from `y`; the characters in between pay for the steps. -/
def Reaches (x y : Lexer) : Prop :=
  ∃ n, n + y.cursor.rest.length ≤ x.cursor.rest.length ∧
    ∀ fuel, x.run? (n + (fuel + 1)) = y.run? (fuel + 1)

theorem Reaches.refl (x : Lexer) : Reaches x x :=
  ⟨0, Nat.le_of_eq (Nat.zero_add _), fun fuel => by rw [Nat.zero_add]⟩

theorem Reaches.trans {x y z : Lexer} (h : Reaches x y) (h' : Reaches y z) : Reaches x z := by
  obtain ⟨m, hm, hrun⟩ := h
  obtain ⟨n, hn, hrun'⟩ := h'
  refine ⟨m + n, by omega, fun fuel => ?_⟩
  have h := hrun (n + fuel)
  have hfuel : m + n + (fuel + 1) = m + (n + fuel + 1) := by omega
  rw [hfuel, h, Nat.add_assoc, hrun']

/-- Nothing is read before the next word starts. -/
theorem reaches_of_settle {x y : Lexer} (h : x.settle = y.settle)
    (hlen : y.cursor.rest.length ≤ x.cursor.rest.length) : Reaches x y := by
  refine ⟨0, by omega, fun fuel => ?_⟩
  rw [Nat.zero_add, run?_succ, run?_succ, h]

/-- A word is read. -/
theorem reaches_of_word {x y : Lexer} {c : Char} {after : List Char} (hx : x.settle = x)
    (hrest : x.cursor.rest = c :: after) (hword : x.word? c after = some y)
    (hlen : y.cursor.rest.length ≤ after.length) : Reaches x y := by
  refine ⟨1, by rw [hrest, List.length_cons]; omega, fun fuel => ?_⟩
  rw [Nat.add_comm, run?_succ, hx, hrest]
  simp only [hword, Option.bind_some]

theorem settle_spaces {x : Lexer} {p : Place} {n : Nat} {t : List Char}
    (hx : x.cursor = ⟨p, spaces n ++ t⟩) (ht : Clear t) :
    x.settle = { x with cursor := ⟨p.right n, t⟩ }.closeBeyond ((p.right n).column + 1) := by
  simp only [settle, skipBlanks_spaces hx ht]

theorem settle_clear {x : Lexer} (ht : Clear x.cursor.rest) :
    x.settle = x.closeBeyond (x.cursor.place.column + 1) :=
  settle_spaces (n := 0) (p := x.cursor.place) rfl ht

theorem settle_line {x : Lexer} {p : Place} {n : Nat} {t : List Char}
    (hx : x.cursor = ⟨p, '\n' :: (spaces n ++ t)⟩) (hflow : x.flowLevel = 0) (ht : Clear t) :
    x.settle = { x with cursor := ⟨(p.nextLine 1).right n, t⟩, keyAllowed := true }.closeBeyond
      (((p.nextLine 1).right n).column + 1) := by
  have hlen : x.cursor.rest.length = (spaces n ++ t).length + 1 := by rw [hx]; rfl
  simp only [settle, hlen, skipBlanks_line hx hflow ht]

/-- The innermost collection is closed first. -/
theorem closeBeyond_cons {x : Lexer} {l limit : Nat} {is : List Nat} (hflow : x.flowLevel = 0)
    (his : x.indents = l :: is) (hl : limit < l) :
    x.closeBeyond limit =
      { x with found := .close :: x.found, count := x.count + 1, indents := is }.closeBeyond
        limit := by
  have hnot : ¬ x.flowLevel ≠ 0 := fun h => h hflow
  simp only [closeBeyond, hnot, if_false, his, List.takeWhile_cons, decide_eq_true hl, if_true,
    List.length_cons, List.drop_succ_cons, List.replicate_succ', List.append_assoc,
    List.singleton_append]
  congr 1
  omega

theorem closeBeyond_of_le {x : Lexer} {limit : Nat} (h : x.level ≤ limit) :
    x.closeBeyond limit = x := by
  unfold closeBeyond
  split
  · rfl
  · have hnone : x.indents.takeWhile (limit < ·) = [] := by
      rw [level] at h
      cases his : x.indents with
      | nil => rfl
      | cons l is =>
        rw [his] at h
        have hle : ¬ limit < l := Nat.not_lt.2 h
        rw [List.takeWhile_cons, decide_eq_false hle]
        rfl
    rw [hnone]
    rfl

/-! ### Places outside brackets -/

/-- The lexer has found the words `ws` and stands outside brackets, in a column, in front of the
characters `t`.  No key is pending that has to come. -/
structure At (x : Lexer) (ws : List Token) (is : List Nat) (allowed : Bool) (column : Nat)
    (t : List Char) : Prop where
  found : x.found = ws.reverse
  count : x.count = ws.length
  indents : x.indents = is
  flowLevel : x.flowLevel = 0
  key : ∀ k ∈ x.key, k.isRequired = false
  allowed : x.keyAllowed = allowed
  column : x.cursor.place.column = column
  rest : x.cursor.rest = t

section Places
variable {x : Lexer} {ws : List Token} {is : List Nat} {allowed : Bool} {column n : Nat}
  {t : List Char}

theorem At.cursor (h : x.At ws is allowed column t) : x.cursor = ⟨x.cursor.place, t⟩ := by
  rw [← h.rest]

theorem At.level (h : x.At ws is allowed column t) : x.level = is.headD 0 := by
  rw [Lexer.level, h.indents]

/-- Spaces are passed over. -/
theorem At.spaces (h : x.At ws is allowed column (spaces n ++ t)) (ht : Clear t) :
    ∃ y, Reaches x y ∧ y.At ws is allowed (column + n) t := by
  have hcolumn : (x.cursor.place.right n).column = column + n := by
    rw [← h.column]
    rfl
  refine ⟨{ x with cursor := ⟨x.cursor.place.right n, t⟩ }, reaches_of_settle ?_ ?_,
    ⟨h.found, h.count, h.indents, h.flowLevel, h.key, h.allowed, hcolumn, rfl⟩⟩
  · rw [settle_spaces h.cursor ht, settle_clear ht]
  · rw [h.rest, List.length_append]
    exact Nat.le_add_left _ _

/-- A line break and the indentation of the next line are passed over.  There a key may start. -/
theorem At.line (h : x.At ws is allowed column ('\n' :: (Yaml.spaces n ++ t))) (ht : Clear t) :
    ∃ y, Reaches x y ∧ y.At ws is true n t := by
  have hcolumn : ((x.cursor.place.nextLine 1).right n).column = n := Nat.zero_add n
  refine ⟨{ x with cursor := ⟨(x.cursor.place.nextLine 1).right n, t⟩, keyAllowed := true },
    reaches_of_settle ?_ ?_,
    ⟨h.found, h.count, h.indents, h.flowLevel, h.key, rfl, hcolumn, rfl⟩⟩
  · rw [settle_line h.cursor h.flowLevel ht, settle_clear ht]
  · rw [h.rest, List.length_cons, List.length_append]
    exact Nat.le_add_right_of_le (Nat.le_add_left _ _)

/-- A collection is closed that is indented more. -/
theorem At.close {l : Nat} (h : x.At ws (l :: is) allowed column t) (ht : Clear t)
    (hl : column + 1 < l) : ∃ y, Reaches x y ∧ y.At (ws ++ [.close]) is allowed column t := by
  have hfound : Token.close :: x.found = (ws ++ [Token.close]).reverse := by
    rw [h.found, List.reverse_append]
    rfl
  have hcount : x.count + 1 = (ws ++ [Token.close]).length := by
    rw [h.count, List.length_append]
    rfl
  have hclear : Clear x.cursor.rest := by rwa [h.rest]
  refine ⟨{ x with found := .close :: x.found, count := x.count + 1, indents := is },
    reaches_of_settle ?_ (Nat.le_refl _),
    ⟨hfound, hcount, rfl, h.flowLevel, h.key, h.allowed, h.column, h.rest⟩⟩
  have hlimit : x.cursor.place.column + 1 < l := by rwa [h.column]
  rw [settle_clear hclear, closeBeyond_cons h.flowLevel h.indents hlimit]
  exact Eq.symm (settle_clear (by exact hclear))

/-- Where the collections that are open are not indented more, the next word starts. -/
theorem At.settle (h : x.At ws is allowed column t) (ht : Clear t) (hle : is.headD 0 ≤ column + 1) :
    x.settle = x := by
  have hclear : Clear x.cursor.rest := by rwa [h.rest]
  have hlevel : x.level ≤ x.cursor.place.column + 1 := by rwa [h.level, h.column]
  rw [settle_clear hclear, closeBeyond_of_le hlevel]

theorem At.reaches {y : Lexer} {c : Char} {after : List Char}
    (h : x.At ws is allowed column (c :: after)) (hc : Clear (c :: after))
    (hle : is.headD 0 ≤ column + 1) (hword : x.word? c after = some y)
    (hlen : y.cursor.rest.length ≤ after.length) : Reaches x y :=
  reaches_of_word (h.settle hc hle) h.rest hword hlen

/-! ### Parts of steps -/

theorem dropKey?_eq (h : ∀ k ∈ x.key, k.isRequired = false) :
    x.dropKey? = some { x with key := none } := by
  obtain ⟨cursor, found, count, indents, flowLevel, key, outerKeys, keyAllowed⟩ := x
  cases key with
  | none => rfl
  | some k => simp [dropKey?, h k rfl]

theorem At.dropKey (h : x.At ws is allowed column t) :
    x.dropKey? = some { x with key := none } ∧
      At { x with key := none } ws is allowed column t :=
  ⟨dropKey?_eq h.key,
    ⟨h.found, h.count, h.indents, h.flowLevel, nofun, h.allowed, h.column, h.rest⟩⟩

/-- Punctuation takes its characters and leaves its word. -/
theorem At.punctuate {s : List Char} {n : Nat} (hn : s.length = n) (token : Token) (b : Bool)
    (h : x.At ws is allowed column (s ++ t)) :
    At { x.punctuate n token with keyAllowed := b } (ws ++ [token]) is b (column + n) t where
  found := by
    change token :: x.found = _
    rw [h.found, List.reverse_append]
    rfl
  count := by
    change x.count + 1 = _
    rw [h.count, List.length_append]
    rfl
  indents := h.indents
  flowLevel := h.flowLevel
  key := h.key
  allowed := rfl
  column := by
    change x.cursor.place.column + n = _
    rw [h.column]
  rest := by
    change x.cursor.rest.drop n = t
    rw [h.rest, ← hn, List.drop_left]

/-- The indentations when a collection stands at a column. -/
def opened (column : Nat) (is : List Nat) : List Nat :=
  if is.headD 0 < column + 1 then (column + 1) :: is else is

/-- The word of a collection at a column, if it opens there. -/
def opening (column : Nat) (token : Token) (is : List Nat) : List Token :=
  if is.headD 0 < column + 1 then [token] else []

theorem found_insert (later : List Token) (token : Token)
    (hfound : x.found = later ++ ws.reverse) (hcount : x.count = ws.length + later.length) :
    (x.insert ws.length token).found = later ++ token :: ws.reverse := by
  have hlater : x.count - ws.length = later.length := by omega
  simp only [insert, hlater, hfound, List.take_left, List.drop_left]

/-- The word of a collection comes before the words `later`. -/
theorem openBlock_spec (later : List Token) (column : Nat) (token : Token)
    (hfound : x.found = later ++ ws.reverse) (hcount : x.count = ws.length + later.length)
    (hflow : x.flowLevel = 0) (his : x.indents = is) :
    (x.openBlock column ws.length token).found =
        later ++ (ws ++ opening column token is).reverse ∧
      (x.openBlock column ws.length token).count =
        (ws ++ opening column token is).length + later.length ∧
      (x.openBlock column ws.length token).indents = opened column is := by
  have hlevel : x.level = is.headD 0 := by rw [level, his]
  rw [openBlock, hflow, hlevel, opened, opening]
  by_cases hlt : is.headD 0 < column + 1
  · have hcount' : x.count + 1 = (ws ++ [token]).length + later.length := by
      rw [hcount, List.length_append, List.length_singleton]
      omega
    simp only [hlt, decide_true, beq_self_eq_true, Bool.and_self, if_true]
    refine ⟨?_, hcount', by rw [← his]⟩
    rw [List.reverse_append]
    exact found_insert later token hfound hcount
  · simp only [hlt, decide_false, Bool.and_false, Bool.false_eq_true, if_false, List.append_nil]
    exact ⟨hfound, hcount, his⟩

/-- Opening a collection changes nothing else. -/
theorem openBlock_frame (x : Lexer) (column before : Nat) (token : Token) :
    (x.openBlock column before token).cursor = x.cursor ∧
      (x.openBlock column before token).flowLevel = x.flowLevel ∧
      (x.openBlock column before token).key = x.key ∧
      (x.openBlock column before token).keyAllowed = x.keyAllowed := by
  rw [openBlock]
  split <;> exact ⟨rfl, rfl, rfl, rfl⟩

theorem At.openHere (token : Token) (h : x.At ws is true column t) :
    ∃ y, x.openHere? token = some y ∧
      y.At (ws ++ opening column token is) (opened column is) true column t := by
  have hflow : ¬ x.flowLevel ≠ 0 := fun hne => hne h.flowLevel
  obtain ⟨hfound, hcount, hindents⟩ := openBlock_spec [] column token h.found h.count
    h.flowLevel h.indents
  obtain ⟨hcursor, hflow', hkey, hallowed⟩ := openBlock_frame x column ws.length token
  refine ⟨x.openBlock column ws.length token, ?_, hfound, hcount, hindents, ?_, ?_, ?_, ?_, ?_⟩
  · rw [openHere?, if_neg hflow, if_pos h.allowed, h.column, h.count]
  · rw [hflow', h.flowLevel]
  · rw [hkey]
    exact h.key
  · rw [hallowed, h.allowed]
  · rw [hcursor, h.column]
  · rw [hcursor, h.rest]

end Places

end Lexer

end HeaderAbi.Yaml
