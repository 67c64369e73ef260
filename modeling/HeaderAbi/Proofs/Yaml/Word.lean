import HeaderAbi.Proofs.Yaml.Block
import HeaderAbi.Proofs.Yaml.Plain
import HeaderAbi.Proofs.Yaml.Quoted
import HeaderAbi.Proofs.Yaml.Stepping

/-!
# The words that the lexer reads

What the lexer does with the text of each word, from a place outside brackets: dashes, empty
collections and tags, then scalars in every style, and last the keys of records.  A key is a scalar
first; only the colon behind it makes it a key, and the words in front of it are put in then.
-/

namespace HeaderAbi.Yaml

namespace Lexer

/-! ### Punctuation -/

theorem isMarker_of_head (mark : Char) {a : Char} {c : Cursor} {cs : List Char}
    (hc : c.rest = a :: cs)
    (h : a ≠ mark) : c.isMarker mark = false := by
  unfold Cursor.isMarker
  rw [hc]
  split
  · next heq =>
    cases heq
    simp [h]
  · rw [Bool.and_false]

/-- One dash is no marker. -/
theorem isMarker_dash {c : Cursor} {cs : List Char} (hc : c.rest = '-' :: cs)
    (h : atBlank cs = true) : c.isMarker '-' = false := by
  unfold Cursor.isMarker
  rw [hc]
  split
  · next heq =>
    cases heq
    next y z rest =>
    have hy : (y == '-') = false := by
      rw [beq_eq_false_iff_ne]
      rintro rfl
      exact absurd h (by simp [atBlank, isBlank, isBreak])
    simp [hy]
  · rw [Bool.and_false]

section Punctuation
variable {x : Lexer} {ws : List Token} {is : List Nat} {allowed : Bool} {column : Nat}
  {t : List Char}

/-- A dash starts an item, and the list if none is open there. -/
theorem At.dash (h : x.At ws is true column ('-' :: t)) (ht : atBlank t = true)
    (hle : is.headD 0 ≤ column + 1) :
    ∃ y, Reaches x y ∧
      y.At (ws ++ (opening column .openItems is ++ [.dash])) (opened column is) true (column + 1)
        t := by
  obtain ⟨y, hopen, hy⟩ := h.openHere .openItems
  obtain ⟨hdrop, hy'⟩ := hy.dropKey
  have hz := hy'.punctuate (s := ['-']) (n := 1) rfl .dash true
  have hword : x.word? '-' t = x.item? := by
    have hdash := isMarker_dash h.rest ht
    have hdot := isMarker_of_head '.' h.rest (by decide)
    simp [word?, hdash, hdot, ht]
  rw [List.append_assoc] at hz
  refine ⟨_, h.reaches (clear_cons rfl rfl (by decide) _) hle ?_ ?_, hz⟩
  · rw [hword, item?, hopen]
    simp only [Option.bind_eq_bind, Option.bind_some, hdrop]
    rfl
  · exact Nat.le_of_eq (congrArg List.length hz.rest)

/-- Where the innermost collection is indented less, a possible key is not required. -/
theorem At.saveKey (h : x.At ws is allowed column t) (hlt : is.headD 0 ≤ column) :
    ∃ y, x.saveKey? = some y ∧ y.At ws is allowed column t ∧ y.cursor = x.cursor := by
  cases allowed with
  | false => exact ⟨x, by rw [saveKey?, h.allowed]; rfl, h, rfl⟩
  | true =>
    obtain ⟨hdrop, hy⟩ := h.dropKey
    have hlevel : Lexer.level { x with key := none } = is.headD 0 := hy.level
    have hrequired : (x.flowLevel == 0 &&
        Lexer.level { x with key := none } == x.cursor.place.column + 1) = false := by
      have hne : is.headD 0 ≠ column + 1 := by omega
      rw [hlevel, h.column, beq_eq_false_iff_ne.2 hne, Bool.and_false]
    refine ⟨{ x with key := some ⟨x.count, x.cursor.place, false⟩ }, ?_, ?_, rfl⟩
    · rw [saveKey?, if_pos h.allowed, hdrop]
      simp only [Option.bind_eq_bind, Option.bind_some, hrequired]
      rfl
    · refine ⟨h.found, h.count, h.indents, h.flowLevel, ?_, h.allowed, h.column, h.rest⟩
      rintro _ ⟨⟩
      rfl

/-- Brackets with nothing between them. -/
theorem At.brackets {o c : Char} {token token' : Token} {n : Nat}
    (h : x.At ws is allowed column (o :: c :: '\n' :: (Yaml.spaces n ++ t))) (ht : Clear t)
    (hlt : is.headD 0 ≤ column) (hclear : Clear [o] ∧ Clear [c])
    (ho : ∀ {x : Lexer} {after}, x.cursor.rest = o :: after → x.word? o after = x.openFlow? token)
    (hc : ∀ {x : Lexer} {after}, x.cursor.rest = c :: after →
      x.word? c after = x.closeFlow? token') :
    ∃ y, Reaches x y ∧ y.At (ws ++ [token, token']) is true n t := by
  obtain ⟨y, hsave, hy, -⟩ := h.saveKey hlt
  have hz := hy.punctuate (s := [o]) (n := 1) rfl token true
  let z : Lexer := { y.punctuate 1 token with
    flowLevel := y.flowLevel + 1, key := none, outerKeys := y.key :: y.outerKeys,
    keyAllowed := true }
  let w : Lexer := { z.punctuate 1 token' with
    flowLevel := y.flowLevel, key := y.key, outerKeys := y.outerKeys, keyAllowed := false }
  have hxz : Reaches x z := by
    refine h.reaches (hclear.1.append (List.cons_ne_nil _ _)) (Nat.le_succ_of_le hlt) ?_ ?_
    · rw [ho h.rest, openFlow?, hsave]
      rfl
    · exact Nat.le_of_eq (congrArg List.length hz.rest)
  have hzrest : z.cursor.rest = c :: '\n' :: (Yaml.spaces n ++ t) := hz.rest
  have hzw : Reaches z w := by
    have hsettle : z.settle = z := by
      have hzclear : Clear z.cursor.rest := by
        rw [hzrest]
        exact hclear.2.append (List.cons_ne_nil _ _)
      rw [settle_clear hzclear]
      rfl
    refine reaches_of_word hsettle hzrest ?_ ?_
    · rw [hc hzrest]
      rfl
    · change (z.cursor.rest.drop 1).length ≤ _
      rw [hzrest]
      exact Nat.le_refl _
  have hw : w.At (ws ++ [token, token']) is false (column + 1 + 1)
      ('\n' :: (Yaml.spaces n ++ t)) := by
    refine ⟨?_, ?_, hy.indents, hy.flowLevel, hy.key, rfl, ?_, ?_⟩
    · change token' :: token :: y.found = _
      rw [hy.found, List.reverse_append]
      rfl
    · change y.count + 1 + 1 = _
      rw [hy.count, List.length_append]
      rfl
    · change y.cursor.place.column + 1 + 1 = _
      rw [hy.column]
    · change z.cursor.rest.drop 1 = _
      rw [hzrest]
      rfl
  obtain ⟨v, hwv, hv⟩ := hw.line ht
  exact ⟨v, hxz.trans (hzw.trans hwv), hv⟩

theorem At.emptyList {n : Nat}
    (h : x.At ws is allowed column ('[' :: ']' :: '\n' :: (Yaml.spaces n ++ t))) (ht : Clear t)
    (hlt : is.headD 0 ≤ column) :
    ∃ y, Reaches x y ∧ y.At (ws ++ [.openBracket, .closeBracket]) is true n t := by
  refine h.brackets ht hlt ⟨clear_cons rfl rfl (by decide) _, clear_cons rfl rfl (by decide) _⟩
    ?_ ?_
  · intro x after hx
    simp [word?, isMarker_of_head '-' hx (by decide), isMarker_of_head '.' hx (by decide)]
  · intro x after hx
    simp [word?, isMarker_of_head '-' hx (by decide), isMarker_of_head '.' hx (by decide)]

theorem At.emptyMap {n : Nat}
    (h : x.At ws is allowed column ('{' :: '}' :: '\n' :: (Yaml.spaces n ++ t))) (ht : Clear t)
    (hlt : is.headD 0 ≤ column) :
    ∃ y, Reaches x y ∧ y.At (ws ++ [.openBrace, .closeBrace]) is true n t := by
  refine h.brackets ht hlt ⟨clear_cons rfl rfl (by decide) _, clear_cons rfl rfl (by decide) _⟩
    ?_ ?_
  · intro x after hx
    simp [word?, isMarker_of_head '-' hx (by decide), isMarker_of_head '.' hx (by decide)]
  · intro x after hx
    simp [word?, isMarker_of_head '-' hx (by decide), isMarker_of_head '.' hx (by decide)]

theorem isTagChar_of_blank {c : Char} (h : (isBlank c || isBreak c) = true) :
    isTagChar false c = false := by
  simp only [isBlank, isBreak, Bool.or_eq_true, beq_iff_eq] at h
  rcases h with (rfl | rfl) | ((((rfl | rfl) | rfl) | rfl) | rfl) <;> decide

theorem tagParts?_name {name : List Char} (hname : ∀ c ∈ name, isNameChar c = true)
    (hne : name ≠ []) (ht : atBlank t = true) :
    tagParts? ('!' :: (name ++ t)) = some ("!", String.ofList name, t) := by
  have hhead : ∀ c ∈ t.head?, isTagChar false c = false := by
    cases t with
    | nil => simp
    | cons c t =>
      rintro _ ⟨⟩
      exact isTagChar_of_blank ht
  have hstop : ∀ c ∈ t.head?, isNameChar c = false := by
    intro c hc
    have := hhead c hc
    simp only [isTagChar, Bool.or_eq_false_iff] at this
    exact this.1.1
  have hnone : t.takeWhile (isTagChar false) = [] :=
    Cursor.takeWhile_append_stop (s := []) (by simp) hhead
  have hall : t.dropWhile (isTagChar false) = t :=
    Cursor.dropWhile_append_stop (s := []) (by simp) hhead
  have hempty : name.isEmpty = false := List.isEmpty_eq_false_iff.2 hne
  have hnameTake := Cursor.takeWhile_append_stop hname hstop
  have hnameDrop := Cursor.dropWhile_append_stop hname hstop
  unfold tagParts?
  split
  · next heq =>
    obtain ⟨c, name, rfl⟩ := List.exists_cons_of_ne_nil hne
    simp only [List.cons_append, List.cons.injEq, true_and] at heq
    exact absurd (hname c List.mem_cons_self) (by rw [heq.1]; decide)
  · next heq =>
    cases heq
    simp only [hnameTake, hnameDrop]
    split
    · exact absurd ht (by simp [atBlank, isBlank, isBreak])
    · have hempty' : tagText? [] = some "" := rfl
      simp [hnone, hall, hempty, hempty']
  · next hne' => exact absurd rfl (hne' _)

/-- The name of a variant. -/
theorem At.tag {name : List Char}
    (h : x.At ws is allowed column ('!' :: (name ++ t))) (hname : ∀ c ∈ name, isNameChar c = true)
    (hne : name ≠ []) (ht : atBlank t = true) (hlt : is.headD 0 ≤ column) :
    ∃ y, Reaches x y ∧ y.At (ws ++ [.tag "!" (String.ofList name)]) is false
      (column + (name.length + 1)) t := by
  obtain ⟨y, hsave, hy, hcursor⟩ := h.saveKey hlt
  have hz := hy.punctuate (s := '!' :: name) (n := name.length + 1) rfl
    (.tag "!" (String.ofList name)) false
  have hword : x.word? '!' (name ++ t) =
      x.saveKey?.bind fun x => { x with keyAllowed := false }.tag? := by
    simp [word?, isMarker_of_head '-' h.rest (by decide), isMarker_of_head '.' h.rest (by decide)]
  have hlen : ('!' :: (name ++ t)).length - t.length = name.length + 1 := by
    simp only [List.length_cons, List.length_append]
    omega
  refine ⟨_, h.reaches (clear_cons rfl rfl (by decide) _) (Nat.le_succ_of_le hlt) ?_ ?_, hz⟩
  · rw [hword, hsave, Option.bind_some, tag?]
    simp only [hy.rest, tagParts?_name hname hne ht, ht, hlen, Option.bind_eq_bind,
      Option.bind_some, Bool.true_or, Bool.not_true, Bool.false_eq_true, if_false]
    rfl
  · have hlength := congrArg List.length hz.rest
    rw [List.length_append]
    exact Nat.le_trans (Nat.le_of_eq hlength) (Nat.le_add_left _ _)

end Punctuation

/-! ### Scalars -/

/-- What a plain text starts with: none of the marks, and a dash, question mark or colon only with
text behind it. -/
theorem start_of_isPlainSafe {c : Char} {cs : List Char} (h : isPlainSafe (c :: cs) = true) :
    c ∉ "#,[]\x7b\x7d&*!|>'\"%@\x60".toList ∧ isBlank c = false ∧
      ((c == '?' || c == ':' || c == '-') = true → ∀ u, atBlank (cs ++ u) = false) := by
  have hstart := startsLikeNode_of_isPlainSafe h
  have htail := PlainTail.of_isPlainSafe h
  have hspace : c ≠ ' ' := by simpa using head?_of_isPlainSafe h
  have hbreak := ((htail.chars c List.mem_cons_self).resolve_left hspace).1
  refine ⟨fun hmem => ?_, hbreak, fun hc u => ?_⟩
  · rw [startsLikeNode_of_mem hmem] at hstart
    cases hstart
  · have hblank : atBlank cs = false := by
      unfold startsLikeNode at hstart
      split at hstart
      · cases hstart
      · cases hstart
      · next heq =>
        cases heq
        simp only [hc, Bool.true_and, Bool.or_eq_false_iff] at hstart
        exact hstart.2.1
      · next heq => cases heq
    cases cs with
    | nil => cases hblank
    | cons d cs => exact hblank

theorem word?_plain {x : Lexer} {c : Char} {cs u : List Char} (h : isPlainSafe (c :: cs) = true)
    (hflow : x.flowLevel = 0) (hmarker : x.cursor.atMarker = false) :
    x.word? c (cs ++ u) = x.plainScalar? := by
  obtain ⟨hmem, hblank, hnext⟩ := start_of_isPlainSafe h
  have hmarks : x.cursor.isMarker '-' = false ∧ x.cursor.isMarker '.' = false :=
    Bool.or_eq_false_iff.1 hmarker
  have hlist : "#,[]\x7b\x7d&*!|>'\"%@\x60".toList =
      ['#', ',', '[', ']', '{', '}', '&', '*', '!', '|', '>', '\'', '"', '%', '@', '\x60'] := rfl
  have hlist' : "-?:,[]\x7b\x7d#&*!|>'\"%@\x60".toList = ['-', '?', ':', ',', '[', ']', '{', '}',
      '#', '&', '*', '!', '|', '>', '\'', '"', '%', '@', '\x60'] := rfl
  rw [hlist] at hmem
  simp only [List.mem_cons, List.not_mem_nil, or_false, not_or] at hmem
  obtain ⟨h1, h2, h3, h4, h5, h6, h7, h8, h9, h10, h11, h12, h13, h14, h15, h16⟩ := hmem
  unfold word?
  by_cases hc : (c == '?' || c == ':' || c == '-') = true
  · have hafter := hnext hc u
    have hblank' : ((cs.head?.or u.head?).map isBlank).getD false = false := by
      rw [← List.head?_append]
      cases hcs : cs ++ u with
      | nil => rfl
      | cons d ds =>
        rw [hcs, atBlank, Bool.or_eq_false_iff] at hafter
        exact hafter.1
    simp only [Bool.or_eq_true, beq_iff_eq] at hc
    obtain (rfl | rfl) | rfl := hc <;> simp [hmarks, hflow, hafter, hblank']
  · simp only [Bool.or_eq_true, beq_iff_eq, not_or] at hc
    simp [hmarks, hflow, hlist', hblank, hc, h1, h2, h3, h4, h5, h6, h7, h8, h9, h10, h11, h12, h13,
      h14, h15, h16]

section Scalars
variable {x : Lexer} {ws : List Token} {is : List Nat} {allowed : Bool} {column n : Nat}
  {t cs : List Char}

theorem clear_of_isPlainSafe {c : Char} (h : isPlainSafe (c :: cs) = true) (u : List Char) :
    Clear (c :: cs ++ u) := by
  have htail := PlainTail.of_isPlainSafe h
  have hspace : c ≠ ' ' := by simpa using head?_of_isPlainSafe h
  obtain ⟨hblank, hbreak⟩ := (htail.chars c List.mem_cons_self).resolve_left hspace
  refine clear_cons hblank hbreak ?_ _
  rintro rfl
  exact (start_of_isPlainSafe h).1 (by decide)

/-- A scalar that starts right of the innermost collection is no required key. -/
theorem At.scalar (read : Cursor → Option (List Char × Bool × Bool × Cursor))
    {isPlain endsLine : Bool} {q : Place} {u : List Char} (h : x.At ws is allowed column t)
    (hlt : is.headD 0 ≤ column)
    (hread : read x.cursor = some (cs, isPlain, endsLine, ⟨q, u⟩)) :
    ∃ y, x.scalar? read = some y ∧
      y.At (ws ++ [.scalar (String.ofList cs) isPlain]) is endsLine q.column u := by
  obtain ⟨y, hsave, hy, hcursor⟩ := h.saveKey hlt
  refine ⟨{ y.push (.scalar (String.ofList cs) isPlain) with
    cursor := ⟨q, u⟩, keyAllowed := endsLine }, ?_, ?_⟩
  · rw [scalar?, hsave]
    simp only [Option.bind_eq_bind, Option.bind_some, hcursor, hread]
    rfl
  · refine ⟨?_, ?_, hy.indents, hy.flowLevel, hy.key, rfl, rfl, rfl⟩
    · change Token.scalar _ _ :: y.found = _
      rw [hy.found, List.reverse_append]
      rfl
    · change y.count + 1 = _
      rw [hy.count, List.length_append]
      rfl

/-- A plain text, up to the end of its line and the indentation of the next. -/
theorem At.plain (h : x.At ws is allowed column (cs ++ '\n' :: (Yaml.spaces n ++ t)))
    (hsafe : isPlainSafe cs = true) (hne : cs ≠ []) (ht : Clear t) (hlt : is.headD 0 ≤ column)
    (hn : n < is.headD 0) :
    ∃ y, Reaches x y ∧ y.At (ws ++ [.scalar (String.ofList cs) true]) is true n t := by
  obtain ⟨c, cs, rfl⟩ := List.exists_cons_of_ne_nil hne
  have hcolumn : x.cursor.place.column ≠ 0 := by
    rw [h.column]
    omega
  have hmarker : Cursor.atMarker ⟨x.cursor.place, c :: cs ++ '\n' :: (Yaml.spaces n ++ t)⟩ =
      false := Cursor.atMarker_of_column hcolumn
  have hlevel : x.level ≤ x.cursor.place.column + 1 := by
    rw [h.level, h.column]
    omega
  obtain ⟨q, hq, hread⟩ : ∃ q : Place, q.column = n ∧
      plain? false x.level x.cursor = some ⟨c :: cs, true, ⟨q, t⟩⟩ := by
    have hread := plain?_of_isPlainSafe hsafe (plainEnd_newline (by rwa [h.level]) ht.1) hlevel
      hmarker
    rw [← h.cursor] at hread
    exact ⟨_, Nat.zero_add n, hread⟩
  rw [← h.cursor] at hmarker
  have hflow : decide (x.flowLevel ≠ 0) = false := by simp [h.flowLevel]
  have hread' : ((plain? (x.flowLevel ≠ 0) x.level x.cursor).map fun p =>
      (p.text, true, p.endsLine, p.cursor)) = some (c :: cs, true, true, ⟨q, t⟩) := by
    rw [hflow, hread]
    rfl
  obtain ⟨y, hy, hat⟩ := h.scalar (fun c => (plain? (x.flowLevel ≠ 0) x.level c).map fun p =>
    (p.text, true, p.endsLine, p.cursor)) hlt hread'
  rw [hq] at hat
  refine ⟨y, h.reaches (clear_of_isPlainSafe hsafe _) (Nat.le_succ_of_le hlt) ?_ ?_, hat⟩
  · exact (word?_plain hsafe h.flowLevel hmarker).trans hy
  · change _ ≤ (cs ++ '\n' :: (Yaml.spaces n ++ t)).length
    rw [hat.rest]
    simp only [List.length_append, List.length_cons]
    omega

theorem clear_quoteMark (isDouble : Bool) (u : List Char) : Clear (quoteMark isDouble :: u) := by
  cases isDouble <;> exact clear_cons rfl rfl (by decide) _

theorem word?_quoted {isDouble : Bool} {u : List Char}
    (hx : x.cursor.rest = quoteMark isDouble :: u) :
    x.word? (quoteMark isDouble) u = x.quotedScalar? isDouble := by
  cases isDouble with
  | true =>
    change x.word? '"' u = _
    simp [word?, isMarker_of_head '-' hx (by decide), isMarker_of_head '.' hx (by decide)]
  | false =>
    change x.word? '\'' u = _
    simp [word?, isMarker_of_head '-' hx (by decide), isMarker_of_head '.' hx (by decide)]

/-- A text in quotes, with the end of its line and the indentation of the next. -/
theorem At.quoted {isDouble : Bool} {indent : Nat} {xs : List Char}
    (h : x.At ws is allowed column
      (quoteMark isDouble :: (xs ++ quoteMark isDouble :: '\n' :: (Yaml.spaces n ++ t))))
    (hquoted : Quoted isDouble indent false cs xs) (hindent : indent ≠ 0) (ht : Clear t)
    (hlt : is.headD 0 ≤ column) :
    ∃ y, Reaches x y ∧ y.At (ws ++ [.scalar (String.ofList cs) false]) is true n t := by
  have hrest : ('\n' :: (Yaml.spaces n ++ t)).head? ≠ some '\'' := by simp
  obtain ⟨q, hread⟩ := hquoted.quoted? hindent hrest x.cursor.place
  rw [← h.cursor] at hread
  have hread' : ((quoted? isDouble x.cursor).map fun r => (r.1, false, false, r.2)) =
      some (cs, false, false, ⟨q, '\n' :: (Yaml.spaces n ++ t)⟩) := by
    rw [hread]
    rfl
  obtain ⟨y, hy, hat⟩ := h.scalar (fun c => (quoted? isDouble c).map fun r =>
    (r.1, false, false, r.2)) hlt hread'
  obtain ⟨z, hyz, hz⟩ := hat.line ht
  refine ⟨z, Reaches.trans ?_ hyz, hz⟩
  refine h.reaches (clear_quoteMark _ _) (Nat.le_succ_of_le hlt) ?_ ?_
  · rw [word?_quoted h.rest]
    exact hy
  · rw [hat.rest]
    simp only [List.length_append, List.length_cons]
    omega

/-- A literal block, up to the indentation of the line behind it. -/
theorem At.block {m : Nat}
    (h : x.At ws is allowed column ('|' :: (literalHints cs ++ '\n' ::
      (literalLines (m + 2) true cs ++ (lineEnd cs ++ (Yaml.spaces n ++ t))))))
    (hne : cs ≠ []) (hprint : ∀ c ∈ cs, isPrintable c = true) (ht : Clear t)
    (hlevel : is.headD 0 = m + 1) (hlt : is.headD 0 ≤ column) (hn : n ≤ m) :
    ∃ y, Reaches x y ∧ y.At (ws ++ [.scalar (String.ofList cs) false]) is true n t := by
  obtain ⟨q, hq, hread⟩ := block?_literal x.cursor.place hne hprint hn ht.1
  rw [← h.cursor] at hread
  obtain ⟨hdrop, hy⟩ := h.dropKey
  refine ⟨{ Lexer.push { x with key := none } (.scalar (String.ofList cs) false) with
    cursor := ⟨q, t⟩, keyAllowed := true }, h.reaches (clear_cons rfl rfl (by decide) _)
      (Nat.le_succ_of_le hlt) ?_ ?_, ?_⟩
  · have hword : ∀ after, x.cursor.rest = '|' :: after →
        x.word? '|' after = x.blockScalar? false := by
      intro after hx
      simp [word?, isMarker_of_head '-' hx (by decide), isMarker_of_head '.' hx (by decide),
        h.flowLevel]
    have hlevel' : Lexer.level { x with key := none } = m + 1 := by rw [hy.level, hlevel]
    rw [hword _ h.rest, blockScalar?, hdrop]
    simp only [Option.bind_eq_bind, Option.bind_some, hlevel', hread]
    rfl
  · simp only [List.length_append, List.length_cons]
    omega
  · refine ⟨?_, ?_, h.indents, h.flowLevel, nofun, rfl, hq, rfl⟩
    · change Token.scalar _ _ :: x.found = _
      rw [h.found, List.reverse_append]
      rfl
    · change x.count + 1 = _
      rw [h.count, List.length_append]
      rfl

end Scalars

/-! ### Keys -/

section Keys
variable {x : Lexer} {ws : List Token} {is : List Nat} {column : Nat} {t cs : List Char} {c : Char}

/-- The lexer behind a text that may be a key. -/
def keyRead (x : Lexer) (r : Bool) (cs t : List Char) : Lexer :=
  { x.push (.scalar (String.ofList cs) true) with
    cursor := ⟨x.cursor.place.right cs.length, ':' :: t⟩
    key := some ⟨x.count, x.cursor.place, r⟩
    keyAllowed := false }

/-- A text where a key may start is remembered as one. -/
theorem At.possibleKey (h : x.At ws is true column (c :: cs ++ ':' :: t))
    (hsafe : isPlainSafe (c :: cs) = true) (hdash : c ≠ '-') (hdot : c ≠ '.')
    (ht : atBlank t = true) (hle : is.headD 0 ≤ column + 1) :
    ∃ r, Reaches x (keyRead x r (c :: cs) t) := by
  have hmarker : x.cursor.atMarker = false := by
    rw [Cursor.atMarker, isMarker_of_head '-' h.rest hdash, isMarker_of_head '.' h.rest hdot]
    rfl
  have hlevel : x.level ≤ x.cursor.place.column + 1 := by rwa [h.level, h.column]
  have hmarker' := hmarker
  rw [h.cursor] at hmarker'
  have hread := plain?_of_isPlainSafe hsafe (plainEnd_colon ht) hlevel hmarker'
  rw [← h.cursor] at hread
  have hflow : decide (x.flowLevel ≠ 0) = false := by simp [h.flowLevel]
  refine ⟨x.flowLevel == 0 && Lexer.level { x with key := none } == x.cursor.place.column + 1, ?_⟩
  refine h.reaches (clear_of_isPlainSafe hsafe _) hle ?_ ?_
  · refine (word?_plain hsafe h.flowLevel hmarker).trans ?_
    rw [plainScalar?, scalar?, saveKey?, if_pos h.allowed, h.dropKey.1]
    simp only [Option.bind_eq_bind, Option.bind_some, Option.pure_def, hflow, hread,
      Option.map_some]
    rfl
  · change (':' :: t).length ≤ (cs ++ ':' :: t).length
    simp only [List.length_append]
    omega

theorem currentKey?_keyRead {r : Bool} (hlen : cs.length ≤ 1024) :
    (keyRead x r cs t).currentKey? = some (some ⟨x.count, x.cursor.place, r⟩) := by
  simp [currentKey?, keyRead, Place.right, hlen]

/-- The lexer behind the colon of a key. -/
def keyFound (x : Lexer) (r : Bool) (cs t : List Char) : Lexer :=
  let y := ((keyRead x r cs t).insert x.count .key).openBlock x.cursor.place.column x.count
    .openEntries
  { y.punctuate 1 .value with key := none, keyAllowed := false }

theorem cursor_keyFound (x : Lexer) (r : Bool) (cs t : List Char) :
    (keyFound x r cs t).cursor = ⟨(x.cursor.place.right cs.length).right 1, t⟩ := by
  obtain ⟨hcursor, -⟩ := openBlock_frame ((keyRead x r cs t).insert x.count .key)
    x.cursor.place.column x.count .openEntries
  simp only [keyFound, punctuate, push, skip, hcursor]
  rfl

/-- The colon turns the text before it into a key. -/
theorem At.colon {r : Bool} (h : x.At ws is true column (cs ++ ':' :: t)) (hlen : cs.length ≤ 1024)
    (ht : atBlank t = true) (hle : is.headD 0 ≤ column + 1) :
    Reaches (keyRead x r cs t) (keyFound x r cs t) := by
  have hclear : Clear (keyRead x r cs t).cursor.rest := clear_cons rfl rfl (by decide) _
  have hlevel : (keyRead x r cs t).level ≤ (keyRead x r cs t).cursor.place.column + 1 := by
    change x.level ≤ x.cursor.place.column + cs.length + 1
    rw [h.level, h.column]
    omega
  have hsettle : (keyRead x r cs t).settle = keyRead x r cs t := by
    rw [settle_clear hclear, closeBeyond_of_le hlevel]
  have hrest : (keyRead x r cs t).cursor.rest = ':' :: t := rfl
  have hword : (keyRead x r cs t).word? ':' t = (keyRead x r cs t).value? := by
    simp [word?, isMarker_of_head '-' hrest (by decide), isMarker_of_head '.' hrest (by decide), ht]
  have hvalue : (keyRead x r cs t).value? = some (keyFound x r cs t) := by
    rw [value?, currentKey?_keyRead hlen]
    rfl
  have hcursor : (keyFound x r cs t).cursor.rest = t := by rw [cursor_keyFound]
  exact reaches_of_word hsettle hrest (hword.trans hvalue) (Nat.le_of_eq (congrArg _ hcursor))

/-- A key with its colon, and the map if none is open there. -/
theorem At.keyColon (h : x.At ws is true column (c :: cs ++ ':' :: t))
    (hsafe : isPlainSafe (c :: cs) = true) (hdash : c ≠ '-') (hdot : c ≠ '.')
    (hlen : cs.length < 1024) (ht : atBlank t = true) (hle : is.headD 0 ≤ column + 1) :
    ∃ y, Reaches x y ∧
      y.At (ws ++ (opening column .openEntries is ++
        [.key, .scalar (String.ofList (c :: cs)) true, .value])) (opened column is) false
        (column + (cs.length + 2)) t := by
  obtain ⟨r, hread⟩ := h.possibleKey hsafe hdash hdot ht hle
  refine ⟨keyFound x r (c :: cs) t, hread.trans (h.colon hlen ht hle), ?_⟩
  let y := (keyRead x r (c :: cs) t).insert ws.length .key
  have hscalar : (keyRead x r (c :: cs) t).found =
      [.scalar (String.ofList (c :: cs)) true] ++ ws.reverse := by
    rw [← h.found]
    rfl
  have hfound : y.found = [.scalar (String.ofList (c :: cs)) true, .key] ++ ws.reverse :=
    found_insert [.scalar (String.ofList (c :: cs)) true] .key hscalar (by
      rw [← h.count]
      rfl)
  have hcount : y.count = ws.length + 2 := by
    rw [← h.count]
    rfl
  obtain ⟨hfound', hcount', hindents⟩ := openBlock_spec _ column .openEntries hfound hcount
    h.flowLevel h.indents
  obtain ⟨-, hflow, -⟩ := openBlock_frame y column ws.length .openEntries
  have hkey : keyFound x r (c :: cs) t =
      { (y.openBlock column ws.length .openEntries).punctuate 1 .value with
        key := none, keyAllowed := false } := by
    rw [keyFound, h.count, h.column]
  have hcursor := cursor_keyFound x r (c :: cs) t
  refine ⟨?_, ?_, ?_, ?_, ?_, ?_, ?_, ?_⟩
  · rw [hkey]
    change Token.value :: (y.openBlock column ws.length .openEntries).found = _
    rw [hfound']
    simp
  · rw [hkey]
    change (y.openBlock column ws.length .openEntries).count + 1 = _
    rw [hcount']
    simp
    omega
  · rw [hkey]
    exact hindents
  · rw [hkey]
    exact hflow.trans h.flowLevel
  · rw [hkey]
    nofun
  · rw [hkey]
  · rw [hcursor]
    change x.cursor.place.column + (c :: cs).length + 1 = _
    rw [h.column, List.length_cons]
    omega
  · rw [hcursor]

end Keys

end Lexer

end HeaderAbi.Yaml
