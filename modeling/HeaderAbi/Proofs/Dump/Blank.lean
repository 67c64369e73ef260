import HeaderAbi.Dump.Content
import HeaderAbi.Proofs.Packed.Codec
import HeaderAbi.Proofs.Yaml.Word

/-!
# Blank dumps

Bytes without anything but the white space of ASCII are a text (`exists_text_of_isAsciiBlank`).  JSON
finds no value in it (`Json.parse?_of_isBlankText`), and YAML finds at most a node without content
(`Yaml.parse?_of_isBlankText`): a tab cannot start a word, and a form feed may not stand in a text.
-/

namespace HeaderAbi

/-- The text holds nothing but the white space of ASCII. -/
def IsBlankText (cs : List Char) : Prop :=
  ∀ c ∈ cs, c ∈ [' ', '\t', '\n', '\x0c', '\x0d']

theorem isBlankText_nil : IsBlankText [] := nofun

theorem isBlankText_cons {c : Char} {cs : List Char} :
    IsBlankText (c :: cs) ↔ c ∈ [' ', '\t', '\n', '\x0c', '\x0d'] ∧ IsBlankText cs :=
  List.forall_mem_cons

theorem exists_char_of_isAsciiBlank {b : UInt8} (h : Text.isAsciiBlank b = true) :
    ∃ c ∈ [' ', '\t', '\n', '\x0c', '\x0d'], String.utf8EncodeChar c = [b] := by
  simp only [Text.isAsciiBlank, Bool.or_eq_true, beq_iff_eq] at h
  obtain (((rfl | rfl) | rfl) | rfl) | rfl := h
  · exact ⟨' ', by decide, rfl⟩
  · exact ⟨'\t', by decide, rfl⟩
  · exact ⟨'\n', by decide, rfl⟩
  · exact ⟨'\x0c', by decide, rfl⟩
  · exact ⟨'\x0d', by decide, rfl⟩

theorem exists_chars_of_isAsciiBlank {bs : List UInt8}
    (h : ∀ b ∈ bs, Text.isAsciiBlank b = true) :
    ∃ cs, IsBlankText cs ∧ cs.flatMap String.utf8EncodeChar = bs := by
  induction bs with
  | nil => exact ⟨[], isBlankText_nil, rfl⟩
  | cons b bs ih =>
    obtain ⟨hb, hbs⟩ := List.forall_mem_cons.1 h
    obtain ⟨c, hc, hencode⟩ := exists_char_of_isAsciiBlank hb
    obtain ⟨cs, hcs, hrest⟩ := ih hbs
    refine ⟨c :: cs, isBlankText_cons.2 ⟨hc, hcs⟩, ?_⟩
    rw [List.flatMap_cons, hencode, hrest, List.singleton_append]

/-- **Blank bytes are a blank text.** -/
theorem exists_text_of_isAsciiBlank {bytes : ByteArray}
    (h : bytes.data.all Text.isAsciiBlank = true) :
    ∃ s, String.fromUTF8? bytes = some s ∧ IsBlankText s.toList := by
  rw [Array.all_eq_true_iff_forall_mem] at h
  have hblank : ∀ b ∈ bytes.data.toList, Text.isAsciiBlank b = true := fun b hb =>
    h b (Array.mem_toList_iff.1 hb)
  obtain ⟨cs, hcs, hencode⟩ := exists_chars_of_isAsciiBlank hblank
  have hbytes : (String.ofList cs).toUTF8 = bytes := by
    refine ByteArray.ext ?_
    rw [String.toUTF8, String.toByteArray_ofList, List.utf8Encode, List.data_toByteArray, hencode,
      Array.toArray_toList]
  refine ⟨String.ofList cs, ?_, by rwa [String.toList_ofList]⟩
  rw [← hbytes, fromUTF8?_toUTF8]

/-! ### JSON -/

namespace Json

theorem lexFrom?_of_isBlankText {cs : List Char} (h : IsBlankText cs) :
    lexFrom? .ready [] cs = none ∨ lexFrom? .ready [] cs = some [] := by
  induction cs with
  | nil => exact .inr rfl
  | cons c cs ih =>
    obtain ⟨hc, hcs⟩ := isBlankText_cons.1 h
    have hrest := ih hcs
    simp only [List.mem_cons, List.not_mem_nil, or_false] at hc
    obtain rfl | rfl | rfl | rfl | rfl := hc
    · exact hrest
    · exact hrest
    · exact hrest
    · exact .inl rfl
    · exact hrest

theorem parse?_of_isBlankText {s : String} (h : IsBlankText s.toList) : parse? s = none := by
  rw [parse?, parseWithin?, lex?]
  obtain hlex | hlex := lexFrom?_of_isBlankText h <;> rw [hlex] <;> rfl

end Json

/-! ### YAML -/

namespace Yaml

namespace Lexer

theorem advance_rest_suffix {c : Cursor} {b : Char} {after : List Char} (h : c.rest = b :: after) :
    c.advance.rest <:+ after := by
  unfold Cursor.advance
  rw [h]
  split
  · next heq =>
    cases heq
    exact List.suffix_cons _ _
  · next heq =>
    cases heq
    split <;> exact List.suffix_refl _
  · next heq => cases heq

/-- Over blanks the lexer comes to the end of the text or to a tab. -/
theorem skipBlanks_of_isBlankText {fuel : Nat} {c : Cursor} (hblank : IsBlankText c.rest)
    (hallowed : ∀ b ∈ c.rest, isAllowed b = true) (hfuel : c.rest.length < fuel) :
    ∃ d, skipBlanks { cursor := c } fuel = { cursor := d } ∧
      (d.rest = [] ∨ ∃ after, d.rest = '\t' :: after) := by
  induction fuel generalizing c with
  | zero => exact absurd hfuel (Nat.not_lt_zero _)
  | succ fuel ih =>
    -- `e` is the first place that is no space
    let e := c.skipWhile fun b => b == ' ' || (false && b == '\t')
    have hsuffix : e.rest <:+ c.rest := List.dropWhile_suffix _
    have hskip : skipBlanks { cursor := c } (fuel + 1) =
        let f := if e.rest.head? == some '#' then e.skipWhile (!isBreak ·) else e
        if f.rest.isEmpty || !atBreak f.rest then { cursor := f }
        else skipBlanks { cursor := f.advance } fuel := rfl
    rw [hskip]
    cases he : e.rest with
    | nil => exact ⟨e, by simp [he], .inl he⟩
    | cons b after =>
      have hb : b ∈ c.rest := hsuffix.subset (he ▸ List.mem_cons_self)
      have hspace : b ≠ ' ' := by
        have hstop := List.head?_dropWhile_not (fun b => b == ' ' || (false && b == '\t')) c.rest
        have hdrop : c.rest.dropWhile (fun b => b == ' ' || (false && b == '\t')) = b :: after := he
        simp only [hdrop, List.head?_cons, Bool.or_eq_false_iff, beq_eq_false_iff_ne] at hstop
        exact hstop.1
      obtain ⟨hhash, hnext⟩ : (b == '#') = false ∧ (b = '\t' ∨ isBreak b = true) := by
        have hkind := hblank b hb
        simp only [List.mem_cons, List.not_mem_nil, or_false] at hkind
        obtain rfl | rfl | rfl | rfl | rfl := hkind
        · exact absurd rfl hspace
        · exact ⟨rfl, .inl rfl⟩
        · exact ⟨rfl, .inr rfl⟩
        · exact absurd (hallowed _ hb) (by decide)
        · exact ⟨rfl, .inr rfl⟩
      obtain rfl | hbreak := hnext
      · exact ⟨e, by simp [he, atBreak, isBreak], .inr ⟨after, he⟩⟩
      · have hrest : e.advance.rest <:+ c.rest :=
          ((advance_rest_suffix he).trans (List.suffix_cons b after)).trans (he ▸ hsuffix)
        have hlength : e.advance.rest.length < fuel := by
          have hafter := (advance_rest_suffix he).length_le
          have hwhole := hsuffix.length_le
          rw [he, List.length_cons] at hwhole
          omega
        obtain ⟨d, hd, hend⟩ := ih (fun b hb => hblank b (hrest.subset hb))
          (fun b hb => hallowed b (hrest.subset hb)) hlength
        refine ⟨d, ?_, hend⟩
        simpa [he, hhash, atBreak, hbreak] using hd

theorem word?_tab {c : Cursor} {after : List Char} (h : c.rest = '\t' :: after) :
    word? { cursor := c } '\t' after = none := by
  have hblank : isBlank '\t' = true := rfl
  simp [word?, isMarker_of_head '-' h (by decide), isMarker_of_head '.' h (by decide), hblank]

theorem run?_of_isBlankText {c : Cursor} (hblank : IsBlankText c.rest)
    (hallowed : ∀ b ∈ c.rest, isAllowed b = true) (fuel : Nat) :
    run? { cursor := c } (fuel + 1) = none ∨ run? { cursor := c } (fuel + 1) = some [] := by
  obtain ⟨d, hskip, hrest⟩ := skipBlanks_of_isBlankText hblank hallowed (Nat.lt_succ_self _)
  have hsettle : settle { cursor := c } = { cursor := d } := by
    rw [settle]
    simp only [hskip]
    exact closeBeyond_of_le (Nat.zero_le _)
  rw [run?_succ, hsettle]
  obtain hrest | ⟨after, hrest⟩ := hrest
  · simp only [hrest]
    exact .inr rfl
  · simp only [hrest, word?_tab hrest, Option.bind_none]
    exact .inl trivial

end Lexer

theorem lex?_of_isBlankText {s : String} (h : IsBlankText s.toList) :
    lex? s = none ∨ lex? s = some [] := by
  rw [lex?]
  split
  · next hallowed =>
    split
    · next rest heq =>
      -- a byte order mark is no blank
      exact absurd (h '\ufeff' (heq ▸ List.mem_cons_self)) (by decide)
    · exact Lexer.run?_of_isBlankText h (List.all_eq_true.1 hallowed) _
  · exact .inl rfl

theorem parse?_of_isBlankText {s : String} (h : IsBlankText s.toList) :
    parse? s = none ∨ parse? s = some (.plain "") := by
  rw [parse?]
  obtain hlex | hlex := lex?_of_isBlankText h <;> rw [hlex]
  · exact .inl rfl
  · exact .inr rfl

end Yaml

end HeaderAbi
