import HeaderAbi.Proofs.Yaml.Layout
import HeaderAbi.Proofs.Yaml.Word

/-!
# The words of a written YAML text

**A written value is cut into its words** (`lex?_render`).  The words of a list depend on where it
stands: below a key its dashes are not indented, so that no word opens or closes it.

The induction is on the value, for every place where it may stand: behind a dash or a colon, with
the innermost collection at some indentation, and with a line behind it that is indented no more.
-/

namespace HeaderAbi.Yaml

open Data

mutual

/-- The words of a value; `indentless` below a key. -/
def words (indentless : Bool) : Data → List Token
  | .null => [.scalar "null" true]
  | .bool b => [.scalar (if b then "true" else "false") true]
  | .int n => [.scalar (toString n) true]
  | .text s => [.scalar s (isPlainText s)]
  | .list [] => [.openBracket, .closeBracket]
  | .list (d :: ds) =>
    if indentless then itemWords (d :: ds) else .openItems :: (itemWords (d :: ds) ++ [.close])
  | .object [] => [.openBrace, .closeBrace]
  | .object (f :: fs) => .openEntries :: (fieldWords (f :: fs) ++ [.close])
  | .tagged tag content => .tag "!" tag :: words indentless content
  | _ => []

def itemWords : List Data → List Token
  | [] => []
  | d :: ds => .dash :: (words false d ++ itemWords ds)

def fieldWords : List (String × Data) → List Token
  | [] => []
  | (k, d) :: fs => .key :: .scalar k true :: .value :: (words true d ++ fieldWords fs)

end

theorem toList_follow_int (indent shift : Nat) (sameLine : Bool) (n : Int) :
    (follow indent shift sameLine (.int n)).toList = ' ' :: numeral n := by
  change (" " ++ toString n).toList = _
  rw [String.toList_append, toList_toString]
  rfl

/-- What follows a colon or a dash starts with a blank or a new line. -/
theorem exists_follow (indent shift : Nat) (sameLine : Bool) (d : Data) :
    ∃ cs, (follow indent shift sameLine d).toList = ' ' :: cs ∨
      (follow indent shift sameLine d).toList = '\n' :: cs := by
  cases d with
  | list ds => cases ds <;> cases sameLine <;> simp [follow, newline]
  | sequence ds => cases ds <;> cases sameLine <;> simp [follow, newline]
  | object fs => cases fs <;> cases sameLine <;> simp [follow, newline]
  | mapping es => cases es <;> cases sameLine <;> simp [follow, newline]
  | bool b => cases b <;> simp [follow]
  | int n => exact ⟨numeral n, .inl (toList_follow_int _ _ _ n)⟩
  | _ => simp [follow]

theorem follow_ne_nil (indent shift : Nat) (sameLine : Bool) (d : Data) :
    (follow indent shift sameLine d).toList ≠ [] := by
  obtain ⟨cs, h | h⟩ := exists_follow indent shift sameLine d <;>
    rw [h] <;> exact List.cons_ne_nil _ _

theorem atBlank_follow (indent shift : Nat) (sameLine : Bool) (d : Data) (n : Nat)
    (t : List Char) : atBlank (laid (follow indent shift sameLine d).toList n t) = true := by
  obtain ⟨cs, h | h⟩ := exists_follow indent shift sameLine d <;> rw [h] <;> rfl

theorem ne_nil_of_isName {k : String} (h : isName k = true) : k.toList ≠ [] := by
  refine ne_nil_of_readsAsOther ?_
  simp only [isName, Bool.and_eq_true, Bool.not_eq_true'] at h
  exact h.2

namespace Lexer

section Values
variable {x : Lexer} {ws : List Token} {is : List Nat} {allowed : Bool} {column m n : Nat}
  {t : List Char}

theorem At.space (h : x.At ws is allowed column (' ' :: t)) (ht : Clear t) :
    ∃ y, Reaches x y ∧ y.At ws is allowed (column + 1) t :=
  At.spaces (n := 1) h ht

theorem clear_laid {cs : List Char} (h : isPlainSafe cs = true) (hne : cs ≠ []) :
    Clear (laid cs n t) := by
  obtain ⟨c, cs, rfl⟩ := List.exists_cons_of_ne_nil hne
  exact clear_of_isPlainSafe h _

theorem clear_scalarText (indent : Nat) (s : String) :
    Clear (laid (scalarText indent s).toList n t) := by
  cases hplain : isPlainText s with
  | true =>
    rw [scalarText_plain hplain]
    simp only [isPlainText, Bool.and_eq_true, Bool.not_eq_true'] at hplain
    exact clear_laid hplain.2.2 (ne_nil_of_readsAsOther hplain.2.1)
  | false =>
    obtain ⟨htext, -⟩ | ⟨isDouble, xs, htext, -⟩ := scalarText_cases hplain indent
    · rw [htext]
      exact clear_cons rfl rfl (by decide) _
    · rw [htext]
      exact clear_quoteMark _ _

/-- Plain characters behind a blank. -/
theorem At.plainValue {cs : List Char} (h : x.At ws is allowed column (laid (' ' :: cs) n t))
    (hsafe : isPlainSafe cs = true) (hne : cs ≠ []) (ht : Clear t) (hlevel : is.headD 0 = m + 1)
    (hm : m < column) (hn : n ≤ m) :
    ∃ y, Reaches x y ∧ y.At (ws ++ [.scalar (String.ofList cs) true]) is true n t := by
  rw [laid_cons hne] at h
  obtain ⟨y, hxy, hy⟩ := h.space (clear_laid hsafe hne)
  rw [laid_of_last (getLast?_of_isPlainSafe hsafe)] at hy
  obtain ⟨z, hyz, hz⟩ := hy.plain hsafe hne ht (by omega) (by omega)
  exact ⟨z, hxy.trans hyz, hz⟩

/-- A text behind a blank, in whatever style it is written. -/
theorem At.textValue {s : String}
    (h : x.At ws is allowed column (laid (' ' :: (scalarText (m + 2) s).toList) n t)) (ht : Clear t)
    (hlevel : is.headD 0 = m + 1) (hm : m < column) (hn : n ≤ m) :
    ∃ y, Reaches x y ∧ y.At (ws ++ [.scalar s (isPlainText s)]) is true n t := by
  cases hplain : isPlainText s with
  | true =>
    rw [scalarText_plain hplain] at h
    simp only [isPlainText, Bool.and_eq_true, Bool.not_eq_true'] at hplain
    have hvalue := h.plainValue hplain.2.2 (ne_nil_of_readsAsOther hplain.2.1) ht hlevel hm hn
    rwa [String.ofList_toList] at hvalue
  | false =>
    have hne : (scalarText (m + 2) s).toList ≠ [] := by
      obtain ⟨htext, -⟩ | ⟨isDouble, xs, htext, -⟩ := scalarText_cases hplain (m + 2) <;>
        rw [htext] <;> exact List.cons_ne_nil _ _
    rw [laid_cons hne] at h
    obtain ⟨y, hxy, hy⟩ := h.space (clear_scalarText _ _)
    obtain ⟨htext, hcs, hprint⟩ | ⟨isDouble, xs, htext, hquoted⟩ := scalarText_cases hplain (m + 2)
    · rw [htext, laid_literal hcs] at hy
      obtain ⟨z, hyz, hz⟩ := hy.block hcs hprint ht hlevel (by omega) hn
      rw [String.ofList_toList] at hz
      exact ⟨z, hxy.trans hyz, hz⟩
    · rw [htext, laid_quoted] at hy
      obtain ⟨z, hyz, hz⟩ := hy.quoted hquoted (Nat.succ_ne_zero _) ht (by omega)
      rw [String.ofList_toList] at hz
      exact ⟨z, hxy.trans hyz, hz⟩

/-- A collection starts on the line of its dash, or below. -/
theorem At.start {s : String} {sameLine : Bool}
    (h : x.At ws is sameLine column
      (laid ((if sameLine then " " else newline m) ++ s).toList n t))
    (hs : s.toList ≠ []) (hclear : Clear (laid s.toList n t))
    (hline : sameLine = true → column + 1 = m) :
    ∃ y, Reaches x y ∧ y.At ws is true m (laid s.toList n t) := by
  cases sameLine with
  | true =>
    rw [if_pos rfl, String.toList_append, laid_append hs] at h
    obtain ⟨y, hxy, hy⟩ := h.space hclear
    rw [hline rfl] at hy
    exact ⟨y, hxy, hy⟩
  | false =>
    have hnewline : (newline m).toList = '\n' :: Yaml.spaces m := by simp [newline]
    rw [if_neg Bool.false_ne_true, String.toList_append, laid_append hs, hnewline] at h
    exact h.line hclear

/-- The name of a variant behind a blank. -/
theorem At.variant {tag : String}
    (h : x.At ws is allowed column (' ' :: '!' :: (tag.toList ++ t))) (htag : isName tag = true)
    (ht : atBlank t = true) (hlt : is.headD 0 ≤ column) :
    ∃ y, Reaches x y ∧ y.At (ws ++ [.tag "!" tag]) is false
      (column + 1 + (tag.toList.length + 1)) t := by
  have hchars : ∀ c ∈ tag.toList, isNameChar c = true := by
    intro c hc
    simp only [isName, Bool.and_eq_true, List.all_eq_true, Bool.or_eq_true] at htag
    obtain hlower | hunderscore := htag.1.1.1 c hc
    · have halpha : c.isAlpha = (c.isUpper || c.isLower) := rfl
      simp [isNameChar, Char.isAlphanum, halpha, hlower]
    · simp [isNameChar, hunderscore]
  obtain ⟨y, hxy, hy⟩ := h.space (clear_cons rfl rfl (by decide) _)
  obtain ⟨z, hyz, hz⟩ := hy.tag hchars (ne_nil_of_isName htag) ht (Nat.le_succ_of_le hlt)
  rw [String.ofList_toList] at hz
  exact ⟨z, hxy.trans hyz, hz⟩

/-- A name with a colon, and the map if none is open there. -/
theorem At.name {k : String} (h : x.At ws is true column (k.toList ++ ':' :: t))
    (hk : isName k = true) (ht : atBlank t = true) (hle : is.headD 0 ≤ column + 1) :
    ∃ y, Reaches x y ∧
      y.At (ws ++ (opening column .openEntries is ++ [.key, .scalar k true, .value]))
        (opened column is) false (column + (k.toList.length + 1)) t := by
  have hwords := isWordChar_of_isName hk
  have hsafe := isPlainSafe_of_isWordChar hwords
  have hlength : k.toList.length ≤ 64 := by
    simp only [isName, Bool.and_eq_true, decide_eq_true_eq] at hk
    rw [String.length_toList]
    exact hk.1.2
  have hlist : String.ofList k.toList = k := String.ofList_toList
  obtain ⟨c, cs, hcs⟩ := List.exists_cons_of_ne_nil (ne_nil_of_isName hk)
  rw [hcs] at h hwords hsafe hlength hlist ⊢
  have hc := hwords c List.mem_cons_self
  have hdash : c ≠ '-' := by rintro rfl; exact absurd hc (by decide)
  have hdot : c ≠ '.' := by rintro rfl; exact absurd hc (by decide)
  have hlen : cs.length < 1024 := by
    rw [List.length_cons] at hlength
    omega
  rw [← hlist]
  exact h.keyColon hsafe hdash hdot hlen ht hle

end Values

theorem itemTexts_ne_nil (indent : Nat) (ds : List Data) :
    ∀ p ∈ itemTexts indent ds, p.toList ≠ [] := by
  induction ds with
  | nil => nofun
  | cons d ds ih =>
    intro p hp
    obtain rfl | hp := List.mem_cons.1 hp
    · simp
    · exact ih p hp

theorem fieldTexts_ne_nil (indent : Nat) (fs : List (String × Data)) :
    ∀ p ∈ fieldTexts indent fs, p.toList ≠ [] := by
  induction fs with
  | nil => nofun
  | cons f fs ih =>
    intro p hp
    obtain rfl | hp := List.mem_cons.1 hp
    · simp
    · exact ih p hp

theorem clear_items (indent n : Nat) (t : List Char) (d : Data) (ds : List Data) :
    Clear (laid (stack indent (itemTexts indent (d :: ds))).toList n t) := by
  obtain ⟨u, hu⟩ := exists_laid_stack indent n t ("-" ++ Yaml.follow indent 2 true d)
    (itemTexts indent ds)
  rw [itemTexts, hu, String.toList_append]
  exact clear_cons (c := '-') rfl rfl (by decide) _

theorem clear_fields {indent n : Nat} {t : List Char} {f : String × Data}
    {fs : List (String × Data)} (h : areFields (f :: fs) = true) :
    Clear (laid (stack indent (fieldTexts indent (f :: fs))).toList n t) := by
  simp only [areFields, Bool.and_eq_true] at h
  have hk := h.1.1.1
  obtain ⟨u, hu⟩ := exists_laid_stack indent n t
    (scalarText (indent + 2) f.1 ++ ":" ++ Yaml.follow indent 0 false f.2)
    (fieldTexts indent fs)
  obtain ⟨c, cs, hcs⟩ := List.exists_cons_of_ne_nil (ne_nil_of_isName hk)
  have hsafe := isPlainSafe_of_isWordChar (isWordChar_of_isName hk)
  rw [fieldTexts, hu, scalarText_plain (isPlainText_of_isName hk), String.toList_append,
    String.toList_append, List.append_assoc, List.append_assoc, hcs]
  rw [hcs] at hsafe
  exact clear_of_isPlainSafe hsafe _

theorem headD_opened {column : Nat} {is : List Nat} (h : is.headD 0 ≤ column + 1) :
    (opened column is).headD 0 = column + 1 := by
  rw [opened]
  split
  · rfl
  · omega

/-- A collection opens once. -/
theorem opened_opened (column : Nat) (token : Token) (is : List Nat) :
    opened column (opened column is) = opened column is ∧
      opening column token (opened column is) = [] := by
  have hnot : ¬ (opened column is).headD 0 < column + 1 := by
    rw [opened]
    split
    · exact Nat.lt_irrefl _
    · assumption
  exact ⟨if_neg hnot, if_neg hnot⟩

mutual

/-- **What follows a colon or a dash is cut into the words of the value.** -/
theorem At.follow : ∀ {d : Data} {x : Lexer} {ws : List Token} {is : List Nat} {sameLine : Bool}
    {column m shift n : Nat} {t : List Char}, d.isWritten = true →
      x.At ws is sameLine column (laid (follow m shift sameLine d).toList n t) →
      is.headD 0 = m + 1 → m < column → (sameLine = true → column = m + 1 ∧ shift = 2) →
      (shift = 0 ∨ shift = 2) → n ≤ m → Clear t →
        ∃ y, Reaches x y ∧ y.At (ws ++ words (shift == 0) d) is true n t
  | .null, x, ws, is, sameLine, column, m, shift, n, t, _, hx, his, hm, _, _, hn, ht => by
    have hnull : (Yaml.follow m shift sameLine .null).toList = ' ' :: "null".toList := by
      simp [Yaml.follow]
    rw [hnull] at hx
    exact hx.plainValue (by decide) (by decide) ht his hm hn
  | .bool b, x, ws, is, sameLine, column, m, shift, n, t, _, hx, his, hm, _, _, hn, ht => by
    have hbool : (Yaml.follow m shift sameLine (.bool b)).toList =
        ' ' :: (if b then "true" else "false").toList := by
      cases b <;> simp [Yaml.follow]
    rw [hbool] at hx
    have hvalue := hx.plainValue (by cases b <;> decide) (by cases b <;> decide) ht his hm hn
    rwa [String.ofList_toList] at hvalue
  | .int k, x, ws, is, sameLine, column, m, shift, n, t, _, hx, his, hm, _, _, hn, ht => by
    have hsafe := isPlainSafe_numeral k
    have hne : numeral k ≠ [] := by
      cases k with
      | ofNat i => exact Nat.toDigits_ne_nil
      | negSucc i => exact List.cons_ne_nil _ _
    rw [toList_follow_int] at hx
    have hvalue := hx.plainValue hsafe hne ht his hm hn
    rwa [← toList_toString, String.ofList_toList] at hvalue
  | .text s, x, ws, is, sameLine, column, m, shift, n, t, _, hx, his, hm, _, _, hn, ht => by
    have htext : (Yaml.follow m shift sameLine (.text s)).toList =
        ' ' :: (scalarText (m + 2) s).toList := by
      simp [Yaml.follow]
    rw [htext] at hx
    exact hx.textValue ht his hm hn
  | .list [], x, ws, is, sameLine, column, m, shift, n, t, _, hx, his, hm, _, _, hn, ht => by
    have hlist : (Yaml.follow m shift sameLine (.list [])).toList = [' ', '[', ']'] := by
      simp [Yaml.follow]
    rw [hlist, laid_of_last (by rintro c ⟨⟩; rfl)] at hx
    obtain ⟨y, hxy, hy⟩ := hx.space (clear_cons rfl rfl (by decide) _)
    obtain ⟨z, hyz, hz⟩ := hy.emptyList ht (by omega)
    exact ⟨z, hxy.trans hyz, hz⟩
  | .list (d :: ds), x, ws, is, sameLine, column, m, shift, n, t, h, hx, his, hm, hline, hshift, hn,
    ht => by
    have hstart : sameLine = true → column + 1 = m + shift := by
      intro hsame
      obtain ⟨hcolumn, rfl⟩ := hline hsame
      omega
    obtain ⟨y, hxy, hy⟩ := hx.start (stack_ne_nil _ (by simp [itemTexts]) (itemTexts_ne_nil _ _))
      (clear_items _ _ _ _ _) hstart
    obtain ⟨z, hyz, hz⟩ := At.items (List.cons_ne_nil d ds) h hy (by omega)
      (Nat.le_add_right_of_le hn) ht
    obtain rfl | rfl := hshift
    -- Below a key the dashes stand at the indentation of the key, and no list opens.
    · have hclosed : ¬ is.headD 0 < m + 0 + 1 := by omega
      rw [opened, opening, if_neg hclosed, if_neg hclosed] at hz
      exact ⟨z, hxy.trans hyz, hz⟩
    · have hopen : is.headD 0 < m + 2 + 1 := by omega
      rw [opened, opening, if_pos hopen, if_pos hopen] at hz
      obtain ⟨w, hzw, hw⟩ := hz.close ht (by omega)
      refine ⟨w, hxy.trans (hyz.trans hzw), ?_⟩
      rw [List.append_assoc] at hw
      exact hw
  | .object [], x, ws, is, sameLine, column, m, shift, n, t, _, hx, his, hm, _, _, hn, ht => by
    have hobject : (Yaml.follow m shift sameLine (.object [])).toList = [' ', '{', '}'] := by
      simp [Yaml.follow]
    rw [hobject, laid_of_last (by rintro c ⟨⟩; rfl)] at hx
    obtain ⟨y, hxy, hy⟩ := hx.space (clear_cons rfl rfl (by decide) _)
    obtain ⟨z, hyz, hz⟩ := hy.emptyMap ht (by omega)
    exact ⟨z, hxy.trans hyz, hz⟩
  | .object (f :: fs), x, ws, is, sameLine, column, m, shift, n, t, h, hx, his, hm, hline, hshift,
    hn, ht => by
    have hstart : sameLine = true → column + 1 = m + 2 := by
      intro hsame
      have := (hline hsame).1
      omega
    obtain ⟨y, hxy, hy⟩ := hx.start (stack_ne_nil _ (by simp [fieldTexts]) (fieldTexts_ne_nil _ _))
      (clear_fields h) hstart
    obtain ⟨z, hyz, hz⟩ := At.fields (List.cons_ne_nil f fs) h hy (by omega)
      (Nat.le_add_right_of_le hn) ht
    have hopen : is.headD 0 < m + 2 + 1 := by omega
    rw [opened, opening, if_pos hopen, if_pos hopen] at hz
    obtain ⟨w, hzw, hw⟩ := hz.close ht (by omega)
    refine ⟨w, hxy.trans (hyz.trans hzw), ?_⟩
    rw [List.append_assoc] at hw
    exact hw
  | .tagged tag content, x, ws, is, sameLine, column, m, shift, n, t, h, hx, his, hm, hline, hshift,
    hn, ht => by
    simp only [isWritten, Bool.and_eq_true] at h
    have hne := follow_ne_nil m shift false content
    have htagged : (Yaml.follow m shift sameLine (.tagged tag content)).toList =
        ' ' :: '!' :: (tag.toList ++ (Yaml.follow m shift false content).toList) := by
      simp [Yaml.follow]
    rw [htagged, laid_cons (by simp), laid_cons (by simp [hne]), laid_append hne] at hx
    obtain ⟨y, hxy, hy⟩ := hx.variant h.1.1 (atBlank_follow _ _ _ _ _ _) (by omega)
    obtain ⟨z, hyz, hz⟩ := At.follow h.2 hy his (by omega) nofun hshift hn ht
    refine ⟨z, hxy.trans hyz, ?_⟩
    rw [words]
    simpa using hz

/-- Items below each other. -/
theorem At.items : ∀ {ds : List Data} {x : Lexer} {ws : List Token} {is : List Nat} {m n : Nat}
    {t : List Char}, ds ≠ [] → areWritten ds = true →
      x.At ws is true m (laid (stack m (itemTexts m ds)).toList n t) →
      is.headD 0 ≤ m + 1 → n ≤ m → Clear t →
        ∃ y, Reaches x y ∧
          y.At (ws ++ (opening m .openItems is ++ itemWords ds)) (opened m is) true n t
  | [], _, _, _, _, _, _, hne, _, _, _, _, _ => absurd rfl hne
  | [d], x, ws, is, m, n, t, _, h, hx, his, hn, ht => by
    simp only [areWritten, Bool.and_eq_true] at h
    have hpart : (stack m (itemTexts m [d])).toList =
        '-' :: (Yaml.follow m 2 true d).toList := by
      simp [itemTexts, stack]
    rw [hpart, laid_cons (follow_ne_nil _ _ _ _)] at hx
    obtain ⟨y, hxy, hy⟩ := hx.dash (atBlank_follow _ _ _ _ _ _) his
    obtain ⟨z, hyz, hz⟩ := At.follow h.1 hy (headD_opened his) (Nat.lt_succ_self m)
      (fun _ => ⟨rfl, rfl⟩) (.inr rfl) hn ht
    refine ⟨z, hxy.trans hyz, ?_⟩
    rw [itemWords, itemWords]
    simpa using hz
  | d :: e :: es, x, ws, is, m, n, t, _, h, hx, his, hn, ht => by
    rw [areWritten, Bool.and_eq_true] at h
    have hpart : ("-" ++ Yaml.follow m 2 true d).toList =
        '-' :: (Yaml.follow m 2 true d).toList := by
      simp
    rw [itemTexts, laid_stack (by simp [itemTexts]) (itemTexts_ne_nil _ _), hpart,
      laid_cons (follow_ne_nil _ _ _ _)] at hx
    obtain ⟨y, hxy, hy⟩ := hx.dash (atBlank_follow _ _ _ _ _ _) his
    obtain ⟨z, hyz, hz⟩ := At.follow h.1 hy (headD_opened his) (Nat.lt_succ_self m)
      (fun _ => ⟨rfl, rfl⟩) (.inr rfl) (Nat.le_refl m) (clear_items _ _ _ _ _)
    obtain ⟨w, hzw, hw⟩ := At.items (List.cons_ne_nil e es) h.2 hz
      (Nat.le_of_eq (headD_opened his)) hn ht
    obtain ⟨hopened, hopening⟩ := opened_opened m .openItems is
    rw [hopened, hopening] at hw
    refine ⟨w, hxy.trans (hyz.trans hzw), ?_⟩
    rw [itemWords]
    simpa using hw

/-- Fields below each other. -/
theorem At.fields : ∀ {fs : List (String × Data)} {x : Lexer} {ws : List Token} {is : List Nat}
    {m n : Nat} {t : List Char}, fs ≠ [] → areFields fs = true →
      x.At ws is true m (laid (stack m (fieldTexts m fs)).toList n t) →
      is.headD 0 ≤ m + 1 → n ≤ m → Clear t →
        ∃ y, Reaches x y ∧
          y.At (ws ++ (opening m .openEntries is ++ fieldWords fs)) (opened m is) true n t
  | [], _, _, _, _, _, _, hne, _, _, _, _, _ => absurd rfl hne
  | [(k, d)], x, ws, is, m, n, t, _, h, hx, his, hn, ht => by
    simp only [areFields, Bool.and_eq_true] at h
    have hpart : (stack m (fieldTexts m [(k, d)])).toList =
        k.toList ++ ':' :: (Yaml.follow m 0 false d).toList := by
      simp [fieldTexts, stack, scalarText_plain (isPlainText_of_isName h.1.1.1)]
    rw [hpart, laid_append (by simp), laid_cons (follow_ne_nil _ _ _ _)] at hx
    obtain ⟨y, hxy, hy⟩ := hx.name h.1.1.1 (atBlank_follow _ _ _ _ _ _) his
    obtain ⟨z, hyz, hz⟩ := At.follow h.1.2 hy (headD_opened his) (by omega) nofun (.inl rfl) hn ht
    refine ⟨z, hxy.trans hyz, ?_⟩
    rw [fieldWords, fieldWords]
    simpa using hz
  | (k, d) :: g :: gs, x, ws, is, m, n, t, _, h, hx, his, hn, ht => by
    rw [areFields, Bool.and_eq_true] at h
    obtain ⟨hfield, hfields⟩ := h
    simp only [Bool.and_eq_true] at hfield
    have hpart : (scalarText (m + 2) k ++ ":" ++ Yaml.follow m 0 false d).toList =
        k.toList ++ ':' :: (Yaml.follow m 0 false d).toList := by
      simp [scalarText_plain (isPlainText_of_isName hfield.1.1)]
    rw [fieldTexts, laid_stack (by simp [fieldTexts]) (fieldTexts_ne_nil _ _), hpart,
      laid_append (by simp), laid_cons (follow_ne_nil _ _ _ _)] at hx
    obtain ⟨y, hxy, hy⟩ := hx.name hfield.1.1 (atBlank_follow _ _ _ _ _ _) his
    obtain ⟨z, hyz, hz⟩ := At.follow hfield.2 hy (headD_opened his) (by omega) nofun (.inl rfl)
      (Nat.le_refl m) (clear_fields hfields)
    obtain ⟨w, hzw, hw⟩ := At.fields (List.cons_ne_nil g gs) hfields hz
      (Nat.le_of_eq (headD_opened his)) hn ht
    obtain ⟨hopened, hopening⟩ := opened_opened m .openEntries is
    rw [hopened, hopening] at hw
    refine ⟨w, hxy.trans (hyz.trans hzw), ?_⟩
    rw [fieldWords]
    simpa using hw

end

/-- At the end of the text the collection that is still open is closed. -/
theorem At.run?_nil {x : Lexer} {ws : List Token} {allowed : Bool} (h : x.At ws [1] allowed 0 [])
    (fuel : Nat) : x.run? (fuel + 1) = some (ws ++ [.close]) := by
  have hsettle : x.settle = x := h.settle clear_nil (Nat.le_refl 1)
  let y : Lexer := { x with found := .close :: x.found, count := x.count + 1, indents := [] }
  have hclose : x.closeBeyond 0 = y := by
    rw [closeBeyond_cons h.flowLevel h.indents Nat.zero_lt_one]
    exact closeBeyond_of_le (Nat.le_refl 0)
  have hdrop : y.dropKey? = some { y with key := none } := dropKey?_eq h.key
  rw [run?_succ, hsettle, h.rest]
  simp only [hclose, hdrop, Option.map_some]
  change some (Token.close :: x.found).reverse = _
  rw [List.reverse_cons, h.found, List.reverse_reverse]

end Lexer

theorem toList_render (f : String × Data) (fs : List (String × Data)) :
    (render (.object (f :: fs))).toList = laid (stack 0 (fieldTexts 0 (f :: fs))).toList 0 [] := by
  rw [render, toList_ended, laid]
  simp [spaces]

/-- **A written record is cut into its words.** -/
theorem lex?_render {f : String × Data} {fs : List (String × Data)}
    (h : (object (f :: fs)).isWritten = true) :
    lex? (render (.object (f :: fs))) = some (words true (.object (f :: fs))) := by
  obtain ⟨cs, hcs⟩ : ∃ cs, (render (.object (f :: fs))).toList = cs := ⟨_, rfl⟩
  have hlaid : cs = laid (stack 0 (fieldTexts 0 (f :: fs))).toList 0 [] := by
    rw [← hcs, toList_render]
  have hprint : ∀ c ∈ cs, isPrintable c = true := by
    rw [← hcs]
    exact (printable_stack (printable_fieldTexts 0 h)).ended
  have hallowed : cs.all isAllowed = true :=
    List.all_eq_true.2 fun c hc => isAllowed_of_isPrintable (hprint c hc)
  have hstart : Lexer.At { cursor := ⟨{}, cs⟩ } [] [] true 0 cs :=
    ⟨rfl, rfl, rfl, rfl, nofun, rfl, rfl, rfl⟩
  rw [hlaid] at hstart
  obtain ⟨y, ⟨n, hn, hrun⟩, hy⟩ := Lexer.At.fields (List.cons_ne_nil f fs) h hstart
    (Nat.zero_le _) (Nat.le_refl 0) clear_nil
  rw [← hlaid] at hn hrun
  have hfuel : cs.length + 2 = n + (cs.length - n + 1 + 1) := by
    change n + _ ≤ cs.length at hn
    omega
  rw [lex?, hcs]
  simp only [hallowed, if_true]
  split
  · exact absurd (hprint _ List.mem_cons_self) (by decide)
  · rw [hfuel, hrun, hy.run?_nil]
    rfl

end HeaderAbi.Yaml
