import HeaderAbi.Proofs.Data.Numeral
import HeaderAbi.Proofs.Data.Written
import HeaderAbi.Proofs.Yaml.Block
import HeaderAbi.Proofs.Yaml.Plain
import HeaderAbi.Proofs.Yaml.Quoted
import HeaderAbi.Yaml.Printer

/-!
# The layout of written YAML

A collection is written part by part, each part with the end of its line and the indentation of what
comes next.  `laid s n t` is a part `s` laid out in this way in front of the text `t`, so that what
is read behind a part does not depend on where the part stands.
-/

namespace HeaderAbi.Yaml

open Data

/-! ### Ends of lines -/

theorem lineEnd_append {s t : List Char} (ht : t ≠ []) : lineEnd (s ++ t) = lineEnd t := by
  rw [lineEnd, lineEnd, List.getLast?_append, List.getLast?_eq_some_getLast ht, Option.some_or]

theorem lineEnd_of_last {s : List Char} (h : ∀ c ∈ s.getLast?, isBreak c = false) :
    lineEnd s = ['\n'] := by
  rw [lineEnd]
  cases hs : s.getLast? with
  | none => rfl
  | some c => rw [Option.any_some, h c hs]; rfl

theorem toList_ended (s : String) : (ended s).toList = s.toList ++ lineEnd s.toList := by
  rw [ended, lineEnd]
  split
  · rw [List.append_nil]
  · rw [String.toList_append]
    rfl

/-- A text in front of `t`, with the end of its line and an indentation in between. -/
def laid (s : List Char) (n : Nat) (t : List Char) : List Char :=
  s ++ (lineEnd s ++ (spaces n ++ t))

section Laid
variable {s s' t : List Char} {n : Nat}

theorem laid_append (hs : s' ≠ []) : laid (s ++ s') n t = s ++ laid s' n t := by
  rw [laid, laid, lineEnd_append hs, List.append_assoc]

theorem laid_cons {c : Char} (hs : s ≠ []) : laid (c :: s) n t = c :: laid s n t :=
  laid_append (s := [c]) hs

theorem laid_of_last (h : ∀ c ∈ s.getLast?, isBreak c = false) :
    laid s n t = s ++ '\n' :: (spaces n ++ t) := by
  rw [laid, lineEnd_of_last h]
  rfl

end Laid

theorem toList_stack_cons {indent : Nat} {part : String} {parts : List String}
    (h : parts ≠ []) : (stack indent (part :: parts)).toList =
      laid part.toList indent (stack indent parts).toList := by
  rw [stack, String.toList_append, String.toList_append, toList_ended, String.toList_ofList, laid]
  · simp only [List.append_assoc]
  · exact h

theorem stack_ne_nil (indent : Nat) {parts : List String} (hne : parts ≠ [])
    (h : ∀ p ∈ parts, p.toList ≠ []) : (stack indent parts).toList ≠ [] := by
  obtain ⟨part, parts, rfl⟩ := List.exists_cons_of_ne_nil hne
  have hpart := h part List.mem_cons_self
  by_cases hparts : parts = []
  · subst hparts
    exact hpart
  · rw [toList_stack_cons hparts, laid]
    exact List.append_ne_nil_of_left_ne_nil hpart _

/-- Parts below each other are laid out one after the other. -/
theorem laid_stack {indent n : Nat} {t : List Char} {part : String} {parts : List String}
    (hne : parts ≠ []) (h : ∀ p ∈ parts, p.toList ≠ []) :
    laid (stack indent (part :: parts)).toList n t =
      laid part.toList indent (laid (stack indent parts).toList n t) := by
  have hstack := stack_ne_nil indent hne h
  rw [toList_stack_cons hne]
  simp only [laid, lineEnd_append, hstack, ne_eq, not_false_eq_true, List.append_eq_nil_iff,
    and_false, List.append_assoc]

/-- Parts below each other start with the first of them. -/
theorem exists_laid_stack (indent n : Nat) (t : List Char) (part : String) (parts : List String) :
    ∃ u, laid (stack indent (part :: parts)).toList n t = part.toList ++ u := by
  by_cases hne : parts = []
  · subst hne
    exact ⟨_, rfl⟩
  · simp only [toList_stack_cons hne, laid, List.append_assoc]
    exact ⟨_, rfl⟩

/-! ### Texts that stand without quotes -/

/-- The text is written without quotes. -/
def isPlainText (s : String) : Bool :=
  !s.toList.contains '\n' && (!readsAsOther s && isPlainSafe s.toList)

theorem scalarText_plain {s : String} (h : isPlainText s = true) (indent : Nat) :
    scalarText indent s = s := by
  simp only [isPlainText, Bool.and_eq_true, Bool.not_eq_true'] at h
  obtain ⟨hfeed, hother, hsafe⟩ := h
  simp only [scalarText, hfeed, hother, hsafe, Bool.false_eq_true, if_false, Bool.not_false,
    Bool.and_self, if_true]

theorem ne_nil_of_readsAsOther {s : String} (h : readsAsOther s = false) : s.toList ≠ [] := by
  intro hnil
  obtain rfl : s = "" := String.toList_eq_nil_iff.1 hnil
  exact absurd h (by decide)

theorem getLast?_of_isPlainSafe {cs : List Char} (h : isPlainSafe cs = true) :
    ∀ c ∈ cs.getLast?, isBreak c = false := by
  intro c hc
  simp only [isPlainSafe, Bool.and_eq_true, List.all_eq_true, Bool.not_eq_true'] at h
  exact (h.1.1.2 c (List.mem_of_getLast? hc)).2

theorem isWordChar_of_isName {k : String} (h : isName k = true) :
    ∀ c ∈ k.toList, isWordChar c = true := by
  intro c hc
  simp only [isName, Bool.and_eq_true, List.all_eq_true, Bool.or_eq_true] at h
  obtain hlower | hunderscore := h.1.1.1 c hc
  · simp [isWordChar, hlower]
  · simp [isWordChar, hunderscore]

theorem startsLikeNode_of_isWordChar {c : Char} (h : isWordChar c = true) (cs : List Char) :
    startsLikeNode (c :: cs) = false := by
  have hne : ∀ x, isWordChar x = false → c ≠ x := by
    rintro x hx rfl
    rw [h] at hx
    cases hx
  have hmark : "#,[]\x7b\x7d&*!|>'\"%@\x60".toList.contains c = false := by
    have hall : "#,[]\x7b\x7d&*!|>'\"%@\x60".toList.all (!isWordChar ·) = true := by decide
    rw [← Bool.not_eq_true, List.contains_iff_mem]
    intro hmem
    have hc := List.all_eq_true.1 hall c hmem
    rw [h] at hc
    cases hc
  have hstart : (c == '?' || c == ':' || c == '-') = false := by
    simp only [Bool.or_eq_false_iff, beq_eq_false_iff_ne]
    exact ⟨⟨hne _ rfl, hne _ rfl⟩, hne _ rfl⟩
  rw [startsLikeNode]
  · rw [hmark, hstart]
    rfl
  · rintro rest rfl -
    exact hne '-' rfl rfl
  · rintro rest rfl -
    exact hne '.' rfl rfl

theorem isPlainSafe_of_isWordChar {cs : List Char} (h : ∀ c ∈ cs, isWordChar c = true) :
    isPlainSafe cs = true := by
  refine isPlainSafe_of_chars (fun c hc => .inl (h c hc)) ?_
  cases cs with
  | nil => rfl
  | cons c cs => exact startsLikeNode_of_isWordChar (h c List.mem_cons_self) cs

/-- **A name is written without quotes.** -/
theorem isPlainText_of_isName {k : String} (h : isName k = true) : isPlainText k = true := by
  have hwords := isWordChar_of_isName h
  have hfeed : k.toList.contains '\n' = false := by
    rw [← Bool.not_eq_true, List.contains_iff_mem]
    intro hmem
    exact absurd (hwords _ hmem) (by decide)
  have hother : readsAsOther k = false := by
    simp only [isName, Bool.and_eq_true, Bool.not_eq_true'] at h
    exact h.2
  rw [isPlainText, hfeed, hother, isPlainSafe_of_isWordChar hwords]
  rfl

/-- **A numeral is written without quotes.** -/
theorem isPlainSafe_numeral (n : Int) : isPlainSafe (numeral n) = true := by
  cases n with
  | ofNat m =>
    refine isPlainSafe_of_isWordChar fun c hc => ?_
    simp [isWordChar, isDigit_of_mem_toDigits hc]
  | negSucc m =>
    obtain ⟨c, cs, hdigits, -, hdash, -⟩ := toDigits_eq_cons (Nat.succ_pos m)
    have hword : ∀ a ∈ c :: cs, isWordChar a = true := by
      intro a ha
      rw [← hdigits] at ha
      simp [isWordChar, isDigit_of_mem_toDigits ha]
    have hstart : startsLikeNode ('-' :: c :: cs) = false := by
      have hc := hword c List.mem_cons_self
      have hne : ∀ x, isWordChar x = false → (c == x) = false := by
        intro x hx
        rw [beq_eq_false_iff_ne]
        rintro rfl
        rw [hc] at hx
        cases hx
      have hnext : (atBlank (c :: cs) || (c :: cs).head? == some '\x00') = false := by
        simp [atBlank, isBlank, isBreak, hne, isWordChar]
      rw [startsLikeNode]
      · rw [hnext, Bool.and_false]
        rfl
      · rintro rest - hrest
        exact hdash (List.cons.inj hrest).1
      · rintro rest h -
        exact absurd h (by decide)
    change isPlainSafe ('-' :: Nat.toDigits 10 (m + 1)) = true
    rw [hdigits]
    refine isPlainSafe_of_chars (fun a ha => ?_) hstart
    obtain rfl | ha := List.mem_cons.1 ha
    · exact .inr rfl
    · exact .inl (hword a ha)

/-! ### Texts in the other styles -/

theorem getLast?_literalLines (indent : Nat) (afterBreak : Bool) (cs : List Char) :
    (literalLines indent afterBreak cs).getLast? = cs.getLast? := by
  induction cs generalizing afterBreak with
  | nil => rfl
  | cons c cs ih =>
    rw [literalLines]
    split
    · rw [List.getLast?_cons, List.getLast?_cons, ih]
    · rw [List.getLast?_append, List.getLast?_cons, List.getLast?_cons, ih]
      rfl

theorem lineEnd_literalLines (indent : Nat) (afterBreak : Bool) (cs : List Char) :
    lineEnd (literalLines indent afterBreak cs) = lineEnd cs := by
  rw [lineEnd, lineEnd, getLast?_literalLines]

theorem laid_literal {indent n : Nat} {cs t : List Char} (hne : cs ≠ []) :
    laid ('|' :: (literalHints cs ++ '\n' :: literalLines indent true cs)) n t =
      '|' :: (literalHints cs ++ '\n' :: (literalLines indent true cs ++
        (lineEnd cs ++ (spaces n ++ t)))) := by
  have hlines : literalLines indent true cs ≠ [] := by
    intro hnil
    have hlength := length_literalLines indent cs true
    rw [hnil] at hlength
    exact hne (List.length_eq_zero_iff.1 (Nat.le_zero.1 hlength))
  rw [laid_cons (by simp), laid_append (by simp), laid_cons hlines, laid, lineEnd_literalLines]

theorem laid_quoted {isDouble : Bool} {n : Nat} {xs t : List Char} :
    laid (quoteMark isDouble :: (xs ++ [quoteMark isDouble])) n t =
      quoteMark isDouble :: (xs ++ quoteMark isDouble :: '\n' :: (spaces n ++ t)) := by
  have hlast : ∀ c ∈ [quoteMark isDouble].getLast?, isBreak c = false := by
    rintro _ ⟨⟩
    cases isDouble <;> rfl
  rw [laid_cons (by simp), laid_append (by simp), laid_of_last hlast]
  rfl

/-- A text that does not stand without quotes is a literal block or stands in quotes. -/
theorem scalarText_cases {s : String} (h : isPlainText s = false) (indent : Nat) :
    ((scalarText indent s).toList = '|' :: (literalHints s.toList ++ '\n' ::
        literalLines indent true s.toList) ∧ s.toList ≠ [] ∧
          ∀ c ∈ s.toList, isPrintable c = true) ∨
      ∃ isDouble xs, (scalarText indent s).toList =
        quoteMark isDouble :: (xs ++ [quoteMark isDouble]) ∧
          Quoted isDouble indent false s.toList xs := by
  have hdouble : ("\"" ++ String.ofList (s.toList.flatMap doubleChar) ++ "\"").toList =
      quoteMark true :: (s.toList.flatMap doubleChar ++ [quoteMark true]) := by
    simp [quoteMark]
  rw [isPlainText] at h
  simp only [scalarText]
  cases hfeed : s.toList.contains '\n' with
  | true =>
    simp only [if_true]
    split
    · next hsafe =>
      simp only [isBlockSafe, Bool.and_eq_true, List.all_eq_true] at hsafe
      refine .inl ⟨by simp, ?_, hsafe.1.1⟩
      intro hnil
      rw [hnil] at hfeed
      cases hfeed
    · exact .inr ⟨true, _, hdouble, quoted_double indent _⟩
  | false =>
    rw [hfeed, Bool.not_false, Bool.true_and] at h
    simp only [h, Bool.false_eq_true, if_false]
    split
    · next hsafe =>
      simp only [isSingleSafe, Bool.and_eq_true, List.all_eq_true, Bool.not_eq_true'] at hsafe
      have hfeed' : '\n' ∉ s.toList := by
        rw [← List.contains_iff_mem, hfeed]
        decide
      have hquoted := quoted_single indent (b := false) hsafe.1 hfeed' hsafe.2 nofun
      exact .inr ⟨false, _, by simp [quoteMark], hquoted⟩
    · exact .inr ⟨true, _, hdouble, quoted_double indent _⟩

/-! ### The characters of a written text -/

/-- Every character of a text is written as it is. -/
def Printable (s : String) : Prop :=
  ∀ c ∈ s.toList, isPrintable c = true

theorem isAllowed_of_isPrintable {c : Char} (h : isPrintable c = true) : isAllowed c = true := by
  simp only [isPrintable, isAllowed, Bool.or_eq_true, Bool.and_eq_true, decide_eq_true_eq,
    beq_iff_eq] at h ⊢
  omega

theorem Printable.append {s t : String} (hs : Printable s) (ht : Printable t) :
    Printable (s ++ t) := by
  intro c hc
  rw [String.toList_append, List.mem_append] at hc
  exact hc.elim (hs c) (ht c)

theorem printable_spaces (n : Nat) : Printable (String.ofList (spaces n)) := by
  intro c hc
  rw [String.toList_ofList] at hc
  exact isPrintable_spaces c hc

theorem printable_newline (indent : Nat) : Printable (newline indent) :=
  Printable.append (s := "\n") (by simp [Printable, isPrintable]) (printable_spaces indent)

theorem Printable.ended {s : String} (hs : Printable s) : Printable (ended s) := by
  rw [Yaml.ended]
  split
  · exact hs
  · exact hs.append (by simp [Printable, isPrintable])

theorem printable_stack {indent : Nat} {parts : List String} (h : ∀ p ∈ parts, Printable p) :
    Printable (stack indent parts) := by
  induction parts with
  | nil => simp [Printable, stack]
  | cons part parts ih =>
    have hpart := h part List.mem_cons_self
    cases parts with
    | nil => exact hpart
    | cons q qs =>
      rw [stack]
      · exact (hpart.ended.append (printable_spaces indent)).append
          (ih fun p hp => h p (List.mem_cons_of_mem _ hp))
      · exact List.cons_ne_nil _ _

theorem isPrintable_of_isPlainSafe {cs : List Char} (h : isPlainSafe cs = true) :
    ∀ c ∈ cs, isPrintable c = true := by
  intro c hc
  simp only [isPlainSafe, Bool.and_eq_true, List.all_eq_true] at h
  exact (h.1.1.2 c hc).1

theorem isPrintable_literalHints (cs : List Char) :
    ∀ c ∈ literalHints cs, isPrintable c = true := by
  rw [literalHints_eq]
  cases hidesIndent cs <;> cases chompingOf cs <;> exact List.all_eq_true.1 rfl

theorem isPrintable_literalLines {indent : Nat} {afterBreak : Bool} {cs : List Char}
    (h : ∀ c ∈ cs, isPrintable c = true) :
    ∀ c ∈ literalLines indent afterBreak cs, isPrintable c = true := by
  induction cs generalizing afterBreak with
  | nil => simp [literalLines]
  | cons c cs ih =>
    have hc := h c List.mem_cons_self
    have ih' := fun b => @ih b fun c hc => h c (List.mem_cons_of_mem _ hc)
    rw [literalLines]
    split
    · intro a ha
      obtain rfl | ha := List.mem_cons.1 ha
      · exact hc
      · exact ih' true a ha
    · intro a ha
      obtain ha | ha := List.mem_append.1 ha
      · cases afterBreak with
        | false => cases ha
        | true => exact isPrintable_spaces a ha
      · obtain rfl | ha := List.mem_cons.1 ha
        · exact hc
        · exact ih' false a ha

theorem printable_scalarText (indent : Nat) (s : String) : Printable (scalarText indent s) := by
  cases hplain : isPlainText s with
  | true =>
    rw [scalarText_plain hplain]
    simp only [isPlainText, Bool.and_eq_true] at hplain
    exact isPrintable_of_isPlainSafe hplain.2.2
  | false =>
    intro c hc
    obtain ⟨htext, -, hprint⟩ | ⟨isDouble, xs, htext, hquoted⟩ := scalarText_cases hplain indent
    · rw [htext] at hc
      simp only [List.mem_cons, List.mem_append] at hc
      obtain rfl | hc | rfl | hc := hc
      · rfl
      · exact isPrintable_literalHints _ c hc
      · rfl
      · exact isPrintable_literalLines hprint c hc
    · have hmark : isPrintable (quoteMark isDouble) = true := by cases isDouble <;> rfl
      rw [htext] at hc
      simp only [List.mem_cons, List.mem_append, List.not_mem_nil, or_false] at hc
      obtain rfl | hc | rfl := hc
      · exact hmark
      · exact hquoted.isPrintable c hc
      · exact hmark

mutual

/-- **Written YAML has no characters but those that are written as they are.** -/
theorem printable_follow : ∀ {d : Data} (indent shift : Nat) (sameLine : Bool),
    d.isWritten = true → Printable (follow indent shift sameLine d)
  | .null, _, _, _, _ => by simp [follow, Printable, isPrintable]
  | .bool b, _, _, _, _ => by cases b <;> simp [follow, Printable, isPrintable]
  | .int n, _, _, _, _ => by
    have hnumeral : Printable (toString n) := by
      intro c hc
      rw [toList_toString] at hc
      exact isPrintable_of_isPlainSafe (isPlainSafe_numeral n) c hc
    exact Printable.append (s := " ") (by simp [Printable, isPrintable]) hnumeral
  | .text s, indent, _, _, _ =>
    Printable.append (s := " ") (by simp [Printable, isPrintable]) (printable_scalarText _ s)
  | .list [], _, _, _, _ => by simp [follow, Printable, isPrintable]
  | .list (d :: ds), indent, shift, sameLine, h => by
    have hstart : Printable (if sameLine then " " else newline (indent + shift)) := by
      split
      · simp [Printable, isPrintable]
      · exact printable_newline _
    exact hstart.append (printable_stack (printable_itemTexts _ h))
  | .object [], _, _, _, _ => by simp [follow, Printable, isPrintable]
  | .object (f :: fs), indent, shift, sameLine, h => by
    have hstart : Printable (if sameLine then " " else newline (indent + 2)) := by
      split
      · simp [Printable, isPrintable]
      · exact printable_newline _
    exact hstart.append (printable_stack (printable_fieldTexts _ h))
  | .tagged tag content, indent, shift, _, h => by
    simp only [isWritten, Bool.and_eq_true] at h
    have htag := isPrintable_of_isPlainSafe (isPlainSafe_of_isWordChar (isWordChar_of_isName h.1.1))
    exact (Printable.append (s := " !") (by simp [Printable, isPrintable]) htag).append
      (printable_follow indent shift false h.2)

theorem printable_itemTexts : ∀ {ds : List Data} (indent : Nat), areWritten ds = true →
    ∀ p ∈ itemTexts indent ds, Printable p
  | [], _, _ => nofun
  | d :: ds, indent, h => by
    simp only [areWritten, Bool.and_eq_true] at h
    intro p hp
    obtain rfl | hp := List.mem_cons.1 hp
    · exact Printable.append (s := "-") (by simp [Printable, isPrintable])
        (printable_follow indent 2 true h.1)
    · exact printable_itemTexts indent h.2 p hp

theorem printable_fieldTexts : ∀ {fs : List (String × Data)} (indent : Nat), areFields fs = true →
    ∀ p ∈ fieldTexts indent fs, Printable p
  | [], _, _ => nofun
  | (k, d) :: fs, indent, h => by
    simp only [areFields, Bool.and_eq_true] at h
    intro p hp
    obtain rfl | hp := List.mem_cons.1 hp
    · exact ((printable_scalarText _ k).append (t := ":") (by simp [Printable, isPrintable])).append
        (printable_follow indent 0 false h.1.2)
    · exact printable_fieldTexts indent h.2 p hp

end

end HeaderAbi.Yaml
