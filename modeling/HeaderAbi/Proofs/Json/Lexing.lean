import HeaderAbi.Json.Printer
import HeaderAbi.Proofs.Data.Numeral
import HeaderAbi.Proofs.Data.Written
import Mathlib.Data.List.Forall2

/-!
# The words of a written JSON text

`spells cs ws` says that the characters `cs`, between words and in front of anything that stops a
word, are cut into the words `ws`; `Closed cs ws` says the same in front of anything at all.  Quoted
texts and punctuation are closed, numbers and literals need something that stops them.

**A value is cut into the same words however it is laid out** (`lex?_compact`, `lex?_pretty`).
-/

namespace HeaderAbi.Json

open Data

/-! ### Words one after the other -/

/-- The characters do not go on with a number or a literal. -/
def Stops (rest : List Char) : Prop :=
  ∀ c ∈ rest.head?, isNumberChar c = false ∧ c.isLower = false

/-- The characters are cut into the words, whatever follows. -/
def Closed (cs : List Char) (ws : List Token) : Prop :=
  ∀ found rest, lexFrom? .ready found (cs ++ rest) = lexFrom? .ready (ws.reverse ++ found) rest

/-- The characters are cut into the words when something follows that stops a word. -/
def Spells (cs : List Char) (ws : List Token) : Prop :=
  ∀ found rest, Stops rest →
    lexFrom? .ready found (cs ++ rest) = lexFrom? .ready (ws.reverse ++ found) rest

section Words
variable {cs ds : List Char} {ws vs : List Token}

theorem Closed.spells (h : Closed cs ws) : Spells cs ws := fun found rest _ => h found rest

theorem Closed.append (h : Closed cs ws) (h' : Closed ds vs) : Closed (cs ++ ds) (ws ++ vs) :=
  fun found rest => by
    rw [List.append_assoc, h, h', List.reverse_append, List.append_assoc]

theorem Closed.append_spells (h : Closed cs ws) (h' : Spells ds vs) :
    Spells (cs ++ ds) (ws ++ vs) := fun found rest hrest => by
  rw [List.append_assoc, h, h' _ _ hrest, List.reverse_append, List.append_assoc]

/-- What comes next stops the last word. -/
theorem Spells.append_closed {c : Char} (h : Spells cs ws) (h' : Closed (c :: ds) vs)
    (hstop : isNumberChar c = false ∧ c.isLower = false) :
    Closed (cs ++ c :: ds) (ws ++ vs) := fun found rest => by
  have hrest : Stops (c :: ds ++ rest) := by
    rintro _ ⟨⟩
    exact hstop
  rw [List.append_assoc, h _ _ hrest, h', List.reverse_append, List.append_assoc]

end Words

/-! ### Characters and texts -/

theorem digit?_hexDigit {n : Nat} (h : n < 16) : digit? 16 (hexDigit n) = some n := by
  revert n
  decide

/-- A control character is read back from the digits of its escape. -/
theorem lexFrom?_unit {c : Char} (h : c.toNat < 0x20) (done : List Char) (found : List Token)
    (rest : List Char) :
    lexFrom? (.unit done none 0 4) found
        ('0' :: '0' :: hexDigit (c.toNat / 16) :: hexDigit (c.toNat % 16) :: rest) =
      lexFrom? (.quoted (c :: done)) found rest := by
  have hhigh := digit?_hexDigit (n := c.toNat / 16) (by omega)
  have hlow := digit?_hexDigit (n := c.toNat % 16) (by omega)
  have hzero : digit? 16 '0' = some 0 := rfl
  have hvalue : c.toNat / 16 * 16 + c.toNat % 16 = c.toNat := Nat.div_add_mod' _ _
  have hafter : afterUnit? done none c.toNat = some (.quoted (c :: done)) := by
    have hnot : ¬ 0xD800 ≤ c.toNat ∧ ¬ 0xDC00 ≤ c.toNat := by omega
    simp only [afterUnit?, hnot, decide_false, Bool.false_and, Bool.false_eq_true, if_false,
      Char.ofNat_toNat]
  simp [lexFrom?, step?, hzero, hhigh, hlow, hvalue, hafter]

theorem lexFrom?_escapeChar (c : Char) (done : List Char) (found : List Token)
    (rest : List Char) :
    lexFrom? (.quoted done) found (escapeChar c ++ rest) =
      lexFrom? (.quoted (c :: done)) found rest := by
  rw [escapeChar]
  split
  · next h => obtain rfl := beq_iff_eq.1 h; rfl
  split
  · next h => obtain rfl := beq_iff_eq.1 h; rfl
  split
  · next h => obtain rfl := beq_iff_eq.1 h; rfl
  split
  · next h => obtain rfl := beq_iff_eq.1 h; rfl
  split
  · next h => obtain rfl := beq_iff_eq.1 h; rfl
  split
  · next h => obtain rfl := beq_iff_eq.1 h; rfl
  split
  · next h => obtain rfl := beq_iff_eq.1 h; rfl
  split
  · next h => exact lexFrom?_unit h done found rest
  · next hquote hslash _ _ _ _ _ hcontrol =>
    simp [lexFrom?, step?, hquote, hslash, hcontrol]

theorem lexFrom?_quoted (cs done : List Char) (found : List Token) (rest : List Char) :
    lexFrom? (.quoted done) found (cs.flatMap escapeChar ++ '"' :: rest) =
      lexFrom? .ready (.text (String.ofList (done.reverse ++ cs)) :: found) rest := by
  induction cs generalizing done with
  | nil => simp [lexFrom?, step?]
  | cons c cs ih =>
    rw [List.flatMap_cons, List.append_assoc, lexFrom?_escapeChar, ih, List.reverse_cons,
      List.append_assoc, List.singleton_append]

/-- **A quoted text is one word**, whatever characters it has. -/
theorem closed_quote (s : String) : Closed (quote s).toList [.text s] := fun found rest => by
  have hcs : (quote s).toList ++ rest = '"' :: (s.toList.flatMap escapeChar ++ '"' :: rest) := by
    simp [quote]
  rw [hcs]
  change lexFrom? (.quoted []) found _ = _
  rw [lexFrom?_quoted, List.reverse_nil, List.nil_append, String.ofList_toList]
  rfl

/-! ### Numbers and literals -/

theorem lexFrom?_number {cs done : List Char} {found : List Token} {rest : List Char} {d : Data}
    (hcs : ∀ c ∈ cs, isNumberChar c = true) (hrest : Stops rest)
    (hd : number? (done.reverse ++ cs) = some d) :
    lexFrom? (.number done) found (cs ++ rest) = lexFrom? .ready (.atom d :: found) rest := by
  induction cs generalizing done with
  | nil =>
    rw [List.append_nil] at hd
    cases rest with
    | nil => simp [lexFrom?, finish?, hd]
    | cons c rest =>
      have hc := (hrest c rfl).1
      simp only [List.nil_append, lexFrom?, step?, hc, hd, Bool.false_eq_true, if_false,
        Option.bind_eq_bind, Option.bind_some]
      cases readyStep? c with
      | none => rfl
      | some p => simp
  | cons c cs ih =>
    have hc := hcs c List.mem_cons_self
    simp only [List.cons_append, lexFrom?, step?, hc, if_true, List.reverse_nil, List.nil_append]
    exact ih (fun c hc => hcs c (List.mem_cons_of_mem _ hc)) (by simpa using hd)

theorem lexFrom?_literal {cs done : List Char} {found : List Token} {rest : List Char} {d : Data}
    (hcs : ∀ c ∈ cs, c.isLower = true) (hrest : Stops rest)
    (hd : literal? (done.reverse ++ cs) = some d) :
    lexFrom? (.literal done) found (cs ++ rest) = lexFrom? .ready (.atom d :: found) rest := by
  induction cs generalizing done with
  | nil =>
    rw [List.append_nil] at hd
    cases rest with
    | nil => simp [lexFrom?, finish?, hd]
    | cons c rest =>
      have hc := (hrest c rfl).2
      simp only [List.nil_append, lexFrom?, step?, hc, hd, Bool.false_eq_true, if_false,
        Option.bind_eq_bind, Option.bind_some]
      cases readyStep? c with
      | none => rfl
      | some p => simp
  | cons c cs ih =>
    have hc := hcs c List.mem_cons_self
    simp only [List.cons_append, lexFrom?, step?, hc, if_true, List.reverse_nil, List.nil_append]
    exact ih (fun c hc => hcs c (List.mem_cons_of_mem _ hc)) (by simpa using hd)

/-- Neither a minus sign nor a digit is a mark of its own. -/
theorem readyStep?_of_number {c : Char} (h : (c == '-' || c.isDigit) = true) :
    readyStep? c = some (.number [c], []) := by
  have hmark : c ∉ [' ', '\t', '\n', '\x0d', '[', ']', '{', '}', ',', ':', '"'] := by
    intro hm
    have hnone : [' ', '\t', '\n', '\x0d', '[', ']', '{', '}', ',', ':', '"'].all
        (fun c => !(c == '-' || c.isDigit)) = true := rfl
    have hc := List.all_eq_true.1 hnone c hm
    rw [h] at hc
    cases hc
  simp only [List.mem_cons, List.not_mem_nil, or_false, not_or] at hmark
  obtain ⟨h1, h2, h3, h4, h5, h6, h7, h8, h9, h10, h11⟩ := hmark
  have hpunctuation : punctuation? c = none := by
    rw [punctuation?] <;> assumption
  simp [readyStep?, isBlank, h1, h2, h3, h4, hpunctuation, h11, h]

theorem spells_int {n : Int} (hlo : -0x8000000000000000 ≤ n) (hhi : n < 0x10000000000000000) :
    Spells (toString n).toList [.atom (.int n)] := fun found rest hrest => by
  have hnumber := number?_numeral hlo hhi
  have hchars : ∀ c ∈ numeral n, (c == '-' || c.isDigit) = true := by
    intro c hc
    rw [Bool.or_eq_true, beq_iff_eq]
    cases n with
    | ofNat m => exact .inr (isDigit_of_mem_toDigits hc)
    | negSucc m => exact (List.mem_cons.1 hc).imp id isDigit_of_mem_toDigits
  have hnumberChar : ∀ c ∈ numeral n, isNumberChar c = true := by
    intro c hc
    obtain h | h := Bool.or_eq_true_iff.1 (hchars c hc) <;> simp [isNumberChar, h]
  rw [toList_toString]
  generalize numeral n = cs at hnumber hchars hnumberChar
  cases cs with
  | nil => cases hnumber
  | cons c cs =>
    rw [List.cons_append, lexFrom?, step?, readyStep?_of_number (hchars c List.mem_cons_self)]
    exact lexFrom?_number (fun c hc => hnumberChar c (List.mem_cons_of_mem _ hc)) hrest hnumber

theorem spells_literal {c : Char} {cs : List Char} {d : Data}
    (hstart : readyStep? c = some (.literal [c], [])) (hcs : cs.all Char.isLower = true)
    (hd : literal? (c :: cs) = some d) : Spells (c :: cs) [.atom d] := fun found rest hrest => by
  rw [List.cons_append, lexFrom?, step?, hstart]
  exact lexFrom?_literal (List.all_eq_true.1 hcs) hrest hd

theorem spells_null : Spells "null".toList [.atom .null] :=
  spells_literal rfl rfl rfl

theorem spells_bool (b : Bool) :
    Spells (if b then "true" else "false" : String).toList [.atom (.bool b)] := by
  cases b
  · exact spells_literal rfl rfl rfl
  · exact spells_literal rfl rfl rfl

/-! ### Collections -/

/-- Nothing but blanks. -/
def Blanks (cs : List Char) : Prop := ∀ c ∈ cs, isBlank c = true

theorem blanks_nil : Blanks [] := by simp [Blanks]

theorem blanks_newline (level : Nat) : Blanks (newline level).toList := by
  intro c hc
  simp only [newline, String.toList_append, String.toList_ofList, List.mem_append,
    List.mem_replicate] at hc
  obtain hc | ⟨-, rfl⟩ := hc
  · obtain rfl : c = '\n' := by simpa using hc
    rfl
  · rfl

theorem stops_of_isBlank {c : Char} (h : isBlank c = true) :
    isNumberChar c = false ∧ c.isLower = false := by
  simp only [isBlank, Bool.or_eq_true, beq_iff_eq] at h
  rcases h with ((rfl | rfl) | rfl) | rfl <;> decide

theorem Blanks.closed {cs : List Char} (h : Blanks cs) : Closed cs [] := by
  induction cs with
  | nil => exact fun found rest => rfl
  | cons c cs ih =>
    intro found rest
    rw [List.cons_append, lexFrom?, step?, readyStep?, if_pos (h c List.mem_cons_self)]
    exact ih (fun c hc => h c (List.mem_cons_of_mem _ hc)) found rest

theorem closed_mark {c : Char} {t : Token} (h : readyStep? c = some (.ready, [t])) :
    Closed [c] [t] := fun found rest => by
  rw [List.singleton_append, lexFrom?, step?, h]

/-- Parts with one comma between them. -/
theorem spells_intercalate {blanks : List Char} (hblanks : Blanks blanks)
    {parts : List (List Char)} {words : List (List Token)} (h : List.Forall₂ Spells parts words) :
    Spells ((',' :: blanks).intercalate parts) ([Token.comma].intercalate words) := by
  have hsep : Closed (',' :: blanks) [.comma] := (closed_mark rfl).append hblanks.closed
  induction h with
  | nil => exact fun found rest _ => rfl
  | @cons p w ps ws hp hps ih =>
    cases hps with
    | nil => simpa using hp
    | cons hp' hps' =>
      rw [List.intercalate_cons_cons, List.intercalate_cons_cons]
      exact (hp.append_closed hsep (by decide)).append_spells ih

/-- A key, a colon with blanks after it, and a value. -/
theorem Spells.field {blanks cs : List Char} {ws : List Token} (h : Spells cs ws) (k : String)
    (hblanks : Blanks blanks) :
    Spells ((quote k).toList ++ (':' :: (blanks ++ cs))) (.text k :: .colon :: ws) := by
  have hsep : Closed (':' :: blanks) [.colon] := (closed_mark rfl).append hblanks.closed
  exact (closed_quote k).append_spells (hsep.append_spells h)

/-- The brackets of a list or of an object. -/
structure Brackets (opening closing : Char) (t t' : Token) : Prop where
  opens : readyStep? opening = some (.ready, [t])
  closes : readyStep? closing = some (.ready, [t'])
  stops : isNumberChar closing = false ∧ closing.isLower = false

theorem listBrackets : Brackets '[' ']' .openList .closeList := ⟨rfl, rfl, by decide⟩

theorem objectBrackets : Brackets '{' '}' .openObject .closeObject := ⟨rfl, rfl, by decide⟩

/-- Between brackets, blanks may stand at either end. -/
theorem Brackets.closed {opening closing : Char} {t t' : Token}
    (hb : Brackets opening closing t t') {before after cs : List Char} {ws : List Token}
    (hbefore : Blanks before) (h : Spells cs ws) (hafter : Blanks after) :
    Closed (opening :: (before ++ (cs ++ (after ++ [closing])))) (t :: (ws ++ [t'])) := by
  have hend : Closed (after ++ [closing]) [t'] := hafter.closed.append (closed_mark hb.closes)
  have hbody : Closed (cs ++ (after ++ [closing])) (ws ++ [t']) := by
    cases after with
    | nil => exact h.append_closed hend hb.stops
    | cons c after =>
      exact h.append_closed hend (stops_of_isBlank (hafter c List.mem_cons_self))
  exact (closed_mark hb.opens).append (hbefore.closed.append hbody)

/-- Parts between brackets, one a line. -/
theorem Brackets.closed_block {opening closing : Char} {t t' : Token}
    (hb : Brackets opening closing t t') {level : Nat} {o c : String} (ho : o.toList = [opening])
    (hc : c.toList = [closing]) {parts : List String} {words : List (List Token)}
    (h : List.Forall₂ Spells (parts.map String.toList) words) :
    Closed (block level o c parts).toList (t :: ([Token.comma].intercalate words ++ [t'])) := by
  cases parts with
  | nil =>
    obtain rfl : words = [] := by simpa using h
    simpa [block, ho, hc] using hb.closed blanks_nil blanks_nil.closed.spells blanks_nil
  | cons p ps =>
    have hparts := spells_intercalate (blanks_newline (level + 1)) h
    have := hb.closed (blanks_newline (level + 1)) hparts (blanks_newline level)
    simpa [block, ho, hc, String.toList_intercalate] using this

/-! ### Values -/

mutual

/-- The words of a value. -/
def words : Data → List Token
  | .list items => .openList :: ([Token.comma].intercalate (itemWords items) ++ [.closeList])
  | .object fields =>
    .openObject :: ([Token.comma].intercalate (fieldWords fields) ++ [.closeObject])
  | .tagged tag content => .openObject :: (.text tag :: .colon :: words content ++ [.closeObject])
  | .text s => [.text s]
  | d => [.atom d]

def itemWords : List Data → List (List Token)
  | [] => []
  | d :: ds => words d :: itemWords ds

def fieldWords : List (String × Data) → List (List Token)
  | [] => []
  | (k, d) :: fs => (.text k :: .colon :: words d) :: fieldWords fs

end

mutual

/-- **A value without blanks is cut into its words.** -/
theorem spells_compact : ∀ {d : Data}, d.isWritten = true → Spells (compact d).toList (words d)
  | .null, _ => spells_null
  | .bool b, _ => spells_bool b
  | .int n, h => by
    simp only [isWritten, Bool.and_eq_true, decide_eq_true_eq] at h
    exact spells_int h.1 h.2
  | .text s, _ => (closed_quote s).spells
  | .list items, h => by
    have hitems := spells_intercalate blanks_nil (spells_compactItems h)
    have := listBrackets.closed blanks_nil hitems blanks_nil
    simpa [compact, words, String.toList_intercalate] using this.spells
  | .object fields, h => by
    have hfields := spells_intercalate blanks_nil (spells_compactFields h)
    have := objectBrackets.closed blanks_nil hfields blanks_nil
    simpa [compact, words, String.toList_intercalate] using this.spells
  | .tagged tag content, h => by
    simp only [isWritten, Bool.and_eq_true] at h
    have hcontent := (spells_compact h.2).field tag blanks_nil
    have := objectBrackets.closed blanks_nil hcontent blanks_nil
    simpa [compact, words] using this.spells

theorem spells_compactItems : ∀ {ds : List Data}, areWritten ds = true →
    List.Forall₂ Spells ((compactItems ds).map String.toList) (itemWords ds)
  | [], _ => .nil
  | d :: ds, h => by
    simp only [areWritten, Bool.and_eq_true] at h
    exact .cons (spells_compact h.1) (spells_compactItems h.2)

theorem spells_compactFields : ∀ {fs : List (String × Data)}, areFields fs = true →
    List.Forall₂ Spells ((compactFields fs).map String.toList) (fieldWords fs)
  | [], _ => .nil
  | (k, d) :: fs, h => by
    simp only [areFields, Bool.and_eq_true] at h
    refine .cons ?_ (spells_compactFields h.2)
    simpa using (spells_compact h.1.2).field k blanks_nil

end

mutual

/-- **A value over several lines is cut into the same words.** -/
theorem spells_prettyAt : ∀ {d : Data} (level : Nat), d.isWritten = true →
    Spells (prettyAt level d).toList (words d)
  | .null, _, _ => spells_null
  | .bool b, _, _ => spells_bool b
  | .int n, _, h => by
    simp only [isWritten, Bool.and_eq_true, decide_eq_true_eq] at h
    exact spells_int h.1 h.2
  | .text s, _, _ => (closed_quote s).spells
  | .list items, level, h =>
    (listBrackets.closed_block rfl rfl (spells_prettyItems (level + 1) h)).spells
  | .object fields, level, h =>
    (objectBrackets.closed_block rfl rfl (spells_prettyFields (level + 1) h)).spells
  | .tagged tag content, level, h => by
    simp only [isWritten, Bool.and_eq_true] at h
    have hspace : Blanks [' '] := by simp [Blanks, isBlank]
    have hcontent := (spells_prettyAt (level + 1) h.2).field tag hspace
    have hpart : List.Forall₂ Spells
        ([quote tag ++ ": " ++ prettyAt (level + 1) content].map String.toList)
        [.text tag :: .colon :: words content] :=
      .cons (by simpa using hcontent) .nil
    simpa [words, prettyAt] using (objectBrackets.closed_block rfl rfl hpart).spells

theorem spells_prettyItems : ∀ {ds : List Data} (level : Nat), areWritten ds = true →
    List.Forall₂ Spells ((prettyItems level ds).map String.toList) (itemWords ds)
  | [], _, _ => .nil
  | d :: ds, level, h => by
    simp only [areWritten, Bool.and_eq_true] at h
    exact .cons (spells_prettyAt level h.1) (spells_prettyItems level h.2)

theorem spells_prettyFields : ∀ {fs : List (String × Data)} (level : Nat), areFields fs = true →
    List.Forall₂ Spells ((prettyFields level fs).map String.toList) (fieldWords fs)
  | [], _, _ => .nil
  | (k, d) :: fs, level, h => by
    simp only [areFields, Bool.and_eq_true] at h
    have hspace : Blanks [' '] := by simp [Blanks, isBlank]
    refine .cons ?_ (spells_prettyFields level h.2)
    simpa using (spells_prettyAt level h.1.2).field k hspace

end

/-- An object needs nothing that stops it. -/
theorem closed_compact_object {fs : List (String × Data)} (h : (object fs).isWritten = true) :
    Closed (compact (.object fs)).toList (words (.object fs)) := by
  have hfields := spells_intercalate blanks_nil (spells_compactFields h)
  have := objectBrackets.closed blanks_nil hfields blanks_nil
  simpa [compact, words, String.toList_intercalate] using this

/-- The words found before stay in front. -/
theorem exists_of_lexFrom? {state : LexState} {found ws : List Token} {cs : List Char}
    (h : lexFrom? state found cs = some ws) : ∃ vs, ws = found.reverse ++ vs := by
  induction cs generalizing state found with
  | nil =>
    obtain ⟨vs, -, rfl⟩ := Option.map_eq_some_iff.1 h
    exact ⟨vs, rfl⟩
  | cons c cs ih =>
    rw [lexFrom?] at h
    split at h
    · cases h
    · next ws' _ =>
      obtain ⟨vs, rfl⟩ := ih h
      exact ⟨ws' ++ vs, by simp⟩

theorem Spells.lex? {s : String} {ws : List Token} (h : Spells s.toList ws) :
    lex? s = some ws := by
  have := h [] [] (by simp [Stops])
  simpa [Json.lex?, lexFrom?, finish?] using this

theorem lex?_compact {d : Data} (h : d.isWritten = true) : lex? (compact d) = some (words d) :=
  (spells_compact h).lex?

theorem lex?_pretty {d : Data} (h : d.isWritten = true) : lex? (pretty d) = some (words d) :=
  (spells_prettyAt 0 h).lex?

end HeaderAbi.Json
