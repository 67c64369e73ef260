import HeaderAbi.Json.Reader
import HeaderAbi.Proofs.Json.Lexing

/-!
# Reading written JSON

**A written JSON text is read back exactly when its nesting is within the limit**
(`parseWithin?_compact`, `parseWithin?_pretty`).  The reader keeps a stack of what is open, so the
induction is on the value, for every stack below it: from a place where a value may stand, the words
of a value deliver it, unless the stack would grow beyond the limit (`foldlM_words`).
-/

namespace HeaderAbi.Json

open Data

/-- The words are read one after the other. -/
def feed (limit : Nat) (state : State) (ts : List Token) : Option State :=
  ts.foldlM (advance? limit) state

theorem feed_cons (limit : Nat) (state : State) (t : Token) (ts : List Token) :
    feed limit state (t :: ts) = (advance? limit state t).bind (feed limit · ts) :=
  List.foldlM_cons

/-- A value may stand here. -/
def Expected.TakesValue : Expected → Prop
  | .value => True
  | .firstItem => True
  | _ => False

theorem takesValue_value : Expected.value.TakesValue := trivial

theorem takesValue_firstItem : Expected.firstItem.TakesValue := trivial

/-- The words of items after the first, each behind a comma. -/
theorem intercalate_cons {α : Type} (sep : α) (w : List α) (ws : List (List α)) :
    [sep].intercalate (w :: ws) = w ++ ws.flatMap (sep :: ·) := by
  induction ws generalizing w with
  | nil => simp
  | cons v ws ih => rw [List.intercalate_cons_cons, ih]; simp

theorem putField_of_new {done : List (String × Data)} {k : String} {d : Data}
    (h : ∀ g ∈ done, g.1 ≠ k) : putField done k d = done ++ [(k, d)] := by
  induction done with
  | nil => rfl
  | cons g done ih =>
    have hg : (g.1 == k) = false := beq_eq_false_iff_ne.2 (h g List.mem_cons_self)
    rw [putField, hg, ih fun g hg => h g (List.mem_cons_of_mem _ hg)]
    rfl

/-- Two limits one after the other are one. -/
theorem ite_ite_none {α : Type} {p q r : Prop} [Decidable p] [Decidable q] [Decidable r]
    (h : r ↔ p ∧ q) (x : Option α) :
    (if p then if q then x else none else none) = if r then x else none := by
  by_cases hp : p <;> by_cases hq : q <;> simp [h, hp, hq]

/-! ### Single words -/

section Words
variable {limit : Nat} {stack : List Frame} {e : Expected}

theorem advance?_atom (he : e.TakesValue) (d : Data) :
    advance? limit ⟨stack, e⟩ (.atom d) = some (deliver stack d) := by
  cases e <;> first | rfl | exact he.elim

theorem advance?_text (he : e.TakesValue) (s : String) :
    advance? limit ⟨stack, e⟩ (.text s) = some (deliver stack (.text s)) := by
  cases e <;> first | rfl | exact he.elim

theorem advance?_openList (he : e.TakesValue) :
    advance? limit ⟨stack, e⟩ .openList =
      if stack.length < limit then some ⟨.list [] :: stack, .firstItem⟩ else none := by
  cases e <;> first | rfl | exact he.elim

theorem advance?_openObject (he : e.TakesValue) :
    advance? limit ⟨stack, e⟩ .openObject =
      if stack.length < limit then some ⟨.object [] "" :: stack, .firstKey⟩ else none := by
  cases e <;> first | rfl | exact he.elim

/-- A scalar is delivered as it is. -/
theorem feed_scalar {t : Token} {d : Data}
    (ht : advance? limit ⟨stack, e⟩ t = some (deliver stack d)) (hs : stack.length ≤ limit)
    (ts : List Token) : feed limit ⟨stack, e⟩ ([t] ++ ts) =
      if stack.length + 0 ≤ limit then feed limit (deliver stack d) ts else none := by
  rw [List.singleton_append, feed_cons, ht, Option.bind_some, Nat.add_zero, if_pos hs]

end Words

/-! ### Values -/

mutual

/-- **The words of a value deliver it**, unless the stack would grow beyond the limit. -/
theorem feed_words : ∀ {d : Data} {limit : Nat} {stack : List Frame} {e : Expected},
    d.isWritten = true → stack.length ≤ limit → e.TakesValue → ∀ ts,
      feed limit ⟨stack, e⟩ (words d ++ ts) =
        if stack.length + d.depth ≤ limit then feed limit (deliver stack d.asJson) ts else none
  | .null, _, _, _, _, hs, he, ts => feed_scalar (advance?_atom he _) hs ts
  | .bool b, _, _, _, _, hs, he, ts => feed_scalar (advance?_atom he _) hs ts
  | .int n, _, _, _, _, hs, he, ts => feed_scalar (advance?_atom he _) hs ts
  | .text s, _, _, _, _, hs, he, ts => feed_scalar (advance?_text he s) hs ts
  | .list [], limit, stack, e, _, hs, he, ts => by
    have hdepth : (Data.list []).depth = 1 := rfl
    simp only [words, itemWords, List.intercalate_nil, List.nil_append, List.cons_append, feed_cons,
      advance?_openList he, hdepth, Nat.lt_iff_add_one_le]
    split <;> rfl
  | .list (d :: ds), limit, stack, e, h, hs, he, ts => by
    have hdepth : (Data.list (d :: ds)).depth = max d.depth (depthList ds) + 1 := rfl
    simp only [isWritten, areWritten, Bool.and_eq_true] at h
    simp only [words, itemWords, intercalate_cons, List.cons_append, List.append_assoc,
      List.nil_append, feed_cons, advance?_openList he]
    by_cases hlt : stack.length < limit
    · rw [if_pos hlt, Option.bind_some, feed_words h.1 (Nat.succ_le_of_lt hlt) takesValue_firstItem]
      change (if _ then feed limit ⟨.list [d.asJson] :: stack, .separator⟩ _ else none) = _
      rw [feed_moreItems h.2 hlt]
      refine ite_ite_none ?_ _
      rw [List.length_cons]
      omega
    · rw [if_neg hlt, if_neg (by omega)]
      rfl
  | .object [], limit, stack, e, _, hs, he, ts => by
    have hdepth : (Data.object []).depth = 1 := rfl
    simp only [words, fieldWords, List.intercalate_nil, List.nil_append, List.cons_append,
      feed_cons, advance?_openObject he, hdepth, Nat.lt_iff_add_one_le]
    split <;> rfl
  | .object ((k, d) :: fs), limit, stack, e, h, hs, he, ts => by
    have hdepth : (Data.object ((k, d) :: fs)).depth = max d.depth (depthFields fs) + 1 := rfl
    simp only [isWritten, areFields, Bool.and_eq_true] at h
    obtain ⟨⟨⟨-, hnew⟩, hd⟩, hfs⟩ := h
    have hnew' : ∀ f ∈ fs, ∀ g ∈ [(k, d.asJson)], g.1 ≠ f.1 := by
      intro f hf g hg
      obtain rfl := List.mem_singleton.1 hg
      exact (bne_iff_ne.1 (List.all_eq_true.1 hnew f hf)).symm
    rw [words, fieldWords, intercalate_cons]
    simp only [List.cons_append, List.append_assoc, List.nil_append]
    rw [feed_cons, advance?_openObject he]
    by_cases hlt : stack.length < limit
    · rw [if_pos hlt, Option.bind_some]
      change feed limit ⟨.object [] k :: stack, .value⟩ _ = _
      rw [feed_words hd (Nat.succ_le_of_lt hlt) takesValue_value]
      change (if _ then feed limit ⟨.object [(k, d.asJson)] k :: stack, .separator⟩ _ else none) = _
      rw [feed_moreFields hfs hnew' hlt]
      refine ite_ite_none ?_ _
      rw [List.length_cons]
      omega
    · rw [if_neg hlt, if_neg (by omega)]
      rfl
  | .tagged tag content, limit, stack, e, h, hs, he, ts => by
    have hdepth : (Data.tagged tag content).depth = content.depth + 1 := rfl
    simp only [isWritten, Bool.and_eq_true] at h
    rw [words]
    simp only [List.cons_append, List.append_assoc, List.nil_append]
    rw [feed_cons, advance?_openObject he]
    by_cases hlt : stack.length < limit
    · rw [if_pos hlt, Option.bind_some]
      change feed limit ⟨.object [] tag :: stack, .value⟩ _ = _
      rw [feed_words h.2 (Nat.succ_le_of_lt hlt) takesValue_value]
      have hlen : (Frame.object [] tag :: stack).length + content.depth ≤ limit ↔
          stack.length + (Data.tagged tag content).depth ≤ limit := by
        rw [List.length_cons, hdepth]
        omega
      simp only [hlen]
      rfl
    · rw [if_neg hlt, if_neg (by omega)]
      rfl

/-- Further items join the list that is open. -/
theorem feed_moreItems : ∀ {ds : List Data} {limit : Nat} {stack : List Frame} {done : List Data},
    areWritten ds = true → stack.length + 1 ≤ limit → ∀ ts,
      feed limit ⟨.list done :: stack, .separator⟩
          ((itemWords ds).flatMap (Token.comma :: ·) ++ .closeList :: ts) =
        if stack.length + 1 + depthList ds ≤ limit then
          feed limit (deliver stack (.list (done.reverse ++ listAsJson ds))) ts
        else none
  | [], limit, stack, done, _, hs, ts => by
    rw [depthList, if_pos hs, listAsJson, List.append_nil]
    rfl
  | d :: ds, limit, stack, done, h, hs, ts => by
    simp only [areWritten, Bool.and_eq_true] at h
    have hlen : (Frame.list done :: stack).length = stack.length + 1 := rfl
    have hfirst : feed limit ⟨.list done :: stack, .separator⟩
        ((itemWords (d :: ds)).flatMap (Token.comma :: ·) ++ .closeList :: ts) =
          feed limit ⟨.list done :: stack, .value⟩
            (words d ++ ((itemWords ds).flatMap (Token.comma :: ·) ++ .closeList :: ts)) := by
      simp only [itemWords, List.flatMap_cons, List.cons_append, List.append_assoc]
      rfl
    rw [hfirst, feed_words h.1 hs takesValue_value, hlen]
    change (if _ then feed limit ⟨.list (d.asJson :: done) :: stack, .separator⟩ _ else none) = _
    rw [feed_moreItems h.2 hs, List.reverse_cons, List.append_assoc, List.singleton_append]
    refine ite_ite_none ?_ _
    rw [depthList]
    omega

/-- Further fields join the object that is open. -/
theorem feed_moreFields : ∀ {fs : List (String × Data)} {limit : Nat} {stack : List Frame}
    {done : List (String × Data)} {key : String}, areFields fs = true →
      (∀ f ∈ fs, ∀ g ∈ done, g.1 ≠ f.1) → stack.length + 1 ≤ limit → ∀ ts,
        feed limit ⟨.object done key :: stack, .separator⟩
            ((fieldWords fs).flatMap (Token.comma :: ·) ++ .closeObject :: ts) =
          if stack.length + 1 + depthFields fs ≤ limit then
            feed limit (deliver stack (.object (done ++ fieldsAsJson fs))) ts
          else none
  | [], limit, stack, done, key, _, _, hs, ts => by
    rw [depthFields, if_pos hs, fieldsAsJson, List.append_nil]
    rfl
  | (k, d) :: fs, limit, stack, done, key, h, hnew, hs, ts => by
    simp only [areFields, Bool.and_eq_true] at h
    obtain ⟨⟨⟨-, hk⟩, hd⟩, hfs⟩ := h
    have hfirst : feed limit ⟨.object done key :: stack, .separator⟩
        ((fieldWords ((k, d) :: fs)).flatMap (Token.comma :: ·) ++ .closeObject :: ts) =
          feed limit ⟨.object done k :: stack, .value⟩
            (words d ++ ((fieldWords fs).flatMap (Token.comma :: ·) ++ .closeObject :: ts)) := by
      simp only [fieldWords, List.flatMap_cons, List.cons_append, List.append_assoc]
      rfl
    have hput : putField done k d.asJson = done ++ [(k, d.asJson)] :=
      putField_of_new (hnew (k, d) List.mem_cons_self)
    have hnew' : ∀ f ∈ fs, ∀ g ∈ done ++ [(k, d.asJson)], g.1 ≠ f.1 := by
      intro f hf g hg
      obtain hg | hg := List.mem_append.1 hg
      · exact hnew f (List.mem_cons_of_mem _ hf) g hg
      · obtain rfl := List.mem_singleton.1 hg
        exact (bne_iff_ne.1 (List.all_eq_true.1 hk f hf)).symm
    rw [hfirst, feed_words hd hs takesValue_value]
    change (if _ then feed limit ⟨.object (putField done k d.asJson) k :: stack, .separator⟩ _
      else none) = _
    rw [hput, feed_moreFields hfs hnew' hs, fieldsAsJson, List.append_assoc, List.singleton_append]
    refine ite_ite_none ?_ _
    rw [depthFields, List.length_cons]
    omega

end

/-! ### Texts -/

/-- The words of a value are put together exactly when the nesting is within the limit. -/
theorem assemble?_words {d : Data} (h : d.isWritten = true) (limit : Nat) :
    assemble? limit (words d) = if d.depth ≤ limit then some d.asJson else none := by
  have hfeed : feed limit ⟨[], .value⟩ (words d ++ []) =
      if 0 + d.depth ≤ limit then feed limit (deliver [] d.asJson) [] else none :=
    feed_words h (Nat.zero_le limit) takesValue_value []
  rw [List.append_nil, Nat.zero_add] at hfeed
  rw [assemble?, ← feed, hfeed]
  split <;> rfl

/-- The words of a value that stands alone, when the nesting is within the limit. -/
theorem feed_alone {d : Data} {limit : Nat} (h : d.isWritten = true) (hd : d.depth ≤ limit)
    (ts : List Token) :
    feed limit ⟨[], .value⟩ (words d ++ ts) = feed limit ⟨[], .finish d.asJson⟩ ts := by
  have hfeed : feed limit ⟨[], .value⟩ (words d ++ ts) =
      if 0 + d.depth ≤ limit then feed limit (deliver [] d.asJson) ts else none :=
    feed_words h (Nat.zero_le limit) takesValue_value ts
  rw [hfeed, if_pos (by omega), deliver]

/-- Nothing follows a value that is complete. -/
theorem eq_of_feed_finish {limit : Nat} {ts : List Token} {d e : Data}
    (h : feed limit ⟨[], .finish d⟩ ts = some ⟨[], .finish e⟩) : d = e := by
  cases ts with
  | nil =>
    cases h
    rfl
  | cons t ts =>
    rw [feed_cons] at h
    cases h

/-- **No object begins another value**: what begins with the text of an object is read as it. -/
theorem asJson_eq_of_prefix {fs : List (String × Data)} {d : Data}
    (hfs : (object fs).isWritten = true) (hd : d.isWritten = true)
    (h : (compact (.object fs)).toList <+: (compact d).toList) :
    (Data.object fs).asJson = d.asJson := by
  obtain ⟨rest, hrest⟩ := h
  -- the words of the longer text begin with those of the object
  have hlex : lexFrom? .ready [] (compact d).toList = some (words d) := lex?_compact hd
  rw [← hrest, closed_compact_object hfs] at hlex
  obtain ⟨vs, hvs⟩ := exists_of_lexFrom? hlex
  rw [List.append_nil, List.reverse_reverse] at hvs
  -- a limit that neither exceeds
  obtain ⟨limit, hlimit, hlimit'⟩ : ∃ limit, (Data.object fs).depth ≤ limit ∧ d.depth ≤ limit :=
    ⟨_, Nat.le_max_left _ _, Nat.le_max_right _ _⟩
  have hlong : feed limit ⟨[], .value⟩ (words d) = some ⟨[], .finish d.asJson⟩ := by
    rw [← List.append_nil (words d), feed_alone hd hlimit' []]
    rfl
  rw [hvs, feed_alone hfs hlimit vs] at hlong
  exact eq_of_feed_finish hlong

theorem parseWithin?_compact {d : Data} (h : d.isWritten = true) (limit : Nat) :
    parseWithin? limit (compact d) = if d.depth ≤ limit then some d.asJson else none := by
  rw [parseWithin?, lex?_compact h]
  exact assemble?_words h limit

theorem parseWithin?_pretty {d : Data} (h : d.isWritten = true) (limit : Nat) :
    parseWithin? limit (pretty d) = if d.depth ≤ limit then some d.asJson else none := by
  rw [parseWithin?, lex?_pretty h]
  exact assemble?_words h limit

end HeaderAbi.Json
