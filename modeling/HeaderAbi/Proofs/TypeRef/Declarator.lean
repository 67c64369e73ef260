import HeaderAbi.Builtin
import HeaderAbi.Proofs.Data.Numeral
import HeaderAbi.Proofs.TypeRef.Brackets
import HeaderAbi.TypeRef.Spelling

/-!
# The parts of a spelling

The spelling of a type known by name is read from its start: the qualifiers, the name, the levels of
indirection and the array extents.  Each part ends where no further piece of its kind begins, so the
pieces are found again.

* `flatMap_inj`: pieces none of which begins another are told apart.
* `leading_inj`, `IsName.append_inj`, `declarator_inj`, `innerDeclarator_inj`: the parts of a
  spelling.
* `isName_of_canonicalName`: fundamental types have names that no other part can be taken for.
-/

namespace HeaderAbi

namespace Spelling

/-! ### Pieces -/

/-- **Pieces one after the other are told apart** when none begins another one or what follows. -/
theorem flatMap_inj {α : Type} {f : α → List Char} {vs ws : List α} {cs ds : List Char}
    (hf : ∀ v ∈ vs, ∀ w ∈ ws, f v <+: f w ∨ f w <+: f v → v = w)
    (hcs : ∀ w ∈ ws, ¬ f w <+: cs) (hds : ∀ v ∈ vs, ¬ f v <+: ds)
    (h : vs.flatMap f ++ cs = ws.flatMap f ++ ds) : vs = ws ∧ cs = ds := by
  induction vs generalizing ws with
  | nil =>
    rcases ws with - | ⟨w, ws⟩
    · exact ⟨rfl, h⟩
    · rw [List.flatMap_cons, List.append_assoc] at h
      exact absurd ⟨_, h.symm⟩ (hcs w List.mem_cons_self)
  | cons v vs ih =>
    rcases ws with - | ⟨w, ws⟩
    · rw [List.flatMap_cons, List.append_assoc] at h
      exact absurd ⟨_, h⟩ (hds v List.mem_cons_self)
    · rw [List.flatMap_cons, List.flatMap_cons, List.append_assoc, List.append_assoc] at h
      have hv : f v <+: f w ++ (ws.flatMap f ++ ds) := ⟨_, h⟩
      obtain rfl : v = w := hf v List.mem_cons_self w List.mem_cons_self
        (List.prefix_or_prefix_of_prefix hv (List.prefix_append _ _))
      obtain ⟨rfl, rfl⟩ := ih (fun v hv w hw => hf v (List.mem_cons_of_mem _ hv) w
        (List.mem_cons_of_mem _ hw)) (fun w hw => hcs w (List.mem_cons_of_mem _ hw))
        (fun v hv => hds v (List.mem_cons_of_mem _ hv)) (List.append_cancel_left h)
      exact ⟨rfl, rfl⟩

/-! ### Qualifiers -/

/-- The words of qualifiers. -/
def qualifierWords : List String := ["const", "volatile", "restrict"]

theorem mem_qualifierWords {q : Qualifiers} : ∀ w ∈ q.words, w ∈ qualifierWords := by
  obtain ⟨c, v, r⟩ := q
  cases c <;> cases v <;> cases r <;> decide

theorem words_inj {q q' : Qualifiers} (h : q.words = q'.words) : q = q' := by
  obtain ⟨c, v, r⟩ := q
  obtain ⟨c', v', r'⟩ := q'
  cases c <;> cases v <;> cases r <;> cases c' <;> cases v' <;> cases r' <;>
    simp_all [Qualifiers.words]

/-- Qualifiers in front of a type, each with a blank after it. -/
def leading (ws : List String) : List Char := ws.flatMap fun w => w.toList ++ [' ']

theorem toList_leading (ws : List String) :
    (String.join (ws.map (· ++ " "))).toList = leading ws := by
  simp [leading, String.toList_join, List.flatMap_map]

theorem leading_append (vs ws : List String) : leading (vs ++ ws) = leading vs ++ leading ws :=
  List.flatMap_append

/-- No qualifier stands at the start of the text. -/
def Unqualified (cs : List Char) : Prop := ∀ w ∈ qualifierWords, ¬ w.toList ++ [' '] <+: cs

theorem leading_inj {vs ws : List String} {cs ds : List Char} (hvs : ∀ v ∈ vs, v ∈ qualifierWords)
    (hws : ∀ w ∈ ws, w ∈ qualifierWords) (hcs : Unqualified cs) (hds : Unqualified ds)
    (h : leading vs ++ cs = leading ws ++ ds) : vs = ws ∧ cs = ds := by
  have hcode : ∀ v ∈ qualifierWords, ∀ w ∈ qualifierWords,
      v.toList ++ [' '] <+: w.toList ++ [' '] ∨ w.toList ++ [' '] <+: v.toList ++ [' '] →
        v = w := by
    decide
  exact flatMap_inj (fun v hv w hw => hcode v (hvs v hv) w (hws w hw))
    (fun w hw => hcs w (hws w hw)) (fun v hv => hds v (hvs v hv)) h

/-! ### Array extents -/

/-- The digits of an extent. -/
def extentDigits : Option UInt64 → List Char
  | some n => Nat.toDigits 10 n.toNat
  | none => []

theorem toList_extentSpelling (e : Option UInt64) :
    (extentSpelling e).toList = '[' :: (extentDigits e ++ [']']) := by
  cases e with
  | none => rfl
  | some n =>
    have hdigits : (toString n).toList = Nat.toDigits 10 n.toNat := Nat.toList_repr
    simp [extentSpelling, extentDigits, hdigits]

theorem isDigit_of_mem_extentDigits {e : Option UInt64} {c : Char} (h : c ∈ extentDigits e) :
    c.isDigit = true := by
  cases e with
  | none => cases h
  | some n => exact Data.isDigit_of_mem_toDigits h

theorem extentDigits_inj {e e' : Option UInt64} (h : extentDigits e = extentDigits e') :
    e = e' := by
  cases e with
  | none =>
    cases e' with
    | none => rfl
    | some n => exact absurd h.symm Nat.toDigits_ne_nil
  | some n =>
    cases e' with
    | none => exact absurd h Nat.toDigits_ne_nil
    | some m =>
      have hn := Data.digits?_toDigits n.toNat
      rw [show Nat.toDigits 10 n.toNat = Nat.toDigits 10 m.toNat from h,
        Data.digits?_toDigits] at hn
      rw [UInt64.toNat_inj.1 (Option.some.inj hn)]

theorem eq_of_prefix_extentSpelling {e e' : Option UInt64}
    (h : (extentSpelling e).toList <+: (extentSpelling e').toList) : e = e' := by
  obtain ⟨rest, h⟩ := h
  rw [toList_extentSpelling, toList_extentSpelling, List.cons_append, List.append_assoc] at h
  have htake (e : Option UInt64) (rest : List Char) :
      (extentDigits e ++ ']' :: rest).takeWhile Char.isDigit = extentDigits e := by
    rw [List.takeWhile_append_of_pos fun c => isDigit_of_mem_extentDigits]
    simp
  have hdigits := congrArg (List.takeWhile Char.isDigit) (List.cons.inj h).2
  exact extentDigits_inj ((htake e rest).symm.trans (hdigits.trans (htake e' [])))

/-- Array extents, one after the other. -/
def extentsText (es : List (Option UInt64)) : List Char :=
  es.flatMap fun e => (extentSpelling e).toList

theorem extentsText_inj {es es' : List (Option UInt64)} (h : extentsText es = extentsText es') :
    es = es' := by
  have hnone (e : Option UInt64) : ¬ (extentSpelling e).toList <+: [] := by
    simp [toList_extentSpelling]
  have hcode (e e' : Option UInt64) (he : (extentSpelling e).toList <+: (extentSpelling e').toList ∨
      (extentSpelling e').toList <+: (extentSpelling e).toList) : e = e' :=
    he.elim eq_of_prefix_extentSpelling fun he => (eq_of_prefix_extentSpelling he).symm
  exact (flatMap_inj (fun e _ e' _ => hcode e e') (fun e _ => hnone e) (fun e _ => hnone e)
    (congrArg (· ++ []) h)).1

/-! ### Levels of indirection -/

/-- What stands after a name or a level of indirection: nothing, an extent or another level. -/
inductive Stops : List Char → Prop where
  | nil : Stops []
  | extent (cs : List Char) : Stops ('[' :: cs)
  | pointer (cs : List Char) : Stops (' ' :: '*' :: cs)
  | reference (cs : List Char) : Stops (' ' :: '&' :: cs)

theorem toList_pointer (q : Qualifiers) : (Indirection.pointer q).spelling.toList =
    '*' :: q.words.flatMap fun w => ' ' :: w.toList := by
  simp [Indirection.spelling, String.toList_join, List.flatMap_map]

theorem exists_indirection_cons (i : Indirection) :
    ∃ cs, i.spelling.toList = '*' :: cs ∨ i.spelling.toList = '&' :: cs := by
  cases i with
  | pointer q => exact ⟨_, .inl (toList_pointer q)⟩
  | lvalueReference => exact ⟨[], .inr rfl⟩
  | rvalueReference => exact ⟨['&'], .inr rfl⟩

/-- **A level of indirection** ends where the next one, an extent or nothing begins. -/
theorem indirection_inj {i i' : Indirection} {cs ds : List Char} (hcs : Stops cs) (hds : Stops ds)
    (h : i.spelling.toList ++ cs = i'.spelling.toList ++ ds) : i = i' ∧ cs = ds := by
  have hcode : ∀ v ∈ qualifierWords, ∀ w ∈ qualifierWords,
      ' ' :: v.toList <+: ' ' :: w.toList ∨ ' ' :: w.toList <+: ' ' :: v.toList → v = w := by
    decide
  have hstop {cs : List Char} (hcs : Stops cs) :
      ∀ w ∈ qualifierWords, ¬ ' ' :: w.toList <+: cs := by
    cases hcs <;> simp [qualifierWords]
  match i, i' with
  | .pointer q, .pointer q' =>
    rw [toList_pointer, toList_pointer] at h
    obtain ⟨hq, rfl⟩ := flatMap_inj
      (fun v hv w hw => hcode v (mem_qualifierWords v hv) w (mem_qualifierWords w hw))
      (fun w hw => hstop hcs w (mem_qualifierWords w hw))
      (fun v hv => hstop hds v (mem_qualifierWords v hv)) (List.cons.inj h).2
    exact ⟨by rw [words_inj hq], rfl⟩
  | .pointer _, .lvalueReference | .pointer _, .rvalueReference | .lvalueReference, .pointer _
  | .rvalueReference, .pointer _ => simp [Indirection.spelling] at h
  | .lvalueReference, .lvalueReference | .rvalueReference, .rvalueReference =>
    exact ⟨rfl, List.append_cancel_left h⟩
  | .lvalueReference, .rvalueReference => cases hcs <;> simp [Indirection.spelling] at h
  | .rvalueReference, .lvalueReference => cases hds <;> simp [Indirection.spelling] at h

/-! ### Declarators -/

/-- Levels of indirection and array extents after a type. -/
def declarator (is : List Indirection) (es : List (Option UInt64)) : List Char :=
  is.flatMap (fun i => ' ' :: i.spelling.toList) ++ extentsText es

theorem toList_outerDeclarator (u : TypeUse) :
    u.outerDeclarator.toList = declarator u.indirection u.extents := by
  simp [TypeUse.outerDeclarator, TypeUse.extentsSpelling, declarator, extentsText,
    String.toList_join, List.flatMap_map]

theorem declarator_cons (i : Indirection) (is : List Indirection) (es : List (Option UInt64)) :
    declarator (i :: is) es = ' ' :: (i.spelling.toList ++ declarator is es) := by
  simp [declarator]

theorem declarator_nil_eq (es : List (Option UInt64)) :
    declarator [] es = [] ∨ ∃ cs, declarator [] es = '[' :: cs := by
  cases es with
  | nil => exact .inl rfl
  | cons e es => exact .inr ⟨_, by simp [declarator, extentsText, toList_extentSpelling]; rfl⟩

theorem stops_declarator (is : List Indirection) (es : List (Option UInt64)) :
    Stops (declarator is es) := by
  cases is with
  | nil =>
    obtain h | ⟨cs, h⟩ := declarator_nil_eq es <;> rw [h]
    · exact .nil
    · exact .extent cs
  | cons i is =>
    rw [declarator_cons]
    obtain ⟨cs, h | h⟩ := exists_indirection_cons i <;> rw [h]
    · exact .pointer _
    · exact .reference _

/-- **A declarator tells its levels and its extents.** -/
theorem declarator_inj {is is' : List Indirection} {es es' : List (Option UInt64)}
    (h : declarator is es = declarator is' es') : is = is' ∧ es = es' := by
  induction is generalizing is' with
  | nil =>
    cases is' with
    | nil => exact ⟨rfl, extentsText_inj h⟩
    | cons i' is' =>
      rw [declarator_cons] at h
      obtain hnil | ⟨cs, hnil⟩ := declarator_nil_eq es <;> simp [hnil] at h
  | cons i is ih =>
    cases is' with
    | nil =>
      rw [declarator_cons] at h
      obtain hnil | ⟨cs, hnil⟩ := declarator_nil_eq es' <;> simp [hnil] at h
    | cons i' is' =>
      rw [declarator_cons, declarator_cons] at h
      obtain ⟨rfl, htail⟩ := indirection_inj (stops_declarator is es) (stops_declarator is' es')
        (List.cons.inj h).2
      obtain ⟨rfl, rfl⟩ := ih htail
      exact ⟨rfl, rfl⟩

theorem toList_intercalate_levels (i : Indirection) (is : List Indirection) :
    (" ".intercalate ((i :: is).map Indirection.spelling)).toList =
      i.spelling.toList ++ is.flatMap fun i => ' ' :: i.spelling.toList := by
  induction is generalizing i with
  | nil => simp
  | cons j is ih =>
    rw [List.flatMap_cons, List.cons_append, ← ih j]
    simp

/-- In parentheses a declarator stands without the blank before its first level. -/
theorem declarator_eq_innerDeclarator (u : TypeUse) : declarator u.indirection u.extents =
    (if u.indirection = [] then [] else [' ']) ++ u.innerDeclarator.toList := by
  have hextents : u.extentsSpelling.toList = extentsText u.extents := by
    simp [TypeUse.extentsSpelling, extentsText, String.toList_join, List.flatMap_map]
  cases h : u.indirection with
  | nil => simp [declarator, TypeUse.innerDeclarator, h, hextents]
  | cons i is =>
    rw [declarator_cons, TypeUse.innerDeclarator, h, String.toList_append, hextents,
      toList_intercalate_levels]
    simp [declarator]

/-- A level begins with a mark of its own, an extent with a bracket. -/
theorem indirection_eq_nil_iff (u : TypeUse) : u.indirection = [] ↔
    u.innerDeclarator.toList.head? = none ∨ u.innerDeclarator.toList.head? = some '[' := by
  have hu := declarator_eq_innerDeclarator u
  cases h : u.indirection with
  | nil =>
    rw [h, if_pos rfl, List.nil_append] at hu
    obtain hnil | ⟨cs, hnil⟩ := declarator_nil_eq u.extents <;> simp [← hu, hnil]
  | cons i is =>
    rw [h, if_neg (List.cons_ne_nil _ _), declarator_cons] at hu
    have hlist : u.innerDeclarator.toList = i.spelling.toList ++ declarator is u.extents :=
      (List.cons.inj hu).2.symm
    obtain ⟨cs, hc | hc⟩ := exists_indirection_cons i <;> rw [hlist, hc] <;> simp

/-- **A declarator in parentheses tells its levels and its extents.** -/
theorem innerDeclarator_inj {u u' : TypeUse} (h : u.innerDeclarator = u'.innerDeclarator) :
    u.indirection = u'.indirection ∧ u.extents = u'.extents := by
  apply declarator_inj
  rw [declarator_eq_innerDeclarator, declarator_eq_innerDeclarator]
  simp only [indirection_eq_nil_iff, h]

/-! ### Names -/

/-- The characters that mark other parts of a spelling. -/
def marks : List Char := ['(', ')', ',', '.', '*', '&', '[']

/-- A name that no other part of a spelling can be taken for. -/
structure IsName (cs : List Char) : Prop where
  letters : ∀ c ∈ cs, c ∉ marks
  last : cs.getLast? ≠ some ' '
  unqualified : ∀ w ∈ qualifierWords, ¬ w.toList ++ [' '] <+: cs ∧ ¬ cs <+: w.toList ++ [' ']

instance (cs : List Char) : Decidable (IsName cs) :=
  decidable_of_iff ((cs.all (· ∉ marks)) = true ∧ _ ∧ _)
    ⟨fun h => ⟨by simpa using h.1, h.2.1, h.2.2⟩, fun h => ⟨by simpa using h.1, h.2, h.3⟩⟩

namespace IsName

variable {cs cs' ds ds' : List Char}

theorem unqualified_append (h : IsName cs) (ds : List Char) : Unqualified (cs ++ ds) := by
  intro w hw hprefix
  obtain ⟨hlonger, hshorter⟩ := h.unqualified w hw
  obtain hcs | hw := List.prefix_or_prefix_of_prefix (List.prefix_append cs ds) hprefix
  · exact hshorter hcs
  · exact hlonger hw

/-- What stands after a name is not part of one. -/
theorem eq_nil_of_stops {zs : List Char} (h : IsName (cs ++ zs)) (hstops : Stops (zs ++ ds)) :
    zs = [] := by
  rcases zs with - | ⟨c, zs⟩
  · rfl
  exfalso
  have hletters : ∀ d ∈ c :: zs, d ∉ marks :=
    fun d hd => h.letters d (List.mem_append_right cs hd)
  generalize hall : c :: zs ++ ds = all at hstops
  cases hstops with
  | nil => cases hall
  | extent es =>
    obtain ⟨rfl, -⟩ := List.cons.inj hall
    exact hletters '[' List.mem_cons_self (by decide)
  | pointer es | reference es =>
    obtain ⟨rfl, htail⟩ := List.cons.inj hall
    rcases zs with - | ⟨d, zs⟩
    · exact h.last (by simp)
    · obtain ⟨rfl, -⟩ := List.cons.inj htail
      exact hletters _ (List.mem_cons_of_mem _ List.mem_cons_self) (by decide)

/-- **A name** ends where a level of indirection, an extent or nothing begins. -/
theorem append_inj (h : IsName cs) (h' : IsName cs')
    (hds : Stops ds) (hds' : Stops ds') (heq : cs ++ ds = cs' ++ ds') : cs = cs' ∧ ds = ds' := by
  obtain ⟨zs, rfl, rfl⟩ | ⟨zs, rfl, rfl⟩ := List.append_eq_append_iff.1 heq
  · obtain rfl := h'.eq_nil_of_stops hds
    simp
  · obtain rfl := h.eq_nil_of_stops hds'
    simp

end IsName

/-- **Fundamental types have such names.** -/
theorem isName_of_canonicalName {spelling name : String}
    (h : Builtin.canonicalName spelling = some name) : IsName name.toList := by
  have hall : ∀ b ∈ Builtin.all, IsName b.name.toList := by decide +kernel
  have haliases : ∀ a ∈ Builtin.aliases, IsName a.2.toList := by decide +kernel
  unfold Builtin.canonicalName at h
  dsimp only at h
  split at h
  · next b hb =>
    rw [← Option.some.inj h]
    exact hall b (List.mem_of_find?_eq_some hb)
  · obtain ⟨a, ha, rfl⟩ := Option.map_eq_some_iff.1 h
    exact haliases a (List.mem_of_find?_eq_some ha)

end Spelling

end HeaderAbi
