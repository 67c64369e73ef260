import Mathlib.Data.List.Infix

/-!
# Texts with parentheses

A text is `Matched` when its parentheses match, and a `Phrase` when moreover its commas stand within
them.

* **The last group of a text is found** from its end: `group_inj`.
* **Phrases with commas between them are told apart** (`intercalate_inj`), because no comma within a
  phrase can be taken for one between two.
-/

namespace HeaderAbi

namespace Brackets

/-- Every parenthesis is closed that was opened, and the other way round. -/
structure Matched (cs : List Char) : Prop where
  balanced : cs.count '(' = cs.count ')'
  suffix : ∀ ds, ds <:+ cs → ds.count '(' ≤ ds.count ')'

/-- A matched text with no comma outside parentheses. -/
structure Phrase (cs : List Char) : Prop extends Matched cs where
  comma : ∀ ds, ',' :: ds <:+ cs → ds.count '(' < ds.count ')'

/-- A text without parentheses and commas. -/
def Plain (cs : List Char) : Prop := '(' ∉ cs ∧ ')' ∉ cs ∧ ',' ∉ cs

instance (cs : List Char) : Decidable (Plain cs) := inferInstanceAs (Decidable (_ ∧ _))

variable {cs ds : List Char}

/-! ### How texts are put together -/

/-- A suffix of two texts one after the other lies in the second one or begins in the first. -/
theorem suffix_append_cases {es : List Char} (h : es <:+ cs ++ ds) :
    es <:+ ds ∨ ∃ fs, fs <:+ cs ∧ es = fs ++ ds := by
  obtain h' | ⟨fs, rfl⟩ := List.suffix_or_suffix_of_suffix h (List.suffix_append cs ds)
  · exact .inl h'
  · obtain ⟨t, ht⟩ := h
    rw [← List.append_assoc] at ht
    exact .inr ⟨fs, ⟨t, List.append_cancel_right ht⟩, rfl⟩

theorem plain_append : Plain (cs ++ ds) ↔ Plain cs ∧ Plain ds := by
  simp only [Plain, List.mem_append, not_or]
  tauto

theorem matched_of_not_mem (hopen : '(' ∉ cs) (hclose : ')' ∉ cs) : Matched cs where
  balanced := by rw [List.count_eq_zero_of_not_mem hopen, List.count_eq_zero_of_not_mem hclose]
  suffix ds hds := by
    rw [List.count_eq_zero_of_not_mem fun h => hopen (hds.mem h)]
    exact Nat.zero_le _

theorem Plain.phrase (h : Plain cs) : Phrase cs where
  toMatched := matched_of_not_mem h.1 h.2.1
  comma _ hds := absurd (hds.mem List.mem_cons_self) h.2.2

theorem Matched.append (h : Matched cs) (h' : Matched ds) : Matched (cs ++ ds) where
  balanced := by rw [List.count_append, List.count_append, h.balanced, h'.balanced]
  suffix es hes := by
    obtain hes | ⟨fs, hfs, rfl⟩ := suffix_append_cases hes
    · exact h'.suffix es hes
    · have hle := h.suffix fs hfs
      rw [List.count_append, List.count_append, h'.balanced]
      omega

theorem Phrase.append (h : Phrase cs) (h' : Phrase ds) : Phrase (cs ++ ds) where
  toMatched := h.toMatched.append h'.toMatched
  comma es hes := by
    obtain hes | ⟨fs, hfs, hes⟩ := suffix_append_cases hes
    · exact h'.comma es hes
    rcases fs with - | ⟨c, fs⟩
    · rw [List.nil_append] at hes
      exact h'.comma es (hes ▸ List.suffix_refl _)
    · obtain ⟨rfl, rfl : es = fs ++ ds⟩ := List.cons.inj hes
      have hlt := h.comma fs hfs
      rw [List.count_append, List.count_append, h'.balanced]
      omega

/-- **A group in parentheses is a phrase**, whatever its commas. -/
theorem Matched.group (h : Matched cs) : Phrase ('(' :: (cs ++ [')'])) := by
  have hinner {es : List Char} (hes : es <:+ cs) :
      (es ++ [')']).count '(' < (es ++ [')']).count ')' := by
    have hle := h.suffix es hes
    simp
    omega
  have hbalanced : ('(' :: (cs ++ [')'])).count '(' = ('(' :: (cs ++ [')'])).count ')' := by
    simp [h.balanced]
  refine ⟨⟨hbalanced, fun es hes => ?_⟩, fun es hes => ?_⟩
  · obtain rfl | hes := List.suffix_cons_iff.1 hes
    · exact hbalanced.le
    obtain hes | ⟨fs, hfs, rfl⟩ := suffix_append_cases hes
    · obtain rfl | hes := List.suffix_cons_iff.1 hes
      · decide
      · rw [List.suffix_nil.1 hes]
        decide
    · exact (hinner hfs).le
  · obtain hes | hes := List.suffix_cons_iff.1 hes
    · cases hes
    obtain hes | ⟨fs, hfs, hes⟩ := suffix_append_cases hes
    · simp [List.suffix_cons_iff] at hes
    rcases fs with - | ⟨c, fs⟩
    · cases hes
    · obtain ⟨rfl, rfl : es = fs ++ [')']⟩ := List.cons.inj hes
      exact hinner ((List.suffix_cons ',' fs).trans hfs)

/-! ### Taking texts apart -/

/-- **The last group of a text** is found from its end. -/
theorem Matched.group_inj {xs ys : List Char} (h : Matched cs) (h' : Matched ds)
    (heq : xs ++ '(' :: (cs ++ [')']) = ys ++ '(' :: (ds ++ [')'])) : xs = ys ∧ cs = ds := by
  have hopen : xs ++ '(' :: cs = ys ++ '(' :: ds := by
    apply List.append_cancel_right
    rwa [List.append_assoc, List.append_assoc]
  -- a longer group would open the shorter one without closing it
  have hnot {es fs : List Char} (hes : Matched es) (hfs : Matched fs) : ¬ '(' :: es <:+ fs := by
    intro hsuffix
    have hle := hfs.suffix _ hsuffix
    rw [List.count_cons_self, List.count_cons_of_ne (by decide), hes.balanced] at hle
    omega
  have hlast : '(' :: cs = '(' :: ds := by
    have hcs : '(' :: cs <:+ ys ++ '(' :: ds := hopen ▸ List.suffix_append xs _
    obtain hcs | hds := List.suffix_or_suffix_of_suffix hcs (List.suffix_append ys _)
    · exact (List.suffix_cons_iff.1 hcs).resolve_right (hnot h h')
    · exact ((List.suffix_cons_iff.1 hds).resolve_right (hnot h' h)).symm
  rw [hlast] at hopen
  exact ⟨List.append_cancel_right hopen, (List.cons.inj hlast).2⟩

/-- What follows a comma within a phrase closes more than it opens, and what follows a phrase does
not. -/
theorem Phrase.append_comma_ne {xs : List Char} (h : Phrase cs) (h' : Phrase ds) :
    cs ++ ',' :: xs ≠ ds := by
  rintro rfl
  have hlt := h'.comma xs (List.suffix_append cs _)
  have hbalanced := h'.balanced
  rw [List.count_append, List.count_append, List.count_cons_of_ne (by decide),
    List.count_cons_of_ne (by decide), h.balanced] at hbalanced
  omega

theorem Phrase.comma_inj {xs ys : List Char} (h : Phrase cs) (h' : Phrase ds)
    (heq : cs ++ ',' :: xs = ds ++ ',' :: ys) : cs = ds ∧ xs = ys := by
  have hcs : cs = ds := by
    obtain ⟨es, hds, hxs⟩ | ⟨es, hcs, hys⟩ := List.append_eq_append_iff.1 heq
    · rcases es with - | ⟨c, es⟩
      · rw [hds, List.append_nil]
      · obtain ⟨rfl, -⟩ := List.cons.inj hxs
        exact absurd hds.symm (h.append_comma_ne h')
    · rcases es with - | ⟨c, es⟩
      · rw [hcs, List.append_nil]
      · obtain ⟨rfl, -⟩ := List.cons.inj hys
        exact absurd hcs.symm (h'.append_comma_ne h)
  rw [hcs] at heq
  exact ⟨hcs, (List.cons.inj (List.append_cancel_left heq)).2⟩

theorem toList_intercalate_cons_cons (s t : String) (ss : List String) :
    (", ".intercalate (s :: t :: ss)).toList =
      s.toList ++ ',' :: ' ' :: (", ".intercalate (t :: ss)).toList := by
  simp

theorem intercalate_cons_ne_empty {s : String} (h : s ≠ "") (ss : List String) :
    ", ".intercalate (s :: ss) ≠ "" := by
  cases ss with
  | nil => rwa [String.intercalate_singleton]
  | cons t ss =>
    intro heq
    have hlist := toList_intercalate_cons_cons s t ss
    simp [heq] at hlist

theorem matched_intercalate {ss : List String} (h : ∀ s ∈ ss, Matched s.toList) :
    Matched (", ".intercalate ss).toList := by
  induction ss with
  | nil => exact (Plain.phrase (by decide)).toMatched
  | cons s ss ih =>
    rw [List.forall_mem_cons] at h
    rcases ss with - | ⟨t, ss⟩
    · rw [String.intercalate_singleton]
      exact h.1
    · have hcomma : Matched [',', ' '] := matched_of_not_mem (by decide) (by decide)
      rw [toList_intercalate_cons_cons]
      exact h.1.append (hcomma.append (ih h.2))

/-- **Phrases with commas between them are told apart.** -/
theorem intercalate_inj : ∀ {ss ts : List String}, (∀ s ∈ ss, Phrase s.toList ∧ s ≠ "") →
    (∀ t ∈ ts, Phrase t.toList ∧ t ≠ "") → ", ".intercalate ss = ", ".intercalate ts → ss = ts
  | [], [], _, _, _ => rfl
  | [], t :: ts, _, ht, h =>
    absurd h.symm (intercalate_cons_ne_empty (ht t List.mem_cons_self).2 ts)
  | s :: ss, [], hs, _, h =>
    absurd h (intercalate_cons_ne_empty (hs s List.mem_cons_self).2 ss)
  | [s], [t], _, _, h => by
    rw [String.intercalate_singleton, String.intercalate_singleton] at h
    rw [h]
  | [s], t :: t' :: ts, hs, ht, h => by
    have hlist := congrArg String.toList h
    rw [String.intercalate_singleton, toList_intercalate_cons_cons] at hlist
    exact absurd hlist.symm
      ((ht t List.mem_cons_self).1.append_comma_ne (hs s List.mem_cons_self).1)
  | s :: s' :: ss, [t], hs, ht, h => by
    have hlist := congrArg String.toList h
    rw [String.intercalate_singleton, toList_intercalate_cons_cons] at hlist
    exact absurd hlist ((hs s List.mem_cons_self).1.append_comma_ne (ht t List.mem_cons_self).1)
  | s :: s' :: ss, t :: t' :: ts, hs, ht, h => by
    rw [List.forall_mem_cons] at hs ht
    have hlist := congrArg String.toList h
    rw [toList_intercalate_cons_cons, toList_intercalate_cons_cons] at hlist
    obtain ⟨hhead, htail⟩ := hs.1.1.comma_inj ht.1.1 hlist
    rw [String.toList_inj] at hhead
    rw [hhead, intercalate_inj hs.2 ht.2 (String.toList_inj.1 (List.cons.inj htail).2)]

end Brackets

end HeaderAbi
