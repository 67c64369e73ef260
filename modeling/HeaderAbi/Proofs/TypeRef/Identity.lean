import HeaderAbi.Proofs.TypeRef.Declarator
import Mathlib.Data.List.Forall2

/-!
# What the spelling of a signature tells

A function type goes by the spelling of its signature.  The spelling is read from its end: the
parameters stand in the last group in parentheses, the declarator, if there is one, in the group
before, and the rest is the result.  So spellings can be taken apart again, with two exceptions.

* The qualifiers of a decorated function type are not written.
* Those of a bare function type stand in front of the result, which may be qualified itself.

`Canonical.alike` reads a spelling up to these, `Alike.exists_spelling` is the converse, and
`Alike.eq` adds what is missing for the whole use.  For signatures these are `uid_eq_iff_alike` and
`eq_iff_uid_eq`.
-/

namespace HeaderAbi

open Spelling Brackets

attribute [ext] TypeUse

namespace TypeRef

/-! ### Lists side by side -/

section
variable {α β : Type} {as bs : List α}

theorem map_eq_map_iff_zip {f : α → β} : as.map f = bs.map f ↔
    as.length = bs.length ∧ ∀ a b, (a, b) ∈ as.zip bs → f a = f b := by
  rw [← List.forall₂_eq_eq_eq, List.forall₂_map_left_iff, List.forall₂_map_right_iff,
    List.forall₂_iff_zip]

theorem map_eq_of_flatMap_eq {f : α → List β}
    (hlength : as.map (fun a => (f a).length) = bs.map fun b => (f b).length)
    (h : as.flatMap f = bs.flatMap f) : as.map f = bs.map f := by
  induction as generalizing bs with
  | nil => rw [List.map_eq_nil_iff.1 hlength.symm]
  | cons a as ih =>
    obtain ⟨b, bs, rfl, hhead, htail⟩ := List.map_eq_cons_iff.1 hlength.symm
    rw [List.flatMap_cons, List.flatMap_cons] at h
    obtain ⟨hab, hrest⟩ := List.append_inj h hhead.symm
    rw [List.map_cons, List.map_cons, hab, ih htail.symm hrest]

end

/-! ### Canonical uses -/

/-- A use of types with proper names, where function types follow the C convention and go by their
spelling. -/
inductive Canonical : TypeRef → Prop where
  | named {u : TypeUse} (h : IsName u.uid.text.toList) : Canonical (.named u)
  | function {u : TypeUse} {r : TypeRef} {ps : List TypeRef} {v : Bool}
      (hu : u.uid = Signature.uid ⟨r, ps, v, .cdecl⟩) (hr : r.Canonical)
      (hps : ∀ p ∈ ps, p.Canonical) : Canonical (.function u r ps v .cdecl)

/-- The declarator of a function type, in its parentheses. -/
def group (u : TypeUse) : List Char :=
  if u.isBare then [] else '(' :: (u.innerDeclarator.toList ++ [')'])

/-- The qualifiers of a function type that are written in front of it. -/
def openingWords (u : TypeUse) : List String := if u.isBare then u.qualifiers.words else []

/-- The parameters of a function type. -/
def parametersText (ps : List TypeRef) (v : Bool) : List Char :=
  (parameterList (ps.map spelling) v).toList

section
variable {u u' : TypeUse} {r : TypeRef} {ps : List TypeRef} {v : Bool}

theorem isBare_iff : u.isBare = true ↔ u.indirection = [] ∧ u.extents = [] := by
  simp [TypeUse.isBare]

theorem toList_spelling_named (u : TypeUse) : (TypeRef.named u).spelling.toList =
    leading u.qualifiers.words ++ (u.uid.text.toList ++ declarator u.indirection u.extents) := by
  rw [spelling, TypeUse.spelling, String.toList_append, String.toList_append, toList_leading,
    toList_outerDeclarator, List.append_assoc]

theorem toList_spelling_function (hu : u.uid = Signature.uid ⟨r, ps, v, .cdecl⟩) :
    (TypeRef.function u r ps v .cdecl).spelling.toList =
      leading (openingWords u) ++ (r.spelling.toList ++ ' ' :: group u) ++
        '(' :: (parametersText ps v ++ [')']) := by
  have hsuffix : conventionSuffix .cdecl = "" := rfl
  by_cases hbare : u.isBare = true
  · obtain ⟨hnone, hnone'⟩ := isBare_iff.1 hbare
    have houter : u.outerDeclarator.toList = [] := by
      rw [toList_outerDeclarator, hnone, hnone']
      rfl
    rw [spelling, if_pos hbare, TypeUse.spelling, String.toList_append, String.toList_append,
      houter, toList_leading, hu]
    simp [Signature.uid, Signature.spelling, openingWords, group, hbare, parametersText, hsuffix]
  · rw [spelling, if_neg hbare]
    simp [openingWords, group, hbare, parametersText, hsuffix, spellings_eq_map, leading]

theorem group_congr (h : u.indirection = u'.indirection) (h' : u.extents = u'.extents) :
    group u = group u' := by
  simp [group, TypeUse.isBare, TypeUse.innerDeclarator, TypeUse.extentsSpelling, h, h']

/-! ### Spellings are phrases -/

theorem plain_flatMap {α : Type} {f : α → List Char} {as : List α} (h : ∀ a ∈ as, Plain (f a)) :
    Plain (as.flatMap f) := by
  induction as with
  | nil => exact (by decide : Plain [])
  | cons a as ih =>
    rw [List.forall_mem_cons] at h
    rw [List.flatMap_cons, plain_append]
    exact ⟨h.1, ih h.2⟩

theorem plain_level (i : Indirection) : Plain (' ' :: i.spelling.toList) := by
  match i with
  | .pointer ⟨c, v, r⟩ => cases c <;> cases v <;> cases r <;> decide
  | .lvalueReference | .rvalueReference => decide

theorem plain_extent (e : Option UInt64) : Plain (extentSpelling e).toList := by
  have hdigits {c : Char} (hc : c.isDigit = false) : c ∉ extentDigits e := fun h => by
    rw [isDigit_of_mem_extentDigits h] at hc
    cases hc
  rw [toList_extentSpelling]
  have h : Plain (['['] ++ (extentDigits e ++ [']'])) := by
    rw [plain_append, plain_append]
    exact ⟨by decide, ⟨hdigits (by decide), hdigits (by decide), hdigits (by decide)⟩, by decide⟩
  exact h

theorem plain_declarator (is : List Indirection) (es : List (Option UInt64)) :
    Plain (declarator is es) :=
  plain_append.2 ⟨plain_flatMap fun i _ => plain_level i, plain_flatMap fun e _ => plain_extent e⟩

theorem plain_innerDeclarator (u : TypeUse) : Plain u.innerDeclarator.toList := by
  have h := plain_declarator u.indirection u.extents
  rw [declarator_eq_innerDeclarator, plain_append] at h
  exact h.2

theorem plain_leading {ws : List String} (h : ∀ w ∈ ws, w ∈ qualifierWords) :
    Plain (leading ws) := by
  have hword : ∀ w ∈ qualifierWords, Plain (w.toList ++ [' ']) := by decide
  exact plain_flatMap fun w hw => hword w (h w hw)

theorem plain_of_isName {cs : List Char} (h : IsName cs) : Plain cs :=
  ⟨fun hc => h.letters _ hc (by decide), fun hc => h.letters _ hc (by decide),
    fun hc => h.letters _ hc (by decide)⟩

theorem plain_spelling_named (h : IsName u.uid.text.toList) :
    Plain (TypeRef.named u).spelling.toList := by
  rw [toList_spelling_named, plain_append, plain_append]
  exact ⟨plain_leading mem_qualifierWords, plain_of_isName h, plain_declarator _ _⟩

theorem phrase_group (u : TypeUse) : Phrase (group u) := by
  rw [group]
  split
  · exact Plain.phrase (by decide)
  · exact (plain_innerDeclarator u).phrase.toMatched.group

theorem mem_qualifierWords_of_mem_openingWords : ∀ w ∈ openingWords u, w ∈ qualifierWords := by
  rw [openingWords]
  split
  · exact mem_qualifierWords
  · exact List.forall_mem_nil _

/-! ### Parameters -/

/-- What the spelling of a parameter is like: a phrase that is not empty and not an ellipsis. -/
structure IsParameter (s : String) : Prop where
  phrase : Phrase s.toList
  ne_empty : s ≠ ""
  ne_ellipsis : s ≠ "..."

theorem phrase_of_mem_parameters {ss : List String} (h : ∀ s ∈ ss, IsParameter s) (v : Bool) :
    ∀ s ∈ ss ++ (if v then ["..."] else []), Phrase s.toList ∧ s ≠ "" := by
  intro s hs
  rcases List.mem_append.1 hs with hs | hs
  · exact ⟨(h s hs).phrase, (h s hs).ne_empty⟩
  · cases v with
    | false => cases hs
    | true =>
      rw [List.mem_singleton.1 hs]
      exact ⟨Plain.phrase (by decide), by decide⟩

theorem matched_parameterList {ss : List String} (h : ∀ s ∈ ss, IsParameter s) (v : Bool) :
    Matched (parameterList ss v).toList :=
  matched_intercalate fun s hs => (phrase_of_mem_parameters h v s hs).1.toMatched

/-- **A list of parameters tells each of them**, and whether more may follow. -/
theorem parameterList_inj {ss ts : List String} {v w : Bool} (hs : ∀ s ∈ ss, IsParameter s)
    (ht : ∀ t ∈ ts, IsParameter t) (h : parameterList ss v = parameterList ts w) :
    ss = ts ∧ v = w := by
  have hall := intercalate_inj (phrase_of_mem_parameters hs v) (phrase_of_mem_parameters ht w) h
  cases v <;> cases w <;> simp only [Bool.false_eq_true, if_true, if_false, List.append_nil] at hall
  · exact ⟨hall, rfl⟩
  · exact absurd rfl (hs "..." (by rw [hall]; simp)).ne_ellipsis
  · exact absurd rfl (ht "..." (by rw [← hall]; simp)).ne_ellipsis
  · exact ⟨List.append_cancel_right hall, rfl⟩

theorem isParameter_of_mem {s : String} {c : Char} (hs : Phrase s.toList) (hmem : c ∈ s.toList)
    (hc : c ≠ '.') : IsParameter s where
  phrase := hs
  ne_empty h := by simp [h] at hmem
  ne_ellipsis h := by simp [h, hc] at hmem

/-- **Every use is spelled as a parameter is.** -/
theorem Canonical.isParameter {t : TypeRef} (h : t.Canonical) : IsParameter t.spelling := by
  induction h with
  | @named u h =>
    obtain ⟨c, cs, hname⟩ : ∃ c cs, u.uid.text.toList = c :: cs := by
      refine List.exists_cons_of_ne_nil fun hnil => ?_
      exact (h.unqualified "const" (by decide)).2 (hnil ▸ List.nil_prefix)
    have hmem : c ∈ u.uid.text.toList := hname ▸ List.mem_cons_self
    refine isParameter_of_mem (plain_spelling_named h).phrase (c := c) ?_ ?_
    · rw [toList_spelling_named]
      simp [hmem]
    · rintro rfl
      exact h.letters _ hmem (by decide)
  | @function u _ ps v hu _ _ hr hps =>
    have hparameters : ∀ s ∈ ps.map spelling, IsParameter s := by
      simpa only [List.forall_mem_map] using hps
    have hopening : Phrase (leading (openingWords u)) :=
      (plain_leading mem_qualifierWords_of_mem_openingWords).phrase
    have hblank : Phrase [' '] := Plain.phrase (by decide)
    have hphrase := (hopening.append (hr.phrase.append (hblank.append (phrase_group u)))).append
      (matched_parameterList hparameters v).group
    refine isParameter_of_mem (c := ')') ?_ ?_ (by decide)
    · rw [toList_spelling_function hu]
      simpa [parametersText] using hphrase
    · rw [toList_spelling_function hu]
      simp

theorem isParameter_of_mem_map (h : ∀ p ∈ ps, p.Canonical) :
    ∀ s ∈ ps.map spelling, IsParameter s := by
  simpa only [List.forall_mem_map] using fun p hp => (h p hp).isParameter

/-! ### Uses that read alike -/

/-- The qualifiers at the start of a spelling: those of the use, and where a function type is not
decorated, those of its result too. -/
def frontWords : TypeRef → List String
  | .named u => u.qualifiers.words
  | .function u r _ _ _ => openingWords u ++ r.frontWords

/-- Uses that are spelled alike but for the qualifiers at their start.  A decorated function type
may be qualified in either of them. -/
inductive Alike : TypeRef → TypeRef → Prop where
  | named {u u' : TypeUse} (huid : u.uid = u'.uid) (hi : u.indirection = u'.indirection)
      (he : u.extents = u'.extents) : Alike (.named u) (.named u')
  | function {u u' : TypeUse} {r r' : TypeRef} {ps ps' : List TypeRef} {v : Bool}
      {c : CallingConvention} (hi : u.indirection = u'.indirection)
      (he : u.extents = u'.extents) (hr : Alike r r') (hlength : ps.length = ps'.length)
      (hfront : ∀ p p', (p, p') ∈ ps.zip ps' → p.frontWords = p'.frontWords)
      (hps : ∀ p p', (p, p') ∈ ps.zip ps' → Alike p p') :
      Alike (.function u r ps v c) (.function u' r' ps' v c)

theorem getLast?_append_group (cs : List Char) (u : TypeUse) :
    (cs ++ ' ' :: group u).getLast? = some (if u.isBare then ' ' else ')') := by
  rw [group]
  split
  · exact List.getLast?_concat
  · rw [show cs ++ ' ' :: '(' :: (u.innerDeclarator.toList ++ [')']) =
      (cs ++ ' ' :: '(' :: u.innerDeclarator.toList) ++ [')'] by simp]
    exact List.getLast?_concat

/-- The declarator of a function type is found behind the blank after its result. -/
theorem group_inj {cs ds : List Char} (h : cs ++ ' ' :: group u = ds ++ ' ' :: group u') :
    cs = ds ∧ u.indirection = u'.indirection ∧ u.extents = u'.extents := by
  -- a blank at the end tells that there is no declarator
  have hlast := congrArg List.getLast? h
  rw [getLast?_append_group, getLast?_append_group] at hlast
  by_cases hbare : u.isBare = true <;> by_cases hbare' : u'.isBare = true <;>
    simp only [hbare, hbare', if_true, if_false, Option.some.injEq, Bool.false_eq_true] at hlast
  · obtain ⟨hi, he⟩ := isBare_iff.1 hbare
    obtain ⟨hi', he'⟩ := isBare_iff.1 hbare'
    rw [group, group, if_pos hbare, if_pos hbare'] at h
    exact ⟨List.append_cancel_right h, hi.trans hi'.symm, he.trans he'.symm⟩
  · cases hlast
  · cases hlast
  · rw [group, group, if_neg hbare, if_neg hbare', List.append_cons, List.append_cons ds] at h
    obtain ⟨hcs, hinner⟩ := (plain_innerDeclarator u).phrase.toMatched.group_inj
      (plain_innerDeclarator u').phrase.toMatched h
    exact ⟨List.append_cancel_right hcs, innerDeclarator_inj (String.toList_inj.1 hinner)⟩

/-- A function type with qualifiers in front of it: the result with more qualifiers in front, the
declarator and the parameters. -/
theorem leading_append_spelling_function (ws : List String)
    (hu : u.uid = Signature.uid ⟨r, ps, v, .cdecl⟩) :
    leading ws ++ (TypeRef.function u r ps v .cdecl).spelling.toList =
      ((leading (ws ++ openingWords u) ++ r.spelling.toList) ++ ' ' :: group u) ++
        '(' :: (parametersText ps v ++ [')']) := by
  simp only [toList_spelling_function hu, leading_append, List.append_assoc]

theorem leading_append_spelling_named (ws : List String) (u : TypeUse) :
    leading ws ++ (TypeRef.named u).spelling.toList =
      leading (ws ++ u.qualifiers.words) ++
        (u.uid.text.toList ++ declarator u.indirection u.extents) := by
  rw [toList_spelling_named, leading_append, List.append_assoc]

/-- **What a spelling tells.**  By induction on the first use, with the qualifiers that were
written in front of it: those of a bare function type come before those of its result. -/
theorem Canonical.alike {t t' : TypeRef} (h : t.Canonical) (h' : t'.Canonical)
    {ws ws' : List String} (hws : ∀ w ∈ ws, w ∈ qualifierWords)
    (hws' : ∀ w ∈ ws', w ∈ qualifierWords)
    (heq : leading ws ++ t.spelling.toList = leading ws' ++ t'.spelling.toList) :
    ws ++ t.frontWords = ws' ++ t'.frontWords ∧ t.Alike t' := by
  -- the parameters of a function type stand in parentheses, and nothing in a named use does
  have hnamed {w u : TypeUse} {r : TypeRef} {ps : List TypeRef} {v : Bool} {vs vs' : List String}
      (hw : IsName w.uid.text.toList) (hvs : ∀ v ∈ vs, v ∈ qualifierWords)
      (hu : u.uid = Signature.uid ⟨r, ps, v, .cdecl⟩) :
      leading vs ++ (TypeRef.named w).spelling.toList ≠
        leading vs' ++ (TypeRef.function u r ps v .cdecl).spelling.toList := by
    intro heq
    have hplain := plain_append.2 ⟨plain_leading hvs, plain_spelling_named hw⟩
    rw [heq, leading_append_spelling_function vs' hu] at hplain
    exact hplain.2.1 (by simp)
  induction h generalizing t' ws ws' with
  | @named u hu =>
    cases h' with
    | @named u' hu' =>
      rw [leading_append_spelling_named, leading_append_spelling_named] at heq
      obtain ⟨hfront, hrest⟩ := leading_inj (List.forall_mem_append.2 ⟨hws, mem_qualifierWords⟩)
        (List.forall_mem_append.2 ⟨hws', mem_qualifierWords⟩) (hu.unqualified_append _)
        (hu'.unqualified_append _) heq
      obtain ⟨hname, hdeclarator⟩ := hu.append_inj hu' (stops_declarator _ _)
        (stops_declarator _ _) hrest
      obtain ⟨hi, he⟩ := declarator_inj hdeclarator
      exact ⟨hfront, .named (congrArg Uid.mk (String.toList_inj.1 hname)) hi he⟩
    | function hu' => exact absurd heq (hnamed hu hws hu')
  | @function u r ps v hu hr hps ihr ihps =>
    cases h' with
    | named hu' => exact absurd heq.symm (hnamed hu' hws' hu)
    | @function u' r' ps' v' hu' hr' hps' =>
      rw [leading_append_spelling_function ws hu, leading_append_spelling_function ws' hu'] at heq
      have hspelled := isParameter_of_mem_map hps
      have hspelled' := isParameter_of_mem_map hps'
      obtain ⟨hhead, hlist⟩ := (matched_parameterList hspelled v).group_inj
        (matched_parameterList hspelled' v') heq
      obtain ⟨hresult, hi, he⟩ := group_inj hhead
      obtain ⟨hfront, hr⟩ := ihr hr'
        (List.forall_mem_append.2 ⟨hws, mem_qualifierWords_of_mem_openingWords⟩)
        (List.forall_mem_append.2 ⟨hws', mem_qualifierWords_of_mem_openingWords⟩) hresult
      obtain ⟨hmap, rfl⟩ := parameterList_inj hspelled hspelled' (String.toList_inj.1 hlist)
      have hpair : ∀ p p', (p, p') ∈ ps.zip ps' → p.frontWords = p'.frontWords ∧ p.Alike p' := by
        intro p p' hp
        have hspelling := (map_eq_map_iff_zip.1 hmap).2 p p' hp
        have hmem := List.of_mem_zip hp
        exact ihps p hmem.1 (hps' p' hmem.2) (List.forall_mem_nil _) (List.forall_mem_nil _)
          (congrArg (fun s => leading [] ++ s.toList) hspelling)
      refine ⟨by simpa only [frontWords, List.append_assoc] using hfront, ?_⟩
      exact .function hi he hr (map_eq_map_iff_zip.1 hmap).1 (fun p p' hp => (hpair p p' hp).1)
        fun p p' hp => (hpair p p' hp).2

/-- **Uses that are alike are spelled alike** behind the qualifiers at their start. -/
theorem Alike.exists_spelling {t t' : TypeRef} (h : t.Alike t') (ht : t.Canonical)
    (ht' : t'.Canonical) : ∃ cs, t.spelling.toList = leading t.frontWords ++ cs ∧
      t'.spelling.toList = leading t'.frontWords ++ cs := by
  induction h with
  | @named u u' huid hi he =>
    refine ⟨u.uid.text.toList ++ declarator u.indirection u.extents, ?_, ?_⟩
    · rw [toList_spelling_named, frontWords]
    · rw [toList_spelling_named, frontWords, huid, hi, he]
  | @function u u' r r' ps ps' v c hi he _ hlength hfront _ ihr ihps =>
    cases ht with
    | function hu hr hps =>
    cases ht' with
    | function hu' hr' hps' =>
    obtain ⟨cs, hcs, hcs'⟩ := ihr hr hr'
    have hmap : ps.map spelling = ps'.map spelling := by
      refine map_eq_map_iff_zip.2 ⟨hlength, fun p p' hp => ?_⟩
      have hmem := List.of_mem_zip hp
      obtain ⟨ds, hds, hds'⟩ := ihps p p' hp (hps p hmem.1) (hps' p' hmem.2)
      rw [← String.toList_inj, hds, hds', hfront p p' hp]
    refine ⟨cs ++ ' ' :: group u ++ '(' :: (parametersText ps v ++ [')']), ?_, ?_⟩
    · rw [toList_spelling_function hu, frontWords, leading_append, hcs]
      simp only [List.append_assoc]
    · rw [toList_spelling_function hu', frontWords, leading_append, hcs', ← group_congr hi he]
      simp only [parametersText, hmap, List.append_assoc]

/-! ### Qualified function types -/

/-- The qualifiers of the function types that are met on a walk through a use. -/
def functionQualifiers (t : TypeRef) : List Qualifiers :=
  t.walk.filterMap fun
    | .named _ => none
    | .function u .. => some u.qualifiers

theorem functionQualifiers_function {u : TypeUse} {r : TypeRef} {ps : List TypeRef} {v : Bool}
    {c : CallingConvention} : (TypeRef.function u r ps v c).functionQualifiers =
      u.qualifiers :: (r.functionQualifiers ++ ps.flatMap functionQualifiers) := by
  have hlist : ∀ ts : List TypeRef, (walkList ts).filterMap (fun
      | .named _ => none
      | .function u .. => some u.qualifiers) = ts.flatMap functionQualifiers := by
    intro ts
    induction ts with
    | nil => rfl
    | cons t ts ih => rw [walkList, List.filterMap_append, ih, List.flatMap_cons]; rfl
  rw [functionQualifiers, walk, List.filterMap_cons, List.filterMap_append, hlist]
  rfl

theorem Alike.length_functionQualifiers {t t' : TypeRef} (h : t.Alike t') :
    t.functionQualifiers.length = t'.functionQualifiers.length := by
  induction h with
  | named => rfl
  | @function u u' r r' ps ps' v c _ _ _ hlength _ _ ihr ihps =>
    have hmap : ps.map (fun p => p.functionQualifiers.length) =
        ps'.map fun p => p.functionQualifiers.length := map_eq_map_iff_zip.2 ⟨hlength, ihps⟩
    rw [functionQualifiers_function, functionQualifiers_function]
    simp only [List.length_cons, List.length_append, List.length_flatMap, ihr, hmap]

/-- **Uses that are alike are equal** when the qualifiers at their start and those of their function
types are. -/
theorem Alike.eq {t t' : TypeRef} (h : t.Alike t') (ht : t.Canonical) (ht' : t'.Canonical)
    (hfront : t.frontWords = t'.frontWords)
    (hq : t.functionQualifiers = t'.functionQualifiers) : t = t' := by
  induction h with
  | @named u u' huid hi he =>
    rw [TypeUse.ext huid (words_inj hfront) hi he]
  | @function u u' r r' ps ps' v c hi he halike hlength hfronts hps ihr ihps =>
    cases ht with
    | function hu hr hcs =>
    cases ht' with
    | function hu' hr' hcs' =>
    rw [functionQualifiers_function, functionQualifiers_function] at hq
    obtain ⟨hqu, hrest⟩ := List.cons.inj hq
    obtain ⟨hqr, hqps⟩ := List.append_inj hrest halike.length_functionQualifiers
    obtain rfl : r = r' := by
      have hopening : openingWords u = openingWords u' := by
        simp [openingWords, TypeUse.isBare, hi, he, hqu]
      rw [frontWords, frontWords, hopening] at hfront
      exact ihr hr hr' (List.append_cancel_left hfront) hqr
    obtain rfl : ps = ps' := by
      have hlengths := map_eq_map_iff_zip.2
        ⟨hlength, fun p p' hp => (hps p p' hp).length_functionQualifiers⟩
      have hqualifiers := (map_eq_map_iff_zip.1 (map_eq_of_flatMap_eq hlengths hqps)).2
      have hid : ps.map id = ps'.map id := by
        refine map_eq_map_iff_zip.2 ⟨hlength, fun p p' hp => ?_⟩
        have hmem := List.of_mem_zip hp
        exact ihps p p' hp (hcs p hmem.1) (hcs' p' hmem.2) (hfronts p p' hp) (hqualifiers p p' hp)
      rwa [List.map_id, List.map_id] at hid
    rw [TypeUse.ext (hu.trans hu'.symm) hqu hi he]

end

end TypeRef

/-! ### Signatures -/

namespace Signature

open TypeRef

variable {s t : Signature}

/-- Signatures that are spelled alike: their results with the qualifiers in front of them, and
their parameters. -/
def Alike (s t : Signature) : Prop :=
  s.result.frontWords = t.result.frontWords ∧ (ofSignature s).Alike (ofSignature t)

/-- The qualifiers of the function types that are met in a signature. -/
def functionQualifiers (s : Signature) : List Qualifiers :=
  s.types.flatMap TypeRef.functionQualifiers

theorem spelling_ofSignature (s : Signature) : (ofSignature s).spelling = s.uid.text := by
  simp [ofSignature, TypeRef.spelling, TypeUse.isBare, TypeUse.spelling, TypeUse.outerDeclarator,
    TypeUse.extentsSpelling, Qualifiers.words]

theorem frontWords_ofSignature (s : Signature) :
    (ofSignature s).frontWords = s.result.frontWords := by
  simp [ofSignature, frontWords, openingWords, Qualifiers.words]

theorem functionQualifiers_ofSignature (s : Signature) :
    (ofSignature s).functionQualifiers = {} :: s.functionQualifiers :=
  functionQualifiers_function

/-- **Signatures have one identifier exactly when they are spelled alike.** -/
theorem uid_eq_iff_alike (hs : (ofSignature s).Canonical) (ht : (ofSignature t).Canonical) :
    s.uid = t.uid ↔ s.Alike t := by
  constructor
  · intro huid
    have hspelling : (ofSignature s).spelling = (ofSignature t).spelling := by
      rw [spelling_ofSignature, spelling_ofSignature, huid]
    obtain ⟨hfront, halike⟩ := hs.alike ht (List.forall_mem_nil _) (List.forall_mem_nil _)
      (congrArg (fun s => leading [] ++ s.toList) hspelling)
    rw [frontWords_ofSignature, frontWords_ofSignature] at hfront
    exact ⟨hfront, halike⟩
  · rintro ⟨hfront, halike⟩
    obtain ⟨cs, hcs, hcs'⟩ := halike.exists_spelling hs ht
    rw [spelling_ofSignature, frontWords_ofSignature] at hcs hcs'
    rw [hfront, ← hcs', String.toList_inj] at hcs
    exact congrArg Uid.mk hcs

/-- **The identifier and the qualifiers of function types tell a signature.** -/
theorem eq_iff_uid_eq (hs : (ofSignature s).Canonical) (ht : (ofSignature t).Canonical) :
    s = t ↔ s.uid = t.uid ∧ s.functionQualifiers = t.functionQualifiers := by
  refine ⟨fun h => h ▸ ⟨rfl, rfl⟩, fun ⟨huid, hq⟩ => ?_⟩
  obtain ⟨hfront, halike⟩ := (uid_eq_iff_alike hs ht).1 huid
  have heq : ofSignature s = ofSignature t := by
    refine halike.eq hs ht ?_ ?_
    · rw [frontWords_ofSignature, frontWords_ofSignature, hfront]
    · rw [functionQualifiers_ofSignature, functionQualifiers_ofSignature, hq]
  cases s
  cases t
  simp only [ofSignature, TypeRef.function.injEq] at heq
  obtain ⟨-, rfl, rfl, rfl, rfl⟩ := heq
  rfl

/-- **Where no function type is qualified the identifier alone tells the signature.** -/
theorem uid_eq_iff_of_unqualified (hs : (ofSignature s).Canonical)
    (ht : (ofSignature t).Canonical) (hsq : ∀ q ∈ s.functionQualifiers, q = {})
    (htq : ∀ q ∈ t.functionQualifiers, q = {}) : s.uid = t.uid ↔ s = t := by
  rw [eq_iff_uid_eq hs ht]
  refine ⟨fun huid => ⟨huid, ?_⟩, And.left⟩
  have hlength := ((uid_eq_iff_alike hs ht).1 huid).2.length_functionQualifiers
  rw [functionQualifiers_ofSignature, functionQualifiers_ofSignature, List.length_cons,
    List.length_cons, Nat.add_right_cancel_iff] at hlength
  rw [List.eq_replicate_of_mem hsq, List.eq_replicate_of_mem htq, hlength]

end Signature

end HeaderAbi
