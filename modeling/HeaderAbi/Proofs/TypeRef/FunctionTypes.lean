import HeaderAbi.Proofs.Snapshot.Validity
import HeaderAbi.Proofs.TypeRef.Identity

/-!
# What function types go by

A use of a function type carries its signature and an identifier beside it, and so does every
function type nested in the signature.  The identifier is meant to be the spelling of the signature
(`SpelledOut`), but a use that is read from a file carries what the file says.

* `SameType.eq_iff`: uses of one type are equal exactly when their function types go by the same
  identifiers.
* `SameType.eq_of_spelledOut`: they are, where function types go by their spelling.
-/

namespace HeaderAbi

namespace TypeRef

theorem walkList_eq_flatMap (ts : List TypeRef) : walkList ts = ts.flatMap walk := by
  induction ts with
  | nil => rfl
  | cons t ts ih => rw [walkList, ih, List.flatMap_cons]

/-- Lists of one length are equal when their items are, side by side. -/
theorem eq_of_zip {ps ps' : List TypeRef} (hlength : ps.length = ps'.length)
    (h : ∀ p p', (p, p') ∈ ps.zip ps' → p = p') : ps = ps' := by
  have hmap : ps.map id = ps'.map id := map_eq_map_iff_zip.2 ⟨hlength, h⟩
  rwa [List.map_id, List.map_id] at hmap

/-! ### Function types that go by their spelling -/

/-- Every function type in the use, at any depth, goes by the spelling of its signature. -/
def SpelledOut (t : TypeRef) : Prop :=
  ∀ u, Within u t → ∀ s, u.signature? = some s → u.uid = s.uid

theorem spelledOut_named (u : TypeUse) : (named u).SpelledOut := by
  rintro _ ⟨⟩ s hs
  cases hs

theorem spelledOut_function_iff {u : TypeUse} {r : TypeRef} {ps : List TypeRef} {v : Bool}
    {c : CallingConvention} : (function u r ps v c).SpelledOut ↔
      u.uid = (Signature.mk r ps v c).uid ∧ r.SpelledOut ∧ ∀ p ∈ ps, p.SpelledOut := by
  constructor
  · intro h
    exact ⟨h _ .self _ rfl, fun t ht => h t (.result ht), fun p hp t ht => h t (.parameter hp ht)⟩
  · rintro ⟨hu, hr, hps⟩ t (_ | ht | ⟨hp, ht⟩) s hs
    · cases hs
      exact hu
    · exact hr t ht s hs
    · exact hps _ hp t ht s hs

/-! ### Uses of one type -/

/-- Uses of one type with the same decorations, whatever the function types in them go by. -/
inductive SameType : TypeRef → TypeRef → Prop where
  | named (u : TypeUse) : SameType (.named u) (.named u)
  | function {u u' : TypeUse} {r r' : TypeRef} {ps ps' : List TypeRef} {v : Bool}
      {c : CallingConvention} (hq : u.qualifiers = u'.qualifiers)
      (hi : u.indirection = u'.indirection) (he : u.extents = u'.extents) (hr : SameType r r')
      (hlength : ps.length = ps'.length) (hps : ∀ p p', (p, p') ∈ ps.zip ps' → SameType p p') :
      SameType (.function u r ps v c) (.function u' r' ps' v c)

/-- What the function types go by that are met on a walk through a use. -/
def functionUids (t : TypeRef) : List Uid :=
  t.walk.filterMap fun
    | .named _ => none
    | .function u .. => some u.uid

theorem functionUids_function {u : TypeUse} {r : TypeRef} {ps : List TypeRef} {v : Bool}
    {c : CallingConvention} : (TypeRef.function u r ps v c).functionUids =
      u.uid :: (r.functionUids ++ ps.flatMap functionUids) := by
  rw [functionUids, walk, List.filterMap_cons, List.filterMap_append, walkList_eq_flatMap,
    List.filterMap_flatMap]
  rfl

namespace SameType

variable {t t' : TypeRef}

theorem length_functionUids (h : t.SameType t') :
    t.functionUids.length = t'.functionUids.length := by
  induction h with
  | named => rfl
  | @function u u' r r' ps ps' v c _ _ _ _ hlength _ ihr ihps =>
    have hmap : ps.map (fun p => p.functionUids.length) =
        ps'.map fun p => p.functionUids.length := map_eq_map_iff_zip.2 ⟨hlength, ihps⟩
    rw [functionUids_function, functionUids_function]
    simp only [List.length_cons, List.length_append, List.length_flatMap, ihr, hmap]

/-- **Uses of one type are equal exactly when their function types go by the same
identifiers.** -/
theorem eq_iff (h : t.SameType t') : t = t' ↔ t.functionUids = t'.functionUids := by
  refine ⟨congrArg functionUids, fun huids => ?_⟩
  induction h with
  | named => rfl
  | @function u u' r r' ps ps' v c hq hi he hr hlength hps ihr ihps =>
    rw [functionUids_function, functionUids_function] at huids
    obtain ⟨huid, hrest⟩ := List.cons.inj huids
    obtain ⟨hresult, hparameters⟩ := List.append_inj hrest hr.length_functionUids
    have hlengths : ps.map (fun p => p.functionUids.length) =
        ps'.map fun p => p.functionUids.length :=
      map_eq_map_iff_zip.2 ⟨hlength, fun p p' hp => (hps p p' hp).length_functionUids⟩
    have hnested := (map_eq_map_iff_zip.1 (map_eq_of_flatMap_eq hlengths hparameters)).2
    obtain rfl : r = r' := ihr hresult
    obtain rfl : ps = ps' := eq_of_zip hlength fun p p' hp => ihps p p' hp (hnested p p' hp)
    rw [TypeUse.ext huid hq hi he]

/-- **Uses of one type are equal** where function types go by their spelling. -/
theorem eq_of_spelledOut (h : t.SameType t') (ht : t.SpelledOut) (ht' : t'.SpelledOut) :
    t = t' := by
  induction h with
  | named => rfl
  | @function u u' r r' ps ps' v c hq hi he _ hlength _ ihr ihps =>
    rw [spelledOut_function_iff] at ht ht'
    obtain ⟨huid, hr, hps⟩ := ht
    obtain ⟨huid', hr', hps'⟩ := ht'
    obtain rfl : r = r' := ihr hr hr'
    obtain rfl : ps = ps' := eq_of_zip hlength fun p p' hp =>
      ihps p p' hp (hps p (List.of_mem_zip hp).1) (hps' p' (List.of_mem_zip hp).2)
    rw [TypeUse.ext (huid.trans huid'.symm) hq hi he]

end SameType

end TypeRef

end HeaderAbi
