import HeaderAbi.Diff.FieldPairing
import HeaderAbi.Proofs.Snapshot.Table
import Mathlib.Data.List.Perm.Basic

/-!
# Field pairing loses nothing

Pairing runs over groups of fields of one name and takes partners out of a list as it finds them.
Whatever it does, no field gets lost and none is used twice: the old sides of the pairs together
with the fields without partner are the old fields (`ofFields_perm_old`), and likewise for the new
ones (`ofFields_perm_new`).  The same holds for the pairing of renamed fields.

`mem_renamings` adds that a field and its renamed version agree in offset, width and type, and
`ofFields_eq_insertionSort` gives a form of the pairing that evaluates.
-/

namespace HeaderAbi.FieldPairing

variable {α β : Type}

/-! ### Taking partners out of a list -/

theorem takeFirst_eq_some {test : α → Bool} {as bs : List α} {b : α}
    (h : takeFirst test as = some (b, bs)) : test b = true ∧ (b :: bs).Perm as := by
  induction as generalizing bs with
  | nil => simp [takeFirst] at h
  | cons a as ih =>
    rw [takeFirst] at h
    split at h
    · next ha =>
      obtain ⟨rfl, rfl⟩ : a = b ∧ as = bs := by simpa using h
      exact ⟨ha, .refl _⟩
    · obtain ⟨⟨b', bs'⟩, hb, heq⟩ := Option.map_eq_some_iff.1 h
      obtain ⟨rfl, rfl⟩ : b' = b ∧ a :: bs' = bs := by simpa using heq
      obtain ⟨ht, hp⟩ := ih hb
      exact ⟨ht, (List.Perm.swap a b' bs').trans (hp.cons a)⟩

theorem pairFirst_suits {suits : α → β → Bool} (as : List α) (bs : List β) :
    ∀ p ∈ (pairFirst suits as bs).1, suits p.1 p.2 = true := by
  induction as generalizing bs with
  | nil => simp [pairFirst]
  | cons a as ih =>
    rw [pairFirst]
    split
    · next b bs' hb =>
      intro p hp
      rcases List.mem_cons.1 hp with rfl | hp
      · exact (takeFirst_eq_some hb).1
      · exact ih bs' p hp
    · exact ih bs

/-- Every item is in one pair or without partner. -/
theorem pairFirst_perm_left (suits : α → β → Bool) (as : List α) (bs : List β) :
    ((pairFirst suits as bs).1.map Prod.fst ++ (pairFirst suits as bs).2.1).Perm as := by
  induction as generalizing bs with
  | nil => simp [pairFirst]
  | cons a as ih =>
    rw [pairFirst]
    split
    · next b bs' _ => exact (ih bs').cons a
    · exact List.perm_middle.trans ((ih bs).cons a)

/-- Every partner is in one pair or left over. -/
theorem pairFirst_perm_right (suits : α → β → Bool) (as : List α) (bs : List β) :
    ((pairFirst suits as bs).1.map Prod.snd ++ (pairFirst suits as bs).2.2).Perm bs := by
  induction as generalizing bs with
  | nil => simp [pairFirst]
  | cons a as ih =>
    rw [pairFirst]
    split
    · next b bs' hb => exact ((ih bs').cons b).trans (takeFirst_eq_some hb).2
    · exact ih bs

/-! ### Groups -/

theorem map_fst_zip_append_drop (as : List α) (bs : List β) :
    (as.zip bs).map Prod.fst ++ as.drop bs.length = as := by
  induction as generalizing bs with
  | nil => simp
  | cons a as ih => cases bs <;> simp [ih]

theorem map_snd_zip_append_drop (as : List α) (bs : List β) :
    (as.zip bs).map Prod.snd ++ bs.drop as.length = bs := by
  induction as generalizing bs with
  | nil => simp
  | cons a as ih => cases bs <;> simp [ih]

theorem ofGroup_perm_old (old new : List Placed) :
    ((ofGroup old new).matched.map Prod.fst ++ (ofGroup old new).removed).Perm old := by
  simp only [ofGroup, List.map_append, List.append_assoc, map_fst_zip_append_drop]
  exact pairFirst_perm_left _ old new

theorem ofGroup_perm_new (old new : List Placed) :
    ((ofGroup old new).matched.map Prod.snd ++ (ofGroup old new).added).Perm new := by
  simp only [ofGroup, List.map_append, List.append_assoc, map_snd_zip_append_drop]
  exact pairFirst_perm_right _ old new

/-- The groups of a list under the values of a key make up the list. -/
theorem flatMap_filter_perm [DecidableEq β] (key : α → β) {keys : List β} (hk : keys.Nodup)
    (l : List α) (hl : ∀ a ∈ l, key a ∈ keys) :
    (keys.flatMap fun k => l.filter fun a => key a == k).Perm l := by
  induction keys generalizing l with
  | nil =>
    have : l = [] := List.eq_nil_iff_forall_not_mem.2 fun a ha => by simpa using hl a ha
    simp [this]
  | cons k ks ih =>
    obtain ⟨hnk, hks⟩ := List.nodup_cons.1 hk
    have hrest : (ks.flatMap fun k' => l.filter fun a => key a == k') =
        ks.flatMap fun k' => (l.filter fun a => !(key a == k)).filter fun a => key a == k' := by
      refine List.flatMap_congr fun k' hk' => ?_
      rw [List.filter_filter]
      refine List.filter_congr fun a _ => ?_
      have hne : k' ≠ k := fun h => hnk (h ▸ hk')
      by_cases ha : key a = k' <;> simp [ha, hne]
    rw [List.flatMap_cons, hrest]
    refine ((ih hks _ fun a ha => ?_).append_left _).trans (List.filter_append_perm _ l)
    have hmem := hl a (List.mem_of_mem_filter ha)
    have hne : key a ≠ k := by simpa using List.of_mem_filter ha
    exact (List.mem_cons.1 hmem).resolve_left hne

theorem nodup_eraseDups [DecidableEq α] : (l : List α) → l.eraseDups.Nodup
  | [] => by simp
  | a :: as => by
    rw [List.eraseDups_cons, List.nodup_cons]
    exact ⟨by simp [List.mem_eraseDups], nodup_eraseDups (as.filter fun b => !b == a)⟩
termination_by l => l.length
decreasing_by exact Nat.lt_succ_of_le (List.length_filter_le _ _)

/-! ### Fields with their places -/

theorem mem_place {fields : List Field} {p : Placed} :
    p ∈ place fields ↔ fields[p.index]? = some p.field := by
  obtain ⟨i, f⟩ := p
  simp only [place, List.mem_map, Prod.exists, List.mk_mem_zipIdx_iff_getElem?, Placed.mk.injEq]
  constructor
  · rintro ⟨f', i', h, rfl, rfl⟩
    exact h
  · intro h
    exact ⟨f, i, h, rfl, rfl⟩

theorem field_mem_of_mem_place {fields : List Field} {p : Placed} (h : p ∈ place fields) :
    p.field ∈ fields :=
  List.mem_of_getElem? (mem_place.1 h)

theorem place_nodup (fields : List Field) : (place fields).Nodup := by
  refine List.Nodup.of_map Placed.index ?_
  have : (place fields).map Placed.index = fields.zipIdx.map Prod.snd := by
    simp [place, Function.comp_def]
  rw [this, List.zipIdx_map_snd]
  exact List.nodup_range'

/-! ### Records -/

/-- Every name of a field, old or new, once. -/
abbrev names (old new : List Field) : List String := ((old ++ new).map (·.name)).eraseDups

/-- The pairing of the fields of one name. -/
abbrev groupOf (old new : List Field) (name : String) : FieldPairing :=
  ofGroup ((place old).filter (·.field.name == name)) ((place new).filter (·.field.name == name))

/-- **Every old field is in one pair or removed.** -/
theorem ofFields_perm_old (old new : List Field) :
    ((ofFields old new).matched.map Prod.fst ++ (ofFields old new).removed).Perm (place old) := by
  have hgroups : ((names old new).flatMap fun name =>
      (groupOf old new name).matched.map Prod.fst ++ (groupOf old new name).removed).Perm
        (place old) := by
    refine (List.Perm.flatMap_left _ fun name _ => ofGroup_perm_old _ _).trans ?_
    refine flatMap_filter_perm (fun p : Placed => p.field.name) (nodup_eraseDups _) _ fun p hp => ?_
    rw [List.mem_eraseDups]
    exact List.mem_map_of_mem (List.mem_append_left _ (field_mem_of_mem_place hp))
  refine (List.Perm.append ((List.mergeSort_perm _ _).map _) (List.mergeSort_perm _ _)).trans ?_
  simp only [List.flatMap_map, List.map_flatMap]
  exact (List.flatMap_append_perm _ _ _).trans hgroups

/-- **Every new field is in one pair or added.** -/
theorem ofFields_perm_new (old new : List Field) :
    ((ofFields old new).matched.map Prod.snd ++ (ofFields old new).added).Perm (place new) := by
  have hgroups : ((names old new).flatMap fun name =>
      (groupOf old new name).matched.map Prod.snd ++ (groupOf old new name).added).Perm
        (place new) := by
    refine (List.Perm.flatMap_left _ fun name _ => ofGroup_perm_new _ _).trans ?_
    refine flatMap_filter_perm (fun p : Placed => p.field.name) (nodup_eraseDups _) _ fun p hp => ?_
    rw [List.mem_eraseDups]
    exact List.mem_map_of_mem (List.mem_append_right _ (field_mem_of_mem_place hp))
  refine (List.Perm.append ((List.mergeSort_perm _ _).map _) (List.mergeSort_perm _ _)).trans ?_
  simp only [List.flatMap_map, List.map_flatMap]
  exact (List.flatMap_append_perm _ _ _).trans hgroups

theorem ofFields_eq_insertionSort (old new : List Field) :
    ofFields old new =
      { matched := ((names old new).flatMap fun name => (groupOf old new name).matched).insertionSort
          fun a b => decide (a.1.index ≤ b.1.index) = true
        removed := ((names old new).flatMap fun name => (groupOf old new name).removed).insertionSort
          fun a b => decide (a.index ≤ b.index) = true
        added := ((names old new).flatMap fun name => (groupOf old new name).added).insertionSort
          fun a b => decide (a.index ≤ b.index) = true } := by
  have hindex {γ : Type} (index : γ → Nat) (l : List γ) :
      (l.mergeSort fun a b => index a ≤ index b) =
        l.insertionSort fun a b => decide (index a ≤ index b) = true :=
    mergeSort_eq_insertionSort (by simp; omega) (by simp; omega) l
  simp only [ofFields, List.flatMap_map, hindex]

/-! ### Renamed fields -/

theorem renamings_perm_old (p : FieldPairing) :
    (p.renamings.1.map Prod.fst ++ p.renamings.2.1).Perm p.removed :=
  pairFirst_perm_left _ _ _

theorem renamings_perm_new (p : FieldPairing) :
    (p.renamings.1.map Prod.snd ++ p.renamings.2.2).Perm p.added :=
  pairFirst_perm_right _ _ _

/-- A field and its new version under another name agree in offset, width and type. -/
theorem mem_renamings {p : FieldPairing} {o n : Placed} (h : (o, n) ∈ p.renamings.1) :
    n.field.offsetBits = o.field.offsetBits ∧ n.field.bitWidth = o.field.bitWidth ∧
      n.field.type = o.field.type := by
  have := pairFirst_suits p.removed p.added _ h
  simpa [isRenaming, and_assoc] using this

end HeaderAbi.FieldPairing
