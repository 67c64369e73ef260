import HeaderAbi.Proofs.Snapshot.Items

/-!
# The declarations that stand

Of several declarations of one entity one stands for it (`standing`): the first definition, or the
last forward declaration if there is no definition.  It changes with one more declaration only where
the entity is not defined yet (`standing_concat`).  Where nothing is defined twice (`DefinedOnce`),
each entity that is defined stands as it is defined (`DefinedOnce.standing_eq`).
-/

namespace HeaderAbi

/-- Two declarations do not both define one entity. -/
def Item.Compatible (i j : Item) : Prop :=
  i.key = j.key → i.isOpaque = true ∨ j.isOpaque = true

instance : Std.Symm Item.Compatible :=
  ⟨fun _ _ h hkey => (h hkey.symm).symm⟩

/-- No entity is defined twice: of two declarations of one entity, one is a forward declaration. -/
def DefinedOnce (items : List Item) : Prop := items.Pairwise Item.Compatible

/-- The declaration that stands for an entity: the first definition, or the last forward declaration
if there is no definition. -/
def standing (done : List Item) (key : Category × Uid) : Option Item :=
  (done.find? fun i => i.key = key && !i.isOpaque).or (done.reverse.find? (·.key = key))

section Standing
variable {done : List Item} {i j : Item} {key : Category × Uid}

theorem definedOnce_concat_iff :
    DefinedOnce (done ++ [i]) ↔ DefinedOnce done ∧ ∀ j ∈ done, j.Compatible i := by
  simp [DefinedOnce, List.pairwise_append]

/-- **One more declaration stands** unless the entity is defined already. -/
theorem standing_concat : standing (done ++ [i]) key = if i.key = key then
    match standing done key with
    | none => some i
    | some k => if k.isOpaque then some i else some k
    else standing done key := by
  simp only [standing, List.find?_append, List.reverse_append, List.reverse_singleton,
    List.singleton_append, List.find?_cons, List.find?_nil]
  by_cases hkey : i.key = key
  · cases hdefined : done.find? fun i => i.key = key && !i.isOpaque with
    | some k =>
      have hk := List.find?_some hdefined
      simp only [Bool.and_eq_true, decide_eq_true_eq, Bool.not_eq_true'] at hk
      simp [hkey, hk.2]
    | none =>
      cases hlast : done.reverse.find? (·.key = key) with
      | none => cases i.isOpaque <;> simp [hkey]
      | some k =>
        have hk : k.key = key := by simpa using List.find?_some hlast
        have hmem : k ∈ done := List.mem_reverse.1 (List.mem_of_find?_eq_some hlast)
        have hforward : k.isOpaque = true := by
          simpa [hk] using List.find?_eq_none.1 hdefined k hmem
        cases i.isOpaque <;> simp [hkey, hforward]
  · simp [hkey]

theorem standing_mem (h : standing done key = some i) : i ∈ done ∧ i.key = key := by
  rcases Option.or_eq_some_iff.1 h with h | ⟨-, h⟩
  · have hi := List.find?_some h
    simp only [Bool.and_eq_true, decide_eq_true_eq] at hi
    exact ⟨List.mem_of_find?_eq_some h, hi.1⟩
  · exact ⟨List.mem_reverse.1 (List.mem_of_find?_eq_some h), by simpa using List.find?_some h⟩

theorem exists_standing (hi : i ∈ done) : ∃ k, standing done i.key = some k := by
  refine Option.ne_none_iff_exists'.1 fun h => ?_
  have hnone := (Option.or_eq_none_iff.1 h).2
  exact List.find?_eq_none.1 hnone i (List.mem_reverse.2 hi) (decide_eq_true rfl)

/-- A forward declaration stands only for what is not defined, and then it is the last one. -/
theorem standing_of_forward (h : standing done key = some i) (hi : i.isOpaque = true) :
    (∀ j ∈ done, j.key = key → j.isOpaque = true) ∧
      done.reverse.find? (·.key = key) = some i := by
  rcases Option.or_eq_some_iff.1 h with h | ⟨hnone, h⟩
  · have hdefined := List.find?_some h
    simp [hi] at hdefined
  · exact ⟨fun j hj hkey => by simpa [hkey] using List.find?_eq_none.1 hnone j hj, h⟩

/-- **What is defined once** stands as it is defined. -/
theorem DefinedOnce.standing_eq (h : DefinedOnce done) (hi : i ∈ done) (hc : i.isOpaque = false) :
    standing done i.key = some i := by
  obtain ⟨k, hk⟩ := exists_standing hi
  obtain ⟨hmem, hkey⟩ := standing_mem hk
  have hdefined : k.isOpaque = false := by
    by_contra hforward
    rw [Bool.not_eq_false] at hforward
    simp [(standing_of_forward hk hforward).1 i hi rfl] at hc
  have hsame : k = i := by
    by_contra hne
    rcases h.forall hmem hi hne hkey with hforward | hforward
    · rw [hforward] at hdefined
      cases hdefined
    · rw [hforward] at hc
      cases hc
  rw [hk, hsame]

/-- A definition of what is defined defines it twice. -/
theorem not_definedOnce_concat {k : Item} {r : Record}
    (hs : standing done (.records, r.uid) = some k) (hk : k.isOpaque = false)
    (hr : r.isOpaque = false) : ¬ DefinedOnce (done ++ [.record r]) := by
  intro hd
  obtain ⟨hmem, hkey⟩ := standing_mem hs
  rcases (definedOnce_concat_iff.1 hd).2 k hmem hkey with hforward | hforward
  · exact Bool.false_ne_true (hk.symm.trans hforward)
  · exact Bool.false_ne_true (hr.symm.trans hforward)

end Standing

end HeaderAbi
