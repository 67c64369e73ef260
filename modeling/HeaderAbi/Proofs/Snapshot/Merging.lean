import HeaderAbi.Proofs.Snapshot.Items
import HeaderAbi.Snapshot.Merge
import Mathlib.Data.List.Induction

/-!
# What a merge retains

A merge reads declarations one after the other.  What it holds after some of them depends on these
alone (`retained`): under every identifier the first complete declaration, or the first one if none
is complete, together with the unit that supplied it.

* One step keeps this so, or the declaration contradicts what is retained (`Keeps.exists_take`,
  `Keeps.take_eq_error`).
* A run of steps goes through when no two declarations contradict each other, and otherwise fails
  at the first one that contradicts an earlier one (`Keeps.exists_foldlM_take`,
  `Keeps.foldlM_take_eq_error`).
-/

namespace HeaderAbi

/-! ### Declarations -/

/-- Two declarations of one entity that are complete and differ. -/
structure Item.Contradicts (i j : Item) : Prop where
  key_eq : i.key = j.key
  left : i.isOpaque = false
  right : j.isOpaque = false
  ne : i ≠ j

theorem Item.Contradicts.symm {i j : Item} (h : i.Contradicts j) : j.Contradicts i :=
  ⟨h.key_eq.symm, h.right, h.left, h.ne.symm⟩

/-- The declaration of an entity and the unit that supplies it. -/
abbrev Supplied := String × Item

/-- What is retained under an identifier: the first complete declaration, or the first one if none
is complete. -/
def retained (done : List Supplied) (key : Category × Uid) : Option Supplied :=
  (done.find? fun d => d.2.key = key && !d.2.isOpaque).or (done.find? (·.2.key = key))

/-- No two declarations contradict each other. -/
def Consistent (done : List Supplied) : Prop :=
  ∀ d ∈ done, ∀ e ∈ done, ¬ d.2.Contradicts e.2

theorem Consistent.mono {done more : List Supplied} (h : Consistent more)
    (hsub : ∀ d ∈ done, d ∈ more) : Consistent done :=
  fun d hd e he => h d (hsub d hd) e (hsub e he)

section Retained
variable {done : List Supplied} {d e : Supplied} {key : Category × Uid}

theorem find?_complete_eq_some (h : (done.find? fun d => d.2.key = key && !d.2.isOpaque) = some d) :
    d ∈ done ∧ d.2.key = key ∧ d.2.isOpaque = false := by
  have := List.find?_some h
  simp only [Bool.and_eq_true, decide_eq_true_eq, Bool.not_eq_true'] at this
  exact ⟨List.mem_of_find?_eq_some h, this⟩

theorem retained_mem (h : retained done key = some d) : d ∈ done ∧ d.2.key = key := by
  rcases Option.or_eq_some_iff.1 h with h | ⟨-, h⟩
  · obtain ⟨hd, hkey, -⟩ := find?_complete_eq_some h
    exact ⟨hd, hkey⟩
  · exact ⟨List.mem_of_find?_eq_some h, by simpa using List.find?_some h⟩

theorem exists_retained (hd : d ∈ done) : ∃ k, retained done d.2.key = some k := by
  refine Option.ne_none_iff_exists'.1 fun h => ?_
  have hnone := (Option.or_eq_none_iff.1 h).2
  exact List.find?_eq_none.1 hnone d hd (decide_eq_true rfl)

/-- A complete declaration is retained only as the first one. -/
theorem retained_of_complete (h : retained done key = some d) (hd : d.2.isOpaque = false) :
    (done.find? fun d => d.2.key = key && !d.2.isOpaque) = some d := by
  rcases Option.or_eq_some_iff.1 h with h | ⟨hnone, h⟩
  · exact h
  · have hkey : d.2.key = key := by simpa using List.find?_some h
    simpa [hkey, hd] using List.find?_eq_none.1 hnone d (List.mem_of_find?_eq_some h)

/-- An incomplete declaration is retained only where no complete one is. -/
theorem retained_of_forward (h : retained done key = some d) (hd : d.2.isOpaque = true) :
    (∀ e ∈ done, e.2.key = key → e.2.isOpaque = true) ∧
      done.find? (·.2.key = key) = some d := by
  rcases Option.or_eq_some_iff.1 h with h | ⟨hnone, h⟩
  · obtain ⟨-, -, hcomplete⟩ := find?_complete_eq_some h
    simp [hd] at hcomplete
  · exact ⟨fun e he hkey => by simpa [hkey] using List.find?_eq_none.1 hnone e he, h⟩

/-- What is retained changes when a declaration is the first one, or the first complete one. -/
theorem retained_concat : retained (done ++ [d]) key = if d.2.key = key then
    match retained done key with
    | none => some d
    | some k => if k.2.isOpaque && !d.2.isOpaque then some d else some k
    else retained done key := by
  simp only [retained, List.find?_append, List.find?_singleton]
  by_cases hkey : d.2.key = key
  · cases hcomplete : done.find? fun d => d.2.key = key && !d.2.isOpaque with
    | some k =>
      obtain ⟨-, -, hk⟩ := find?_complete_eq_some hcomplete
      simp [hkey, hk]
    | none =>
      cases hfirst : done.find? (·.2.key = key) with
      | none => cases d.2.isOpaque <;> simp [hkey]
      | some k =>
        have hk : k.2.key = key := by simpa using List.find?_some hfirst
        have hforward : k.2.isOpaque = true := by
          simpa [hk] using List.find?_eq_none.1 hcomplete k (List.mem_of_find?_eq_some hfirst)
        cases d.2.isOpaque <;> simp [hkey, hforward]
  · simp [hkey]

/-- **Among consistent declarations** every complete one equals what is retained. -/
theorem Consistent.retained_eq (h : Consistent done) (he : e ∈ done) (hc : e.2.isOpaque = false) :
    ∃ unit, retained done e.2.key = some (unit, e.2) := by
  obtain ⟨k, hr⟩ := exists_retained he
  obtain ⟨hk, hkey⟩ := retained_mem hr
  cases hforward : k.2.isOpaque with
  | true => simp [(retained_of_forward hr hforward).1 e he rfl] at hc
  | false =>
    have heq : k.2 = e.2 := Classical.byContradiction fun hne =>
      h k hk e he ⟨hkey, hforward, hc, hne⟩
    exact ⟨k.1, by rw [hr, ← heq]⟩

/-- One more declaration is consistent with the others when it does not contradict what is retained
of them. -/
theorem Consistent.concat (h : Consistent done)
    (hd : ∀ k, retained done d.2.key = some k → ¬ k.2.Contradicts d.2) :
    Consistent (done ++ [d]) := by
  have hnone : ∀ e ∈ done, ¬ e.2.Contradicts d.2 := by
    intro e he hcontra
    obtain ⟨unit, hr⟩ := h.retained_eq he hcontra.left
    rw [hcontra.key_eq] at hr
    exact hd (unit, e.2) hr hcontra
  simp only [Consistent, List.forall_mem_append, List.forall_mem_singleton]
  exact ⟨fun a ha => ⟨h a ha, hnone a ha⟩, fun b hb hcontra => hnone b hb hcontra.symm,
    fun hcontra => hcontra.ne rfl⟩

end Retained

/-- **Inconsistent declarations** have a first one that contradicts what is retained of those
before. -/
theorem exists_first_contradiction {ds : List Supplied} (h : ¬ Consistent ds) :
    ∃ before d after k, ds = before ++ d :: after ∧ Consistent before ∧
      retained before d.2.key = some k ∧ k.2.Contradicts d.2 := by
  induction ds using List.reverseRec with
  | nil => exact absurd (fun _ h => nomatch h) h
  | append_singleton ds d ih =>
    by_cases hds : Consistent ds
    · by_cases hd : ∃ k, retained ds d.2.key = some k ∧ k.2.Contradicts d.2
      · obtain ⟨k, hk, hcontra⟩ := hd
        exact ⟨ds, d, [], k, rfl, hds, hk, hcontra⟩
      · exact absurd (hds.concat fun k hk hcontra => hd ⟨k, hk, hcontra⟩) h
    · obtain ⟨before, d', after, k, rfl, hrest⟩ := ih hds
      exact ⟨before, d', after ++ [d], k, by simp, hrest⟩

/-! ### One step -/

namespace Merging

/-- Take in a declaration. -/
def take (m : Merging) (d : Supplied) : Except Fault Merging :=
  match d.2 with
  | .record r => m.add d.1 r
  | .enum e => m.add d.1 e
  | .function f => m.add d.1 f
  | .global g => m.add d.1 g

/-- Keep a declaration in the place of what is kept under its identifier. -/
def keepDeclaration (m : Merging) (d : Supplied) : Merging :=
  match d.2 with
  | .record r => m.keep d.1 r
  | .enum e => m.keep d.1 e
  | .function f => m.keep d.1 f
  | .global g => m.keep d.1 g

/-- What is kept under an identifier, and the unit that supplied it. -/
def kept (m : Merging) (key : Category × Uid) : Option Supplied :=
  (m.contents.item? key).map fun i => (m.origin key.1 key.2, i)

/-- The fault of a declaration that contradicts what is kept. -/
def conflict (k d : Supplied) : Fault :=
  .conflicting d.2.key.1 d.2.key.2.text k.1 d.1

theorem origin_keep {α : Type} [Stored α] (m : Merging) (unit : String) (a : α)
    (category : Category) (u : Uid) : (m.keep unit a).origin category u =
      if (Entity.category α, Entity.uid a) = (category, u) then unit else m.origin category u := by
  rw [origin, keep, List.find?_cons]
  split
  · next h => rw [if_pos (beq_iff_eq.1 h)]; rfl
  · next h => rw [if_neg (beq_eq_false_iff_ne.1 h)]; rfl

theorem item?_keepDeclaration (m : Merging) (d : Supplied) (key : Category × Uid) :
    (m.keepDeclaration d).contents.item? key =
      if d.2.key = key then some d.2 else m.contents.item? key := by
  obtain ⟨unit, i⟩ := d
  obtain ⟨category, u⟩ := key
  cases i <;> cases category <;>
    simp [keepDeclaration, keep, Contents.item?, Stored.table, Stored.setTable, Item.key,
      Table.get?_put, apply_ite (Option.map _), Entity.uid]

theorem kept_keepDeclaration (m : Merging) (d : Supplied) (key : Category × Uid) :
    (m.keepDeclaration d).kept key = if d.2.key = key then some d else m.kept key := by
  have horigin : (m.keepDeclaration d).origin key.1 key.2 =
      if d.2.key = key then d.1 else m.origin key.1 key.2 := by
    obtain ⟨unit, i⟩ := d
    cases i <;> exact origin_keep ..
  rw [kept, kept, item?_keepDeclaration, horigin]
  split <;> rfl

/-- **What becomes of a declaration** depends on what is kept under its identifier. -/
theorem take_eq (m : Merging) (d : Supplied) : m.take d = match m.kept d.2.key with
    | none => .ok (m.keepDeclaration d)
    | some k =>
      if k.2 = d.2 || d.2.isOpaque then .ok m
      else if k.2.isOpaque then .ok (m.keepDeclaration d)
      else .error (conflict k d) := by
  obtain ⟨unit, i⟩ := d
  cases i <;>
    simp only [take, add, kept, Item.key, Contents.item?, Stored.table, Entity.uid] <;>
    split <;> next hget => simp [hget, keepDeclaration, Item.isOpaque, Entity.isOpaque, conflict,
      Entity.category, Item.key] <;> congr

/-- The merge holds what is retained of some declarations. -/
def Keeps (m : Merging) (done : List Supplied) : Prop :=
  ∀ key, m.kept key = retained done key

variable {m : Merging} {done more : List Supplied} {d : Supplied}

theorem keeps_start : start.Keeps [] := by
  rintro ⟨category, u⟩
  cases category <;> rfl

theorem Keeps.keepDeclaration (h : m.Keeps done)
    (hd : ∀ k, retained done d.2.key = some k → k.2.isOpaque = true ∧ d.2.isOpaque = false) :
    (m.keepDeclaration d).Keeps (done ++ [d]) := by
  intro key
  rw [kept_keepDeclaration, retained_concat, h]
  split
  · next hkey =>
    subst hkey
    cases hr : retained done d.2.key with
    | none => rfl
    | some k => simp [hd k hr]
  · rfl

theorem Keeps.ignore (h : m.Keeps done) {k : Supplied} (hr : retained done d.2.key = some k)
    (hd : k.2 = d.2 ∨ d.2.isOpaque = true) : m.Keeps (done ++ [d]) := by
  intro key
  rw [retained_concat, h]
  split
  · next hkey =>
    subst hkey
    rcases hd with hd | hd <;> simp [hr, hd]
  · rfl

/-- **One step.** A declaration that contradicts nothing is taken in. -/
theorem Keeps.exists_take (h : m.Keeps done)
    (hd : ∀ k, retained done d.2.key = some k → ¬ k.2.Contradicts d.2) :
    ∃ m', m.take d = .ok m' ∧ m'.Keeps (done ++ [d]) := by
  rw [take_eq, h]
  cases hr : retained done d.2.key with
  | none => exact ⟨_, rfl, h.keepDeclaration (by simp [hr])⟩
  | some k =>
    by_cases hsame : k.2 = d.2 ∨ d.2.isOpaque = true
    · exact ⟨m, if_pos (by simpa using hsame), h.ignore hr hsame⟩
    · obtain ⟨hne, hcomplete⟩ := not_or.1 hsame
      have hforward : k.2.isOpaque = true := by
        by_contra hk
        exact hd k hr ⟨(retained_mem hr).2, by simpa using hk, by simpa using hcomplete, hne⟩
      refine ⟨_, by simp [hne, hcomplete, hforward], h.keepDeclaration fun k' hk' => ?_⟩
      obtain rfl : k = k' := Option.some.inj (hr.symm.trans hk')
      exact ⟨hforward, by simpa using hcomplete⟩

/-- A declaration that contradicts what is retained is a conflict. -/
theorem Keeps.take_eq_error (h : m.Keeps done) {k : Supplied}
    (hr : retained done d.2.key = some k) (hd : k.2.Contradicts d.2) :
    m.take d = .error (conflict k d) := by
  simp [take_eq, h d.2.key, hr, hd.left, hd.right, hd.ne]

/-- **A run of steps** goes through when the declarations are consistent. -/
theorem Keeps.exists_foldlM_take (h : m.Keeps done) (hc : Consistent (done ++ more)) :
    ∃ m', more.foldlM take m = .ok m' ∧ m'.Keeps (done ++ more) := by
  induction more generalizing m done with
  | nil => exact ⟨m, rfl, by simpa using h⟩
  | cons d more ih =>
    have hd : ∀ k, retained done d.2.key = some k → ¬ k.2.Contradicts d.2 := fun k hk =>
      hc k (List.mem_append_left _ (retained_mem hk).1) d (by simp)
    obtain ⟨m₁, hm₁, h₁⟩ := h.exists_take hd
    rw [List.append_cons] at hc ⊢
    obtain ⟨m', hm', h'⟩ := ih h₁ hc
    exact ⟨m', by simp only [List.foldlM_cons, hm₁, bind, Except.bind, hm'], h'⟩

/-- **A run of steps** fails at the first declaration that contradicts an earlier one. -/
theorem Keeps.foldlM_take_eq_error (h : m.Keeps []) {before after : List Supplied}
    (hc : Consistent before) {k : Supplied} (hr : retained before d.2.key = some k)
    (hd : k.2.Contradicts d.2) :
    (before ++ d :: after).foldlM take m = .error (conflict k d) := by
  obtain ⟨m₁, hm₁, h₁⟩ := h.exists_foldlM_take (show Consistent ([] ++ before) from hc)
  simp only [List.foldlM_append, hm₁, List.foldlM_cons, h₁.take_eq_error hr hd, bind, Except.bind]

/-! ### What is held -/

/-- The entities are what is retained. -/
theorem Keeps.mem_items_iff (h : m.Keeps done) {i : Item} :
    i ∈ m.contents.items ↔ ∃ unit, retained done i.key = some (unit, i) := by
  simp only [Contents.mem_items_iff, ← h i.key, kept, Option.map_eq_some_iff, Prod.mk.injEq]
  constructor
  · intro hi
    exact ⟨_, i, hi, rfl, rfl⟩
  · rintro ⟨_, _, hi, _, rfl⟩
    exact hi

/-- The identifiers are those of the declarations. -/
theorem Keeps.has_iff (h : m.Keeps done) {key : Category × Uid} :
    m.contents.Has key ↔ ∃ d ∈ done, d.2.key = key := by
  constructor
  · rintro ⟨i, hi, rfl⟩
    obtain ⟨unit, hr⟩ := h.mem_items_iff.1 hi
    exact ⟨_, retained_mem hr⟩
  · rintro ⟨d, hd, rfl⟩
    obtain ⟨k, hr⟩ := exists_retained hd
    have hkey := (retained_mem hr).2
    exact ⟨k.2, h.mem_items_iff.2 ⟨k.1, by rw [hkey, hr]⟩, hkey⟩

end Merging

end HeaderAbi
