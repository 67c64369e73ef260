import Mathlib.Algebra.Ring.Nat
import Mathlib.Data.List.Nodup
import HeaderAbi.Diff.Entry

/-!
# Counting entries

A summary counts entries one by one.  Verdicts and exit codes look at its counts alone, so what they
say about entries rests on this module.

* One more entry raises the count of its impact and that of its kind by one, and no other
  (`Summary.count_add`, `Summary.countKind_add`); so in the end each count is the number of entries
  of that impact or kind (`Diff.count_summary`, `Diff.countKind_summary`).
* **Every entry is counted once** by impact and once by kind (`Diff.sum_count_summary`,
  `Diff.sum_countKind_summary`).
-/

namespace HeaderAbi

/-! ### Counting by key -/

section Keys
variable {α κ : Type} [DecidableEq κ]

/-- **A count that each item raises by one under its key** ends up as the number of the items of
that key. -/
theorem foldl_eq_add_countP {σ : Type} {step : σ → α → σ} {count : σ → κ → Nat} {key : α → κ}
    (hstep : ∀ s a k, count (step s a) k = count s k + if key a = k then 1 else 0) (as : List α)
    (s : σ) (k : κ) : count (as.foldl step s) k = count s k + as.countP (key · = k) := by
  induction as generalizing s with
  | nil => rfl
  | cons a as ih =>
    rw [List.foldl_cons, ih, hstep, List.countP_cons]
    simp only [decide_eq_true_eq]
    omega

theorem countP_mem_cons (key : α → κ) {k : κ} {ks : List κ} (hk : k ∉ ks) (as : List α) :
    as.countP (key · ∈ k :: ks) = as.countP (key · = k) + as.countP (key · ∈ ks) := by
  induction as with
  | nil => rfl
  | cons a as ih =>
    rw [List.countP_cons, List.countP_cons, List.countP_cons, ih]
    by_cases h : key a = k
    · simp only [h, hk, List.mem_cons, true_or, decide_true, decide_false, if_true,
        Bool.false_eq_true, if_false]
      omega
    · simp only [h, List.mem_cons, false_or, decide_false, Bool.false_eq_true, if_false]
      omega

/-- **Items are counted once** when they are counted key by key. -/
theorem sum_countP_key (key : α → κ) {ks : List κ} (hks : ks.Nodup) (as : List α) :
    (ks.map fun k => as.countP (key · = k)).sum = as.countP (key · ∈ ks) := by
  induction ks with
  | nil => simp
  | cons k ks ih =>
    obtain ⟨hk, hks⟩ := List.nodup_cons.1 hks
    rw [List.map_cons, List.sum_cons, ih hks, countP_mem_cons key hk]

/-- No item is missed when the keys are all there are. -/
theorem sum_countP_key_all (key : α → κ) {ks : List κ} (hks : ks.Nodup) (hall : ∀ k, k ∈ ks)
    (as : List α) : (ks.map fun k => as.countP (key · = k)).sum = as.length := by
  rw [sum_countP_key key hks, List.countP_eq_length]
  exact fun a _ => decide_eq_true (hall (key a))

end Keys

theorem Impact.all_nodup : Impact.all.Nodup := by decide

theorem Impact.mem_all (i : Impact) : i ∈ Impact.all := by cases i <;> decide

theorem ChangeKind.all_nodup : ChangeKind.all.Nodup := by decide

theorem ChangeKind.mem_all (k : ChangeKind) : k ∈ ChangeKind.all := by cases k <;> decide

namespace Summary

/-- The entries of a kind. -/
def countKind (s : Summary) : ChangeKind → Nat
  | .added => s.added
  | .removed => s.removed
  | .changed => s.changed

/-! ### One more entry -/

section Step
variable (s : Summary)

@[simp] theorem count_addImpact (i j : Impact) :
    (s.addImpact i).count j = s.count j + if i = j then 1 else 0 := by
  cases i <;> cases j <;> rfl

@[simp] theorem count_addKind (k : ChangeKind) (i : Impact) :
    (s.addKind k).count i = s.count i := by
  cases k <;> cases i <;> rfl

@[simp] theorem countKind_addImpact (i : Impact) (k : ChangeKind) :
    (s.addImpact i).countKind k = s.countKind k := by
  cases i <;> cases k <;> rfl

@[simp] theorem countKind_addKind (k l : ChangeKind) :
    (s.addKind k).countKind l = s.countKind l + if k = l then 1 else 0 := by
  cases k <;> cases l <;> rfl

theorem count_add (e : Entry) (i : Impact) :
    (s.add e).count i = s.count i + if e.impact = i then 1 else 0 := by
  simp [add]

theorem countKind_add (e : Entry) (k : ChangeKind) :
    (s.add e).countKind k = s.countKind k + if e.kind = k then 1 else 0 := by
  simp [add]

theorem total_add (e : Entry) : (s.add e).total = s.total := by
  rw [add]
  cases e.impact <;> cases e.kind <;> rfl

end Step

theorem total_foldl_add (es : List Entry) (s : Summary) : (es.foldl add s).total = s.total := by
  induction es generalizing s with
  | nil => rfl
  | cons e es ih => rw [List.foldl_cons, ih, total_add]

end Summary

/-! ### All entries -/

namespace Diff

variable {d : Diff}

theorem count_summary (i : Impact) : d.summary.count i = d.entries.countP (·.impact = i) := by
  rw [summary, Summary.ofEntries, foldl_eq_add_countP Summary.count_add]
  cases i <;> exact Nat.zero_add _

theorem countKind_summary (k : ChangeKind) :
    d.summary.countKind k = d.entries.countP (·.kind = k) := by
  rw [summary, Summary.ofEntries, foldl_eq_add_countP Summary.countKind_add]
  cases k <;> exact Nat.zero_add _

theorem total_summary : d.summary.total = d.entries.length := Summary.total_foldl_add _ _

theorem sum_count_summary : (Impact.all.map d.summary.count).sum = d.summary.total := by
  rw [total_summary, ← sum_countP_key_all Entry.impact Impact.all_nodup Impact.mem_all]
  exact congrArg List.sum (List.map_congr_left fun i _ => count_summary i)

theorem sum_countKind_summary : (ChangeKind.all.map d.summary.countKind).sum = d.summary.total := by
  rw [total_summary, ← sum_countP_key_all Entry.kind ChangeKind.all_nodup ChangeKind.mem_all]
  exact congrArg List.sum (List.map_congr_left fun k _ => countKind_summary k)

theorem hasBreaking_iff : d.hasBreaking = true ↔ ∃ e ∈ d.entries, e.isBreaking = true := by
  have hcount : d.summary.breaking = d.entries.countP Entry.isBreaking :=
    count_summary .breaking
  rw [hasBreaking, decide_eq_true_eq, hcount, List.countP_pos_iff]

theorem hasExtensions_iff :
    d.hasExtensions = true ↔ ∃ e ∈ d.entries, e.impact = .nonBreaking := by
  have hcount : d.summary.nonBreaking = d.entries.countP (·.impact = .nonBreaking) :=
    count_summary .nonBreaking
  rw [hasExtensions, decide_eq_true_eq, hcount, List.countP_pos_iff]
  simp only [decide_eq_true_eq]

end Diff

end HeaderAbi
