import Mathlib.Algebra.BigOperators.Group.List.Basic
import Mathlib.Algebra.Ring.Nat
import HeaderAbi.Command.Outcome
import HeaderAbi.Proofs.Diff.Summary
import HeaderAbi.Report.Basic

/-!
# Grouping entries

A report shows the entries of a diff by category and impact.  Nothing gets lost on the way, and
what is shown has no bearing on verdict, counts and exit code (`Report.ofDiff_lossless`).

* **There is one group** for each category and impact that is shown and has entries, in the order of
  reports: its first entries, up to the limit, and the number of the others (`Report.Grouped`).
* **Every entry is counted once**: it is shown, cut off by the limit or below the least impact
  (`Report.shown_add_omitted`).
* The exit code of a comparison is that of the verdict, unless the user chose otherwise
  (`Outcome.exitCode_ofComparison_eq_one`, `Outcome.exitCode_ofComparison_eq_two`).
-/

namespace HeaderAbi

/-! ### Lists by key -/

theorem sum_map_flatMap {α κ : Type} (f : κ → List α) (g : α → Nat) (ks : List κ) :
    ((ks.flatMap f).map g).sum = (ks.map fun k => ((f k).map g).sum).sum := by
  rw [List.map_flatMap, List.flatMap_def, List.sum_flatten, List.map_map]
  rfl

/-- Of what is found for some keys, that of one key. -/
theorem filter_filterMap_key {α κ : Type} [DecidableEq κ] {f : κ → Option α} {key : α → κ}
    (hkey : ∀ k a, f k = some a → key a = k) {ks : List κ} (hks : ks.Nodup) (k : κ) :
    ((ks.filterMap f).filter (key · = k)) = if k ∈ ks then (f k).toList else [] := by
  induction ks with
  | nil => rfl
  | cons l ks ih =>
    obtain ⟨hl, hks⟩ := List.nodup_cons.1 hks
    rcases eq_or_ne l k with rfl | hlk
    · have hrest : (ks.filterMap f).filter (key · = l) = [] := by rw [ih hks, if_neg hl]
      rw [List.filterMap_cons, if_pos List.mem_cons_self]
      cases hf : f l with
      | none => exact hrest
      | some a => simp only [List.filter_cons, hkey l a hf, hrest]; rfl
    · have hmem : k ∈ l :: ks ↔ k ∈ ks := by simp [hlk.symm]
      simp only [hmem, ← ih hks]
      cases hf : f l with
      | none => simp [hf]
      | some a => simp [hf, hkey l a hf, hlk]

/-! ### The order of reports -/

theorem Category.mem_all (c : Category) : c ∈ Category.all := by cases c <;> decide

theorem Category.all_pairwise : Category.all.Pairwise fun c d => c.rank < d.rank := by decide

theorem Category.all_nodup : Category.all.Nodup := by decide

theorem Impact.all_pairwise : Impact.all.Pairwise fun i j => j.rank < i.rank := by decide

/-! ### Groups -/

namespace ImpactGroup

variable {maxItems : Option Nat} {i : Impact} {es : List Entry} {g : ImpactGroup}

/-- The number of entries that a group stands for. -/
def size (g : ImpactGroup) : Nat := g.entries.length + g.omitted

theorem of?_eq : of? maxItems i es = if es = [] then none
    else some ⟨i, es.take (maxItems.getD es.length),
      (es.drop (maxItems.getD es.length)).length⟩ := by
  cases es <;> cases maxItems <;> simp [of?]

theorem impact_of_of? (h : of? maxItems i es = some g) : g.impact = i := by
  rw [of?_eq] at h
  obtain ⟨-, h⟩ := Option.ite_none_left_eq_some.1 h
  rw [← Option.some.inj h]

/-- **A group stands for all its entries.** -/
theorem sum_size_of? : ((of? maxItems i es).toList.map size).sum = es.length := by
  rw [of?_eq]
  split
  · next h => simp [h]
  · simp [size]
    omega

end ImpactGroup

namespace CategoryGroup

variable {o : ReportOptions} {d : Diff} {c : Category} {g : CategoryGroup}

/-- The impacts that a report shows. -/
def shownImpacts (o : ReportOptions) : List Impact := Impact.all.filter (·.reaches o.minImpact)

theorem mem_shownImpacts {i : Impact} : i ∈ shownImpacts o ↔ o.minImpact.rank ≤ i.rank := by
  rw [shownImpacts, List.mem_filter, Impact.reaches, decide_eq_true_eq,
    and_iff_right (Impact.mem_all i)]

theorem shownImpacts_nodup (o : ReportOptions) : (shownImpacts o).Nodup :=
  Impact.all_nodup.filter _

/-- The groups of a category, if any. -/
def impactsOf (o : ReportOptions) (d : Diff) (c : Category) : List ImpactGroup :=
  (shownImpacts o).filterMap fun i =>
    ImpactGroup.of? o.maxItems i ((d.inCategory c).filter (·.impact = i))

/-- The gravest impact stands first. -/
theorem impactsOf_pairwise (o : ReportOptions) (d : Diff) (c : Category) :
    (impactsOf o d c).Pairwise fun i j => j.impact.rank < i.impact.rank := by
  refine List.pairwise_filterMap.2 ((Impact.all_pairwise.filter _).imp fun hrank g hg h hh => ?_)
  rwa [ImpactGroup.impact_of_of? hg, ImpactGroup.impact_of_of? hh]

theorem of?_eq (o : ReportOptions) (d : Diff) (c : Category) :
    of? o d c = if impactsOf o d c = [] then none else some ⟨c, impactsOf o d c⟩ := by
  simp only [of?, List.isEmpty_iff]
  rfl

theorem of?_eq_some (h : of? o d c = some g) : impactsOf o d c ≠ [] ∧ g = ⟨c, impactsOf o d c⟩ := by
  rw [of?_eq] at h
  obtain ⟨hsome, h⟩ := Option.ite_none_left_eq_some.1 h
  exact ⟨hsome, (Option.some.inj h).symm⟩

theorem category_of_of? (h : of? o d c = some g) : g.category = c := by rw [(of?_eq_some h).2]

/-- A category that is left out has no groups. -/
theorem flatMap_of? {β : Type} (f : List ImpactGroup → List β) (hf : f [] = []) :
    ((of? o d c).toList.flatMap fun g => f g.impacts) = f (impactsOf o d c) := by
  rw [of?_eq]
  split
  · next h => rw [h, hf]; rfl
  · exact List.append_nil _

/-- **The groups of a category stand for all its entries** of the impacts that are shown. -/
theorem sum_size_impactsOf (o : ReportOptions) (d : Diff) (c : Category) :
    ((impactsOf o d c).map ImpactGroup.size).sum =
      (d.entries.filter (·.impact.reaches o.minImpact)).countP (·.category = c) := by
  rw [impactsOf, List.filterMap_eq_flatMap_toList, sum_map_flatMap]
  simp only [ImpactGroup.sum_size_of?, ← List.countP_eq_length_filter]
  rw [sum_countP_key Entry.impact (shownImpacts_nodup o), Diff.inCategory, List.countP_filter,
    List.countP_filter]
  refine List.countP_congr fun e _ => ?_
  simp only [mem_shownImpacts, Impact.reaches, Bool.and_comm]

end CategoryGroup

namespace Report

/-- The groups for a category and an impact. -/
def groupsOf (r : Report) (c : Category) (i : Impact) : List ImpactGroup :=
  (r.groups.filter (·.category = c)).flatMap fun g => g.impacts.filter (·.impact = i)

/-- A report shows a diff by category and impact. -/
structure Grouped (o : ReportOptions) (d : Diff) (r : Report) : Prop where
  ordered : r.groups.Pairwise fun g h => g.category.rank < h.category.rank
  gravestFirst : ∀ g ∈ r.groups, g.impacts ≠ [] ∧
    g.impacts.Pairwise fun i j => j.impact.rank < i.impact.rank
  /-- There is one group for a category and an impact that is shown and has entries, and none
  otherwise. -/
  groupsOf : ∀ c i,
    let es := d.entries.filter fun e => e.category = c ∧ e.impact = i
    let most := o.maxItems.getD es.length
    r.groupsOf c i = if o.minImpact.rank ≤ i.rank ∧ es ≠ [] then
      [⟨i, es.take most, (es.drop most).length⟩] else []

/-- Every entry of a diff counts in a report, whether it is shown or not. -/
structure Counted (o : ReportOptions) (d : Diff) (r : Report) : Prop where
  total : r.summary.total = d.entries.length
  byImpact : r.summary.total = r.summary.breaking + r.summary.nonBreaking + r.summary.informational
  byKind : r.summary.total = r.summary.added + r.summary.removed + r.summary.changed
  count : ∀ i, r.summary.count i = d.entries.countP (·.impact = i)
  countKind : ∀ k, r.summary.countKind k = d.entries.countP (·.kind = k)
  shown : r.entries.length + r.omitted + d.entries.countP (·.impact.rank < o.minImpact.rank) =
    r.summary.total

section OfDiff
variable (o : ReportOptions) (d : Diff)

theorem groupsOf_ofDiff (c : Category) (i : Impact) :
    (ofDiff o d).groupsOf c i = if o.minImpact.rank ≤ i.rank then
      (ImpactGroup.of? o.maxItems i ((d.inCategory c).filter (·.impact = i))).toList else [] := by
  rw [groupsOf, ofDiff, filter_filterMap_key (fun _ _ => CategoryGroup.category_of_of?)
      Category.all_nodup, if_pos (Category.mem_all c),
    CategoryGroup.flatMap_of? (·.filter (·.impact = i)) rfl, CategoryGroup.impactsOf,
    filter_filterMap_key (fun _ _ => ImpactGroup.impact_of_of?)
      (CategoryGroup.shownImpacts_nodup o)]
  simp only [CategoryGroup.mem_shownImpacts]

theorem grouped_ofDiff : (ofDiff o d).Grouped o d where
  ordered := by
    refine List.pairwise_filterMap.2 (Category.all_pairwise.imp fun hrank g hg h hh => ?_)
    rwa [CategoryGroup.category_of_of? hg, CategoryGroup.category_of_of? hh]
  gravestFirst := by
    intro g hg
    obtain ⟨c, -, hc⟩ := List.mem_filterMap.1 hg
    obtain ⟨hsome, rfl⟩ := CategoryGroup.of?_eq_some hc
    exact ⟨hsome, CategoryGroup.impactsOf_pairwise o d c⟩
  groupsOf := by
    intro c i es most
    have hes : (d.inCategory c).filter (·.impact = i) = es := by
      simp only [Diff.inCategory, List.filter_filter, es, Bool.decide_and, Bool.and_comm]
    rw [groupsOf_ofDiff, hes, ImpactGroup.of?_eq]
    by_cases hrank : o.minImpact.rank ≤ i.rank <;> by_cases hnone : es = [] <;>
      simp [hrank, hnone, most]

/-! ### Conservation -/

/-- The groups of all categories. -/
def impacts (r : Report) : List ImpactGroup := r.groups.flatMap (·.impacts)

theorem impacts_ofDiff :
    (ofDiff o d).impacts = Category.all.flatMap (CategoryGroup.impactsOf o d) := by
  rw [impacts, ofDiff, List.filterMap_eq_flatMap_toList, List.flatMap_assoc]
  exact List.flatMap_congr fun c _ => CategoryGroup.flatMap_of? id rfl

/-- What is shown and what is omitted are what the groups stand for. -/
theorem length_entries_add_omitted (r : Report) :
    r.entries.length + r.omitted = (r.impacts.map ImpactGroup.size).sum := by
  have hentries : r.entries.length = (r.impacts.map (·.entries.length)).sum := by
    rw [entries, impacts, ← List.flatMap_assoc, List.length_flatMap]
  have homitted : r.omitted = (r.impacts.map (·.omitted)).sum := by
    rw [omitted, impacts, ← List.foldl_flatMap, List.sum_eq_foldl, List.foldl_map]
  rw [hentries, homitted, ← List.sum_map_add]
  rfl

/-- **Every entry is accounted for**: it is shown, cut off or below the least impact. -/
theorem shown_add_omitted :
    (ofDiff o d).entries.length + (ofDiff o d).omitted +
      d.entries.countP (·.impact.rank < o.minImpact.rank) = d.entries.length := by
  rw [length_entries_add_omitted, impacts_ofDiff, sum_map_flatMap]
  simp only [CategoryGroup.sum_size_impactsOf]
  rw [sum_countP_key_all Entry.category Category.all_nodup Category.mem_all,
    ← List.countP_eq_length_filter, List.length_eq_countP_add_countP (·.impact.reaches o.minImpact)]
  congr 1
  refine List.countP_congr fun e _ => ?_
  simp [Impact.reaches]

theorem counted_ofDiff : (ofDiff o d).Counted o d where
  total := d.total_summary
  byImpact := by
    rw [ofDiff, ← d.sum_count_summary]
    exact (Nat.add_assoc _ _ _).symm
  byKind := by
    rw [ofDiff, ← d.sum_countKind_summary]
    exact (Nat.add_assoc _ _ _).symm
  count := d.count_summary
  countKind := d.countKind_summary
  shown := (shown_add_omitted o d).trans d.total_summary.symm

end OfDiff

theorem verdict_ofDiff {o : ReportOptions} {d : Diff} :
    (ofDiff o d).verdict = .incompatible ↔ ∃ e ∈ d.entries, e.isBreaking = true := by
  rw [← Diff.hasBreaking_iff]
  cases h : d.hasBreaking <;> simp [ofDiff, Verdict.ofDiff, h]

end Report

/-! ### Exit codes -/

namespace Outcome

variable {b : BehaviorSettings} {referenceMissing : Bool} {d : Diff}

theorem exitCode_ofComparison_eq_one : (ofComparison b referenceMissing d).exitCode = 1 ↔
    (∃ e ∈ d.entries, e.isBreaking = true) ∧ b.adviceOnly = false ∧ referenceMissing = false := by
  rw [← Diff.hasBreaking_iff, ofComparison, ofDiff]
  split_ifs <;> simp_all [exitCode]

theorem exitCode_ofComparison_eq_two : (ofComparison b referenceMissing d).exitCode = 2 ↔
    (¬ ∃ e ∈ d.entries, e.isBreaking = true) ∧ (∃ e ∈ d.entries, e.impact = .nonBreaking) ∧
      b.failOnExtension = true ∧ b.adviceOnly = false ∧ referenceMissing = false := by
  rw [← Diff.hasBreaking_iff, ← Diff.hasExtensions_iff, ofComparison, ofDiff]
  cases b.failOnExtension <;> split_ifs <;> simp_all [exitCode]

theorem exitCode_ofComparison_le : (ofComparison b referenceMissing d).exitCode ≤ 2 := by
  rw [ofComparison, ofDiff]
  split_ifs <;> decide

end Outcome

/-- **A report loses nothing**, whatever part of a diff its options let show, and neither verdict
nor exit code depends on them. -/
theorem Report.ofDiff_lossless (o : ReportOptions) (d : Diff) (b : BehaviorSettings)
    (referenceMissing : Bool) :
    let report := Report.ofDiff o d
    let code := (Outcome.ofComparison b referenceMissing d).exitCode
    (report.verdict = .incompatible ↔ ∃ e ∈ d.entries, e.impact = .breaking) ∧
      report.Grouped o d ∧
      report.Counted o d ∧
      (code = 1 ↔ report.verdict = .incompatible ∧ b.adviceOnly = false ∧
        referenceMissing = false) ∧
      (code = 2 ↔ (¬ ∃ e ∈ d.entries, e.impact = .breaking) ∧
        (∃ e ∈ d.entries, e.impact = .nonBreaking) ∧ b.failOnExtension = true ∧
        b.adviceOnly = false ∧ referenceMissing = false) ∧
      (code = 0 ∨ code = 1 ∨ code = 2) := by
  intro report code
  have hverdict : report.verdict = .incompatible ↔ ∃ e ∈ d.entries, e.isBreaking = true :=
    Report.verdict_ofDiff
  have hle : code ≤ 2 := Outcome.exitCode_ofComparison_le
  have hbreaking : ∀ e : Entry, e.isBreaking = true ↔ e.impact = .breaking :=
    fun e => decide_eq_true_iff
  simp only [← hbreaking]
  refine ⟨hverdict, grouped_ofDiff o d, counted_ofDiff o d, ?_,
    Outcome.exitCode_ofComparison_eq_two, by omega⟩
  rw [hverdict]
  exact Outcome.exitCode_ofComparison_eq_one

end HeaderAbi
