import HeaderAbi.Settings.Preset

/-!
# Laws of layers

Layers of settings are put on top of one another from the bottom up.  A field that has its usual
value is not given, so what shows of a stack is the last value that was given (`foldl_shown`); of
patterns all show, each further one once (`foldl_addNew`).

* `Settings.Stack`: what a stack of layers comes to, field by field.
* **A stack of layers may be put together in any grouping**, the usual settings may be left out of
  it, and a layer that lies on itself changes nothing more (`Settings.stack_laws`).
-/

namespace HeaderAbi

variable {α : Type}

/-! ### Fields -/

section Shown
variable [DecidableEq α] {usual below above : α}

@[simp]
theorem shown_usual : shown usual below usual = below := if_pos rfl

theorem shown_of_ne (h : above ≠ usual) : shown usual below above = above := if_neg h

@[simp]
theorem shown_self : shown usual above above = above := by
  by_cases h : above = usual
  · rw [h, shown_usual]
  · exact shown_of_ne h

theorem shown_assoc (a b c : α) :
    shown usual (shown usual a b) c = shown usual a (shown usual b c) := by
  by_cases hc : c = usual
  · rw [hc, shown_usual, shown_usual]
  · rw [shown_of_ne hc, shown_of_ne hc, shown_of_ne hc]

/-- An optional field is given when it is there. -/
theorem or_eq_shown (below above : Option α) : above.or below = shown none below above := by
  cases above <;> rfl

/-- The last value that is given, or what lies at the bottom when none is. -/
def lastGiven (usual bottom : α) (layers : List α) : α :=
  (layers.filter (· ≠ usual)).getLastD bottom

/-- **The last value that is given shows.** -/
theorem foldl_shown (usual bottom : α) (layers : List α) :
    layers.foldl (shown usual) bottom = lastGiven usual bottom layers := by
  induction layers generalizing bottom with
  | nil => rfl
  | cons a layers ih =>
    by_cases h : a = usual
    · simp [h, ih, lastGiven]
    · rw [List.foldl_cons, shown_of_ne h, ih, lastGiven, lastGiven,
        List.filter_cons_of_pos (by simpa using h), List.getLastD_cons]

end Shown

/-! ### Patterns -/

theorem addNew_of_mem {items : List String} {item : String} (h : item ∈ items) :
    addNew items item = items := if_pos (List.contains_iff_mem.2 h)

theorem addNew_of_not_mem {items : List String} {item : String} (h : item ∉ items) :
    addNew items item = items ++ [item] := if_neg (mt List.contains_iff_mem.1 h)

theorem mem_addNew {items : List String} {item p : String} :
    p ∈ addNew items item ↔ p ∈ items ∨ p = item := by
  by_cases h : item ∈ items
  · rw [addNew_of_mem h, or_iff_left_of_imp]
    rintro rfl
    exact h
  · rw [addNew_of_not_mem h, List.mem_append, List.mem_singleton]

theorem mem_foldl_addNew {items more : List String} {p : String} :
    p ∈ more.foldl addNew items ↔ p ∈ items ∨ p ∈ more := by
  induction more generalizing items with
  | nil => simp
  | cons item more ih => rw [List.foldl_cons, ih, mem_addNew, List.mem_cons, or_assoc]

/-- The further items of a list, each once and where it first appears. -/
def further (items more : List String) : List String := (more.filter (· ∉ items)).eraseDups

/-- **Items are kept as they are, and further ones follow**, each once. -/
theorem foldl_addNew (items more : List String) :
    more.foldl addNew items = items ++ further items more := by
  induction more generalizing items with
  | nil => simp [further]
  | cons item more ih =>
    rw [List.foldl_cons, ih]
    by_cases h : item ∈ items
    · simp [addNew_of_mem h, further, h]
    · have hmore : more.filter (· ∉ items ++ [item]) =
          (more.filter (· ∉ items)).filter fun p => !p == item := by
        rw [List.filter_filter]
        refine List.filter_congr fun p _ => ?_
        rw [Bool.eq_iff_iff]
        simp [and_comm]
      rw [addNew_of_not_mem h, further, hmore, further, List.filter_cons_of_pos (by simpa using h),
        List.eraseDups_cons, List.append_assoc, List.singleton_append]

theorem foldl_addNew_of_subset {items more : List String} (h : ∀ p ∈ more, p ∈ items) :
    more.foldl addNew items = items := by
  have hnone : more.filter (· ∉ items) = [] := by simpa using h
  rw [foldl_addNew, further, hnone, List.eraseDups_nil, List.append_nil]

theorem foldl_addNew_addNew (items more : List String) (item : String) :
    (addNew more item).foldl addNew items = addNew (more.foldl addNew items) item := by
  by_cases h : item ∈ more
  · rw [addNew_of_mem h, addNew_of_mem (mem_foldl_addNew.2 (.inr h))]
  · rw [addNew_of_not_mem h, List.foldl_append]
    rfl

/-- Lists that are added one after the other may be put together first. -/
theorem foldl_addNew_assoc (a b c : List String) :
    c.foldl addNew (b.foldl addNew a) = (c.foldl addNew b).foldl addNew a := by
  induction c generalizing b with
  | nil => rfl
  | cons item c ih => rw [List.foldl_cons, List.foldl_cons, ← foldl_addNew_addNew, ih]

/-! ### Layers -/

namespace Settings

/-- The usual settings let everything below show. -/
@[simp]
theorem overlay_usual (s : Settings) : s.overlay {} = s := by
  simp [overlay, ComparisonSettings.overlay, OutputSettings.overlay, FilterSettings.overlay,
    BehaviorSettings.overlay, DumpSettings.overlay]

theorem overlay_self (s : Settings) : s.overlay s = s := by
  simp [overlay, ComparisonSettings.overlay, OutputSettings.overlay, FilterSettings.overlay,
    BehaviorSettings.overlay, DumpSettings.overlay, foldl_addNew_of_subset]

/-- **Layers may be grouped** in any way. -/
theorem overlay_assoc (a b c : Settings) : (a.overlay b).overlay c = a.overlay (b.overlay c) := by
  simp only [overlay, ComparisonSettings.overlay, OutputSettings.overlay, FilterSettings.overlay,
    BehaviorSettings.overlay, DumpSettings.overlay, or_eq_shown, shown_assoc, foldl_addNew_assoc]

/-- A field that a layer shows shows the last value given in a stack of layers. -/
theorem foldl_overlay_field [DecidableEq α] (field : Settings → α) {usual : α}
    (h : ∀ below above, field (below.overlay above) = shown usual (field below) (field above))
    (bottom : Settings) (layers : List Settings) :
    field (layers.foldl overlay bottom) = lastGiven usual (field bottom) (layers.map field) := by
  rw [← foldl_shown, List.foldl_map]
  induction layers generalizing bottom with
  | nil => rfl
  | cons s layers ih => rw [List.foldl_cons, ih, h, List.foldl_cons]

theorem foldl_overlay_ignored (bottom : Settings) (layers : List Settings) :
    (layers.foldl overlay bottom).comparison.ignored =
      (layers.flatMap (·.comparison.ignored)).foldl addNew bottom.comparison.ignored := by
  induction layers generalizing bottom with
  | nil => rfl
  | cons s layers ih =>
    rw [List.foldl_cons, ih, List.flatMap_cons, List.foldl_append]
    rfl

/-- What a stack of layers comes to: every field has the last value that a layer gives it, and the
patterns at the bottom are followed by the further ones of the layers. -/
structure Stack (bottom : Settings) (layers : List Settings) (s : Settings) : Prop where
  matching : s.comparison.matching =
    lastGiven .byUid bottom.comparison.matching (layers.map (·.comparison.matching))
  comparedInParallel : s.comparison.parallel =
    lastGiven true bottom.comparison.parallel (layers.map (·.comparison.parallel))
  ignored : s.comparison.ignored = bottom.comparison.ignored ++
    further bottom.comparison.ignored (layers.flatMap (·.comparison.ignored))
  format : s.output.format = lastGiven .summary bottom.output.format (layers.map (·.output.format))
  file : s.output.file = lastGiven none bottom.output.file (layers.map (·.output.file))
  noColor : s.output.noColor = lastGiven false bottom.output.noColor (layers.map (·.output.noColor))
  title : s.output.title = lastGiven none bottom.output.title (layers.map (·.output.title))
  minImpact : s.filter.minImpact =
    lastGiven .informational bottom.filter.minImpact (layers.map (·.filter.minImpact))
  maxItems : s.filter.maxItems =
    lastGiven none bottom.filter.maxItems (layers.map (·.filter.maxItems))
  failOnExtension : s.behavior.failOnExtension =
    lastGiven false bottom.behavior.failOnExtension (layers.map (·.behavior.failOnExtension))
  adviceOnly : s.behavior.adviceOnly =
    lastGiven false bottom.behavior.adviceOnly (layers.map (·.behavior.adviceOnly))
  allowMissingReference : s.behavior.allowMissingReference = lastGiven false
    bottom.behavior.allowMissingReference (layers.map (·.behavior.allowMissingReference))
  quiet : s.behavior.quiet = lastGiven false bottom.behavior.quiet (layers.map (·.behavior.quiet))
  dumpFormat : s.dump.format = lastGiven .json bottom.dump.format (layers.map (·.dump.format))
  pretty : s.dump.pretty = lastGiven true bottom.dump.pretty (layers.map (·.dump.pretty))
  dumpedInParallel : s.dump.parallel =
    lastGiven true bottom.dump.parallel (layers.map (·.dump.parallel))

theorem stack_foldl (bottom : Settings) (layers : List Settings) :
    Stack bottom layers (layers.foldl overlay bottom) where
  matching := foldl_overlay_field (·.comparison.matching) (fun _ _ => rfl) bottom layers
  comparedInParallel := foldl_overlay_field (·.comparison.parallel) (fun _ _ => rfl) bottom layers
  ignored := (foldl_overlay_ignored bottom layers).trans (foldl_addNew _ _)
  format := foldl_overlay_field (·.output.format) (fun _ _ => rfl) bottom layers
  file := foldl_overlay_field (·.output.file) (fun _ _ => or_eq_shown _ _) bottom layers
  noColor := foldl_overlay_field (·.output.noColor) (fun _ _ => rfl) bottom layers
  title := foldl_overlay_field (·.output.title) (fun _ _ => or_eq_shown _ _) bottom layers
  minImpact := foldl_overlay_field (·.filter.minImpact) (fun _ _ => rfl) bottom layers
  maxItems := foldl_overlay_field (·.filter.maxItems) (fun _ _ => or_eq_shown _ _) bottom layers
  failOnExtension := foldl_overlay_field (·.behavior.failOnExtension) (fun _ _ => rfl) bottom layers
  adviceOnly := foldl_overlay_field (·.behavior.adviceOnly) (fun _ _ => rfl) bottom layers
  allowMissingReference :=
    foldl_overlay_field (·.behavior.allowMissingReference) (fun _ _ => rfl) bottom layers
  quiet := foldl_overlay_field (·.behavior.quiet) (fun _ _ => rfl) bottom layers
  dumpFormat := foldl_overlay_field (·.dump.format) (fun _ _ => rfl) bottom layers
  pretty := foldl_overlay_field (·.dump.pretty) (fun _ _ => rfl) bottom layers
  dumpedInParallel := foldl_overlay_field (·.dump.parallel) (fun _ _ => rfl) bottom layers

theorem foldl_overlay_overlay (a b : Settings) (layers : List Settings) :
    layers.foldl overlay (a.overlay b) = a.overlay (layers.foldl overlay b) := by
  induction layers generalizing b with
  | nil => rfl
  | cons s layers ih => rw [List.foldl_cons, List.foldl_cons, overlay_assoc, ih]

/-- A stack of layers is one layer on top of what lies at the bottom. -/
theorem foldl_overlay_eq (bottom : Settings) (layers : List Settings) :
    layers.foldl overlay bottom = bottom.overlay (layers.foldl overlay {}) := by
  rw [← foldl_overlay_overlay, overlay_usual]

/-- The settings in force are a stack: the preset, the settings file and what is given. -/
theorem layered_eq_foldl (preset : Option Preset) (file : Option Settings) (given : Settings) :
    layered preset file given =
      (file.toList ++ [given]).foldl overlay ((preset.map Preset.settings).getD {}) := by
  cases file <;> rfl

/-- **Laws of layers.**  Layers may be grouped in any way, so a stack of them is one layer; the
usual settings change nothing, and neither does a layer on top of itself; and a stack comes to the
last value given for each field and to every pattern, those at the bottom first and each further one
once, where it first appears.  The settings in force are such a stack. -/
theorem stack_laws :
    (∀ a b c : Settings, (a.overlay b).overlay c = a.overlay (b.overlay c)) ∧
    (∀ a : Settings, a.overlay {} = a) ∧
    (∀ a b : Settings, (a.overlay b).overlay b = a.overlay b) ∧
    (∀ (bottom : Settings) (layers : List Settings),
      layers.foldl overlay bottom = bottom.overlay (layers.foldl overlay {}) ∧
        Stack bottom layers (layers.foldl overlay bottom)) ∧
    ∀ (preset : Option Preset) (file : Option Settings) (given : Settings),
      layered preset file given =
        (file.toList ++ [given]).foldl overlay ((preset.map Preset.settings).getD {}) := by
  refine ⟨overlay_assoc, overlay_usual, fun a b => ?_, fun bottom layers =>
    ⟨foldl_overlay_eq bottom layers, stack_foldl bottom layers⟩, layered_eq_foldl⟩
  rw [overlay_assoc, overlay_self]

end Settings

end HeaderAbi
