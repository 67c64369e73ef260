import HeaderAbi.CommandLine.Program
import HeaderAbi.Host.Memory
import HeaderAbi.Proofs.Settings.Layers

/-!
# Settings given on the command line

The settings that options make lie on top of those of the preset and of the settings file
(`settingsUnder_eq`).  A layer does not tell an option that was given from one that was not, so what
comes of an option depends on its kind.

* A path, a title, a count or a switch is in force whenever it was given (`Wins`), and patterns add
  up.
* A choice among words is in force unless it is the usual one and the layers below make another;
  then theirs is (`Prevails`).

**A command runs under what its options ask for**, up to that exception (`Invocation.run_given`), and
the exception does arise (`exists_choice_overruled`).
-/

namespace HeaderAbi

variable {α : Type}

/-! ### What comes of an option -/

/-- What an option asks for is in force; without it the layers below decide. -/
structure Wins (given : Option α) (below inForce : α) : Prop where
  asked : ∀ a, given = some a → inForce = a
  absent : given = none → inForce = below

/-- What an option asks for is in force, except that asking for the usual value is of no avail
against the layers below. -/
structure Prevails (usual : α) (given : Option α) (below inForce : α) : Prop where
  asked : ∀ a, given = some a → (inForce = a ↔ (a = usual → below = usual))
  absent : given = none → inForce = below

/-- What a switch asks for when it is on. -/
def whenOn (on : Bool) (value : α) : Option α := if on then some value else none

theorem wins_or (given below : Option α) : Wins (given.map some) below (given.or below) := by
  cases given <;> constructor <;> simp

section Shown
variable [DecidableEq α] {usual below above : α}

theorem shown_eq_above_iff : shown usual below above = above ↔ (above = usual → below = usual) := by
  by_cases h : above = usual
  · simp [h]
  · simp [shown, h]

theorem prevails_shown (given : Option α) :
    Prevails usual given below (shown usual below (given.getD usual)) := by
  constructor
  case asked =>
    rintro a rfl
    exact shown_eq_above_iff
  case absent =>
    rintro rfl
    exact shown_usual

end Shown

theorem wins_shown_true (on below : Bool) : Wins (whenOn on true) below (shown false below on) := by
  cases on <;> constructor <;> simp [whenOn, shown]

theorem wins_shown_false (on below : Bool) : Wins (whenOn on false) below (shown true below !on) := by
  cases on <;> constructor <;> simp [whenOn, shown]

/-! ### Layers -/

namespace Settings

theorem layered_eq_overlay (preset : Option Preset) (file : Option Settings) (given : Settings) :
    layered preset file given = (layered preset file {}).overlay given := by
  simp [layered]

end Settings

namespace CommandLine

/-! ### Options under the layers below -/

/-- What the options of a comparison come to. -/
structure DiffOptions.InForce (o : DiffOptions) (g : GlobalOptions) (below : Settings)
    (j : DiffJob) : Prop where
  old : j.old = o.old
  new : j.new = o.new
  format : Prevails .summary o.format below.output.format j.settings.output.format
  file : Wins (o.file.map some) below.output.file j.settings.output.file
  title : Wins (o.title.map some) below.output.title j.settings.output.title
  noColor : Wins (whenOn g.noColor true) below.output.noColor j.settings.output.noColor
  matching : Prevails .byUid o.matching below.comparison.matching j.settings.comparison.matching
  ignored : ∀ p, p ∈ j.settings.comparison.ignored ↔ p ∈ below.comparison.ignored ∨ p ∈ o.ignored
  sequential : Wins (whenOn o.sequential false) below.comparison.parallel
    j.settings.comparison.parallel
  minImpact : Prevails .informational o.minImpact below.filter.minImpact j.settings.filter.minImpact
  maxItems : Wins (o.maxItems.map some) below.filter.maxItems j.settings.filter.maxItems
  failOnExtension : Wins (whenOn o.failOnExtension true) below.behavior.failOnExtension
    j.settings.behavior.failOnExtension
  adviceOnly : Wins (whenOn o.adviceOnly true) below.behavior.adviceOnly
    j.settings.behavior.adviceOnly
  allowMissingReference : Wins (whenOn o.allowMissingReference true)
    below.behavior.allowMissingReference j.settings.behavior.allowMissingReference
  quiet : Wins (whenOn g.quiet true) below.behavior.quiet j.settings.behavior.quiet

/-- What the options of an extraction come to. -/
structure DumpOptions.InForce (o : DumpOptions) (below : Settings) (j : DumpJob) : Prop where
  inputs : j.inputs = o.inputs
  output : j.output = o.output
  format : Prevails .json o.format below.dump.format j.dump.format
  compact : Wins (whenOn o.compact false) below.dump.pretty j.dump.pretty
  sequential : Wins (whenOn o.sequential false) below.dump.parallel j.dump.parallel

/-- What the options of a merge come to. -/
structure MergeOptions.InForce (o : MergeOptions) (below : Settings) (j : MergeJob) : Prop where
  inputs : j.inputs = o.inputs
  output : j.output = o.output
  format : Prevails .json o.format below.dump.format j.dump.format
  compact : Wins (whenOn o.compact false) below.dump.pretty j.dump.pretty

theorem DiffOptions.inForce (o : DiffOptions) (g : GlobalOptions) (below : Settings) :
    o.InForce g below (o.job (below.overlay (o.given g))) where
  old := rfl
  new := rfl
  format := prevails_shown o.format
  file := wins_or o.file _
  title := wins_or o.title _
  noColor := wins_shown_true g.noColor _
  matching := prevails_shown o.matching
  ignored _ := mem_foldl_addNew
  sequential := wins_shown_false o.sequential _
  minImpact := prevails_shown o.minImpact
  maxItems := wins_or o.maxItems _
  failOnExtension := wins_shown_true o.failOnExtension _
  adviceOnly := wins_shown_true o.adviceOnly _
  allowMissingReference := wins_shown_true o.allowMissingReference _
  quiet := wins_shown_true g.quiet _

theorem DumpOptions.inForce (o : DumpOptions) (below : Settings) :
    o.InForce below (o.job (below.overlay o.given)) where
  inputs := rfl
  output := rfl
  format := prevails_shown o.format
  compact := wins_shown_false o.compact _
  sequential := wins_shown_false o.sequential _

theorem MergeOptions.inForce (o : MergeOptions) (below : Settings) :
    o.InForce below (o.job (below.overlay o.given)) where
  inputs := rfl
  output := rfl
  format := prevails_shown o.format
  compact := wins_shown_false o.compact _

/-! ### Commands -/

section Commands
variable {m : Type → Type} [Monad m] [LawfulMonad m] [Host m]

/-- The settings of the options lie on top of those of the preset and of the settings file. -/
theorem settingsUnder_eq (g : GlobalOptions) (given : Settings) :
    settingsUnder (m := m) g given = (·.overlay given) <$> settingsUnder g {} := by
  simp only [settingsUnder, Settings.layered_eq_overlay _ _ given]
  split
  · simp
  · split
    · simp
    · -- no preset has that name
      exact ExceptT.ext (by simp)

/-- **A command runs under what its options ask for**, over what its preset and its settings file
ask for, except that the usual choice among words is of no avail against another one there. -/
theorem Invocation.run_given (g : GlobalOptions) :
    (∀ o : DiffOptions, ∃ job : Settings → DiffJob, (∀ below, o.InForce g below (job below)) ∧
      (⟨g, .diff o⟩ : Invocation).run (m := m) =
        settingsUnder g {} >>= fun below => (job below).run) ∧
    (∀ o : DumpOptions, ∃ job : Settings → DumpJob, (∀ below, o.InForce below (job below)) ∧
      (⟨g, .dump o⟩ : Invocation).run (m := m) =
        settingsUnder g {} >>= fun below => (job below).run) ∧
    ∀ o : MergeOptions, ∃ job : Settings → MergeJob, (∀ below, o.InForce below (job below)) ∧
      (⟨g, .merge o⟩ : Invocation).run (m := m) =
        settingsUnder g {} >>= fun below => (job below).run := by
  refine ⟨fun o => ⟨_, o.inForce g, ?_⟩, fun o => ⟨_, o.inForce, ?_⟩, fun o => ⟨_, o.inForce, ?_⟩⟩
  · simp only [run, settingsUnder_eq g (o.given g), bind_map_left]
  · simp only [run, settingsUnder_eq g o.given, bind_map_left]
  · simp only [run, settingsUnder_eq g o.given, bind_map_left]

end Commands

/-! ### The usual choice over another one -/

/-- The options that every command has, with a preset that asks for another format. -/
def advised : GlobalOptions := { preset := some "advisory" }

/-- A comparison with a report for code scanning and with a title. -/
def scanned : DiffOptions :=
  { old := "old.json", new := "new.json", format := some .sarif, title := some "libfoo" }

theorem run_given_scanned : ∃ job : Settings → DiffJob,
    (∀ below, (job below).settings.output.format = .sarif ∧
      (job below).settings.output.title = some "libfoo") ∧
    (⟨advised, .diff scanned⟩ : Invocation).run (m := StateM Machine) =
      settingsUnder advised {} >>= fun below => (job below).run := by
  obtain ⟨job, hjob, hrun⟩ := (Invocation.run_given (m := StateM Machine) advised).1 scanned
  refine ⟨job, fun below => ⟨?_, (hjob below).title.asked _ rfl⟩, hrun⟩
  exact ((hjob below).format.asked .sarif rfl).2 nofun

/-- A choice that was made on the command line may be overruled by a preset. -/
theorem exists_choice_overruled : ∃ (i : Invocation) (o : DiffOptions) (p : Preset),
    Invocation.ofArguments none
        ["--preset", "advisory", "diff", "old.json", "new.json", "--output", "summary"] = .ok i ∧
      i.request = .diff o ∧ i.options.preset.bind Preset.ofWord? = some p ∧
      o.format = some .summary ∧
      (o.job (Settings.layered (some p) none (o.given i.options))).settings.output.format =
        .markdown :=
  ⟨⟨advised, .diff { old := "old.json", new := "new.json", format := some .summary }⟩, _,
    .advisory, rfl, rfl, rfl, rfl, rfl⟩

end CommandLine

end HeaderAbi
