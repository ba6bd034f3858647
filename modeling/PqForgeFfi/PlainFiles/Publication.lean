import PqForgeFfi.PlainFiles.Disk

namespace PlainFiles

/-!
# Publishing from scratch files

A program that prepares a file at a scratch path and renames it to its place
changes the disk outside the scratch paths in one step.  Two disks that agree
outside the scratch paths therefore go on doing so.
-/

variable {Path Content : Type}

/-- The disks hold the same outside the scratch paths. -/
def AgreeOutside
    (scratch : Path → Prop)
    (disk other : Disk Path Content) : Prop :=
  ∀ path, ¬scratch path → disk path = other path

/-- The effects touch scratch paths only. -/
def OnlyScratch
    (scratch : Path → Prop)
    (log : List (Effect Path Content)) : Prop :=
  ∀ effect ∈ log, ∀ path, effect.Touches path → scratch path

section Publication

variable {scratch : Path → Prop}
variable {disk store : Disk Path Content}

/-- A front of effects on scratch paths has effects on scratch paths only. -/
theorem OnlyScratch.front
    {log earlier : List (Effect Path Content)}
    (only : OnlyScratch scratch log)
    (front : earlier <+: log) :
    OnlyScratch scratch earlier :=
  fun effect member => only effect (front.subset member)

variable [DecidableEq Path]

/-- The disk behind a publication. -/
def published
    (store : Disk Path Content)
    (path : Path)
    (content : Content) :
    Disk Path Content :=
  Function.update store path (some content)

@[simp] theorem published_self
    (path : Path)
    (content : Content) :
    published store path content path = some content :=
  Function.update_self _ _ _

theorem published_of_ne
    {path other : Path}
    (differ : other ≠ path)
    (content : Content) :
    published store path content other = store other :=
  Function.update_of_ne differ _ _

/-- Effects on scratch paths are not seen outside them. -/
theorem AgreeOutside.after
    (agree : AgreeOutside scratch disk store)
    {log : List (Effect Path Content)}
    (only : OnlyScratch scratch log) :
    AgreeOutside scratch (after disk log) store := by
  intro path notScratch
  have untouched : ∀ effect ∈ log, ¬effect.Touches path :=
    fun effect member touches =>
      notScratch (only effect member path touches)
  exact (after_of_not_touches disk untouched).trans
    (agree path notScratch)

/-- The rename of a prepared file is one change outside the scratch paths. -/
theorem AgreeOutside.after_rename
    (agree : AgreeOutside scratch disk store)
    {source target : Path}
    (sourceScratch : scratch source)
    {content : Content}
    (prepared : disk source = some content) :
    AgreeOutside scratch (PlainFiles.after disk [.rename source target])
      (published store target content) := by
  intro path notScratch
  have notSource : path ≠ source := by
    rintro rfl
    exact notScratch sourceScratch
  simp only [after_cons, after_nil, Effect.apply, prepared]
  by_cases isTarget : path = target
  · subst isTarget
    simp
  · rw [Function.update_of_ne isTarget, Function.update_of_ne notSource,
      published_of_ne isTarget]
    exact agree path notScratch

/--
At every moment of a publication the disk is, outside the scratch paths, what it
was before or what it is behind it.
-/
theorem AgreeOutside.publication
    (agree : AgreeOutside scratch disk store)
    {source target : Path}
    (sourceScratch : scratch source)
    {content : Content}
    {log : List (Effect Path Content)}
    (only : OnlyScratch scratch log)
    (prepared : PlainFiles.after disk log source = some content) :
    AgreeOutside scratch
        (PlainFiles.after disk (log ++ [.rename source target]))
        (published store target content) ∧
      ∀ earlier,
        earlier <+: log ++ [.rename source target] →
        AgreeOutside scratch (PlainFiles.after disk earlier) store ∨
          AgreeOutside scratch (PlainFiles.after disk earlier)
            (published store target content) := by
  have whole :
      AgreeOutside scratch
        (PlainFiles.after disk (log ++ [.rename source target]))
        (published store target content) := by
    rw [after_append]
    exact (agree.after only).after_rename sourceScratch prepared
  refine ⟨whole, ?_⟩
  intro earlier front
  rcases List.prefix_concat_iff.mp front with complete | before
  · subst complete
    exact .inr whole
  · exact .inl (agree.after (only.front before))

end Publication

end PlainFiles
