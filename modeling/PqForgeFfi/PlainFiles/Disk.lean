import Mathlib.Data.List.Basic
import Mathlib.Logic.Function.Basic

namespace PlainFiles

/-!
# A disk of plain files

A disk holds a content, or nothing, at every path.  What a program does to it
is a list of effects; the disk at any moment is what a front of that list has
made of the disk before.  An effect changes only the paths that it touches.
-/

variable {Path Content : Type}

/-- The content of the file at each path, or none. -/
abbrev Disk (Path Content : Type) : Type :=
  Path → Option Content

/-- What happens to a disk. -/
inductive Effect (Path Content : Type) where
  | write (path : Path) (content : Content)
  | remove (path : Path)
  | rename (source target : Path)
  deriving Repr, DecidableEq

namespace Effect

/-- The path is one that the effect can change. -/
def Touches
    (path : Path) :
    Effect Path Content → Prop
  | .write written _ => path = written
  | .remove removed => path = removed
  | .rename source target => path = source ∨ path = target

variable [DecidableEq Path]

/--
The disk behind an effect.  A rename replaces the target in one step, and
changes nothing where there is no file to rename.
-/
def apply
    (disk : Disk Path Content) :
    Effect Path Content → Disk Path Content
  | .write path content =>
      Function.update disk path (some content)
  | .remove path =>
      Function.update disk path none
  | .rename source target =>
      match disk source with
      | none =>
          disk
      | some content =>
          Function.update (Function.update disk source none) target
            (some content)

/-- A path that an effect does not touch keeps its content. -/
theorem apply_of_not_touches
    (disk : Disk Path Content)
    {path : Path}
    {effect : Effect Path Content}
    (untouched : ¬effect.Touches path) :
    effect.apply disk path = disk path := by
  cases effect with
  | write written content =>
      exact Function.update_of_ne untouched _ _
  | remove removed =>
      exact Function.update_of_ne untouched _ _
  | rename source target =>
      have notSource : path ≠ source :=
        fun same => untouched (.inl same)
      have notTarget : path ≠ target :=
        fun same => untouched (.inr same)
      cases found : disk source with
      | none =>
          simp only [apply, found]
      | some content =>
          simp only [apply, found, Function.update_of_ne notTarget,
            Function.update_of_ne notSource]

end Effect

section Log

variable [DecidableEq Path]

/-- The disk behind a list of effects. -/
def after
    (disk : Disk Path Content)
    (log : List (Effect Path Content)) :
    Disk Path Content :=
  log.foldl (fun before effect => effect.apply before) disk

@[simp] theorem after_nil (disk : Disk Path Content) :
    after disk [] = disk :=
  rfl

@[simp] theorem after_cons
    (disk : Disk Path Content)
    (effect : Effect Path Content)
    (rest : List (Effect Path Content)) :
    after disk (effect :: rest) = after (effect.apply disk) rest :=
  rfl

@[simp] theorem after_append
    (disk : Disk Path Content)
    (earlier later : List (Effect Path Content)) :
    after disk (earlier ++ later) = after (after disk earlier) later :=
  List.foldl_append

/-- A path that no effect touches keeps its content. -/
theorem after_of_not_touches
    (disk : Disk Path Content)
    {path : Path}
    {log : List (Effect Path Content)}
    (untouched : ∀ effect ∈ log, ¬effect.Touches path) :
    after disk log path = disk path := by
  induction log generalizing disk with
  | nil =>
      rfl
  | cons effect rest inductionHypothesis =>
      have later :=
        inductionHypothesis (effect.apply disk) fun other member =>
          untouched other (List.mem_cons_of_mem effect member)
      rw [after_cons, later]
      exact effect.apply_of_not_touches disk
        (untouched effect List.mem_cons_self)

/-- A path that no effect touches keeps its content at every moment. -/
theorem after_front_of_not_touches
    (disk : Disk Path Content)
    {path : Path}
    {log earlier : List (Effect Path Content)}
    (untouched : ∀ effect ∈ log, ¬effect.Touches path)
    (front : earlier <+: log) :
    after disk earlier path = disk path :=
  after_of_not_touches disk fun effect member =>
    untouched effect (front.subset member)

/-- Behind a list of writes to one path, that path holds the last content. -/
theorem after_writes
    (disk : Disk Path Content)
    (path : Path)
    (contents : List Content) :
    after disk (contents.map (.write path)) path =
      (contents.getLast?.or (disk path)) := by
  induction contents generalizing disk with
  | nil =>
      rfl
  | cons content rest inductionHypothesis =>
      rw [List.map_cons, after_cons, inductionHypothesis]
      cases rest with
      | nil =>
          exact Function.update_self _ _ _
      | cons next more =>
          rw [List.getLast?_cons_cons]
          cases last : (next :: more).getLast? with
          | none =>
              simp at last
          | some content =>
              rfl

/-- Behind a rename the target holds what the source held. -/
theorem after_rename
    {disk : Disk Path Content}
    {source target : Path}
    (differ : source ≠ target)
    {content : Content}
    (found : disk source = some content) :
    after disk [.rename source target] source = none ∧
      after disk [.rename source target] target = some content := by
  simp only [after_cons, after_nil, Effect.apply, found]
  constructor
  · rw [Function.update_of_ne differ, Function.update_self]
  · exact Function.update_self _ _ _

/-- Behind a removal there is no file at the path. -/
theorem after_remove
    (disk : Disk Path Content)
    (path : Path) :
    after disk [.remove path] path = none :=
  Function.update_self _ _ _

end Log

end PlainFiles
