import Mathlib.Data.List.Basic

/-!
# Replacing a file

A file is replaced by writing a temporary file beside it and renaming that over it. The operations
on the pair are changes of the temporary file and the rename, which takes effect as a whole; what is
found after an interruption is the pair after some of the operations, in order. Whatever the
temporary file goes through, the file itself is the old one before the rename and the complete new
one after it (`take_replacement_current`), and an attempt without a rename leaves it as it was
(`take_setTemps_current`).
-/

set_option autoImplicit false

namespace CratonHsm.Library

universe u

variable {File : Type u}

/-- A file and the temporary file beside it. -/
structure FileWithTemp (File : Type u) where
  current : File
  temp : File

/-- An operation on the pair: the temporary file becomes `file`, or it is renamed, and `left` is
found under its name. -/
inductive FileOp (File : Type u) where
  | setTemp (file : File)
  | rename (left : File)

/-- The pair after an operation. -/
def FileOp.run (files : FileWithTemp File) : FileOp File → FileWithTemp File
  | .setTemp file => { files with temp := file }
  | .rename left => ⟨files.temp, left⟩

/-- The temporary file goes through `drafts`, becomes `file` and is renamed. -/
def replacement (drafts : List File) (file left : File) : List (FileOp File) :=
  drafts.map .setTemp ++ [.setTemp file, .rename left]

theorem take_setTemps_current (drafts : List File) (k : Nat) (files : FileWithTemp File) :
    (((drafts.map FileOp.setTemp).take k).foldl FileOp.run files).current = files.current := by
  induction drafts generalizing k files with
  | nil => simp
  | cons draft drafts ih =>
    cases k with
    | zero => rfl
    | succ k => exact ih k _

/-- The file is the old one up to the rename and the new one from there on. -/
theorem take_replacement_current (drafts : List File) (file left : File) (k : Nat)
    (files : FileWithTemp File) :
    (((replacement drafts file left).take k).foldl FileOp.run files).current =
      if k ≤ drafts.length + 1 then files.current else file := by
  induction drafts generalizing k files with
  | nil =>
    match k with
    | 0 | 1 => rfl
    | k + 2 => simp [replacement, FileOp.run]
  | cons draft drafts ih =>
    cases k with
    | zero => rfl
    | succ k =>
      rw [replacement, List.map_cons, List.cons_append, List.take_succ_cons, List.foldl_cons]
      refine (ih k _).trans ?_
      simp [FileOp.run]

end CratonHsm.Library
