import Mathlib.Data.List.Infix

/- Paths of directories: names between separators, where the empty name and "." stay and ".."
   goes up. Directories are lists of names from the root; there are no symbolic links. -/
namespace Paths

abbrev Name := List Char

def step (dir : List Name) (name : Name) : List Name :=
  if name = [] ∨ name = ['.'] then dir
  else if name = ['.', '.'] then dir.dropLast
  else dir ++ [name]

def walk (dir : List Name) (path : List Char) : List Name := (path.splitOn '/').foldl step dir

/-- A path that starts with a separator starts at the root, any other at `cwd`. -/
def resolve (cwd : List Name) (path : List Char) : List Name :=
  walk (if path.head? = some '/' then [] else cwd) path

structure Plain (name : Name) : Prop where
  nonempty : name ≠ []
  notDot : name ≠ ['.']
  notUp : name ≠ ['.', '.']
  whole : '/' ∉ name

theorem step_plain {name : Name} (plain : Plain name) (dir : List Name) :
    step dir name = dir ++ [name] := by
  rw [step, if_neg (not_or.mpr ⟨plain.nonempty, plain.notDot⟩), if_neg plain.notUp]

theorem walk_plain {name : Name} (plain : Plain name) (dir : List Name) :
    walk dir name = dir ++ [name] := by
  rw [walk, List.splitOn_eq_singleton plain.whole]
  exact step_plain plain dir

theorem walk_append (dir : List Name) (a b : List Char) :
    walk dir (a ++ '/' :: b) = walk (walk dir a) b := by
  rw [walk, List.splitOn_append_cons_self, List.foldl_append]
  rfl

theorem resolve_append {a : List Char} (some_ : a ≠ []) (cwd : List Name) (b : List Char) :
    resolve cwd (a ++ '/' :: b) = walk (resolve cwd a) b := by
  rw [resolve, List.head?_append_of_ne_nil a some_, walk_append]
  rfl

theorem mem_splitOn {path : List Char} {name : Name} (h : name ∈ path.splitOn '/') :
    '/' ∉ name ∧ ∀ c ∈ name, c ∈ path := by
  induction path generalizing name with
  | nil =>
    rw [List.splitOn_nil, List.mem_singleton] at h
    simp [h]
  | cons c path ih =>
    rw [List.splitOn_cons_eq_if_modifyHead] at h
    by_cases hc : c = '/'
    · rw [if_pos (beq_iff_eq.mpr hc), List.mem_cons] at h
      rcases h with rfl | h
      · simp
      · exact ⟨(ih h).1, fun x hx => List.mem_cons_of_mem c ((ih h).2 x hx)⟩
    · rw [if_neg (by simpa using hc)] at h
      cases parts : path.splitOn '/' with
      | nil => exact absurd parts (List.splitOn_ne_nil '/' path)
      | cons first rest =>
        rw [parts, List.modifyHead_cons, List.mem_cons] at h
        rcases h with rfl | h
        · obtain ⟨whole, inside⟩ := ih (parts ▸ List.mem_cons_self)
          refine ⟨by simp [whole, Ne.symm hc], fun x hx => ?_⟩
          rcases List.mem_cons.mp hx with rfl | hx
          · exact List.mem_cons_self
          · exact List.mem_cons_of_mem c (inside x hx)
        · obtain ⟨whole, inside⟩ := ih (parts ▸ List.mem_cons_of_mem first h)
          exact ⟨whole, fun x hx => List.mem_cons_of_mem c (inside x hx)⟩

theorem step_below {Q : Name → Prop} {n : Nat} {dir : List Name} {name : Name}
    (below : ∀ x ∈ dir.drop n, Q x)
    (own : name ≠ [] → name ≠ ['.'] → name ≠ ['.', '.'] → Q name) :
    ∀ x ∈ (step dir name).drop n, Q x := by
  intro x hx
  unfold step at hx
  split at hx
  · exact below x hx
  rename_i here
  obtain ⟨nonempty, notDot⟩ := not_or.mp here
  split at hx
  · exact below x ((List.IsPrefix.drop (List.dropLast_prefix dir) n).subset hx)
  rename_i notUp
  rw [List.drop_append, List.mem_append] at hx
  rcases hx with old | new
  · exact below x old
  · rw [List.mem_singleton.mp (List.mem_of_mem_drop new)]
    exact own nonempty notDot notUp

theorem walk_below {path : List Char} {n : Nat} {dir : List Name} {Q : Name → Prop}
    (below : ∀ x ∈ dir.drop n, Q x)
    (own : ∀ name, Plain name → (∀ c ∈ name, c ∈ path) → Q name) :
    ∀ x ∈ (walk dir path).drop n, Q x := by
  have names : ∀ name ∈ path.splitOn '/', name ≠ [] → name ≠ ['.'] → name ≠ ['.', '.'] →
      Q name := fun name h nonempty notDot notUp =>
    own name ⟨nonempty, notDot, notUp, (mem_splitOn h).1⟩ (mem_splitOn h).2
  rw [walk]
  generalize path.splitOn '/' = parts at names
  induction parts generalizing dir with
  | nil => exact below
  | cons name parts ih =>
    exact ih (step_below below (names name List.mem_cons_self))
      fun x hx => names x (List.mem_cons_of_mem name hx)

end Paths
