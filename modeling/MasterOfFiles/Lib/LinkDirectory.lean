import Mathlib.Data.List.AList
import Mathlib.Algebra.BigOperators.Group.List.Basic

/- Directories of hard links. A tree maps folder keys to folders, each folder holds
   a directory of names, each name is a link to one inode. -/
namespace LinkDirectory
variable {Key Name Inode Folder : Type}

abbrev Dir (Name Inode : Type) := AList (fun _ : Name => Inode)

/-- All links of a tree, as (folder key, name, inode). -/
def allLinks (dir : Folder → Dir Name Inode) (tree : Dir Key Folder) :
    List (Key × Name × Inode) :=
  tree.entries.flatMap fun e => (dir e.2).entries.map fun l => (e.1, l.1, l.2)

def linkCount [DecidableEq Inode] (dir : Folder → Dir Name Inode) (tree : Dir Key Folder)
    (x : Inode) : Nat :=
  (allLinks dir tree).countP fun l => decide (l.2.2 = x)

variable [DecidableEq Key] [DecidableEq Name]

theorem mem_entries_iff {d : Dir Name Inode} {n : Name} {x : Inode} :
    ⟨n, x⟩ ∈ d.entries ↔ d.lookup n = some x := by
  rw [← AList.mem_lookup_iff]
  exact Option.mem_def

theorem lookup_insert_ite (d : Dir Name Inode) (n m : Name) (x : Inode) :
    (d.insert n x).lookup m = if m = n then some x else d.lookup m := by
  split
  · rename_i h; subst h; exact AList.lookup_insert d
  · rename_i h; exact AList.lookup_insert_ne h

theorem lookup_erase_ite (d : Dir Name Inode) (n m : Name) :
    (d.erase n).lookup m = if m = n then none else d.lookup m := by
  split
  · rename_i h; subst h; exact AList.lookup_erase _ d
  · rename_i h; exact AList.lookup_erase_ne h

theorem mem_allLinks {dir : Folder → Dir Name Inode} {tree : Dir Key Folder}
    {k : Key} {n : Name} {x : Inode} :
    (k, n, x) ∈ allLinks dir tree ↔
      ∃ f, tree.lookup k = some f ∧ (dir f).lookup n = some x := by
  simp only [allLinks, List.mem_flatMap, List.mem_map, Prod.mk.injEq]
  constructor
  · rintro ⟨⟨k', f⟩, hf, ⟨n', x'⟩, hl, rfl, rfl, rfl⟩
    exact ⟨f, mem_entries_iff.mp hf, mem_entries_iff.mp hl⟩
  · rintro ⟨f, hf, hl⟩
    exact ⟨⟨k, f⟩, mem_entries_iff.mpr hf, ⟨n, x⟩, mem_entries_iff.mpr hl, rfl, rfl, rfl⟩

theorem linkCount_eq_zero [DecidableEq Inode] {dir : Folder → Dir Name Inode}
    {tree : Dir Key Folder} {x : Inode} :
    linkCount dir tree x = 0 ↔
      ∀ k f n, tree.lookup k = some f → (dir f).lookup n ≠ some x := by
  simp only [linkCount, List.countP_eq_zero, decide_eq_true_eq]
  constructor
  · intro h k f n hf hl
    exact h (k, n, x) (mem_allLinks.mpr ⟨f, hf, hl⟩) rfl
  · rintro h ⟨k, n, y⟩ hm rfl
    obtain ⟨f, hf, hl⟩ := mem_allLinks.mp hm
    exact h k f n hf hl

end LinkDirectory
