import Mathlib.Data.String.Basic
import SealedKey.FileTree.Basic
import SealedKey.Proofs.Except

/-!
# Reading and writing files of a tree

A path leads to at most one place (`FileTree.Leads`).  Reading looks at this place, and writing
changes this place and nothing else (`FileTree.Overwrites`), so that afterwards every path leads
where it led before.
-/

namespace SealedKey.FileTree

variable {tree tree' : FileTree} {path other : String} {place place' : Location}
  {contents : Bytes}

/-! ## The names of a path -/

theorem splitOnAux_slash (text : String) (first place : String.Pos.Raw) (parts : List String) :
    text.splitOnAux "/" first place 0 parts = text.splitAux (· == '/') first place parts := by
  induction h : text.rawEndPos.1 - place.1 using Nat.strongRecOn generalizing first place parts with
  | ind n ih =>
    rw [String.splitOnAux, String.splitAux]
    by_cases hend : place.atEnd text
    · simp [hend]
    · have hnext : text.rawEndPos.1 - (place.next text).1 < n := by
        rw [← h]
        exact Nat.sub_lt_sub_left (Nat.gt_of_not_le (mt decide_eq_true hend))
          (String.Pos.Raw.lt_next text _)
      have hsep : (0 : String.Pos.Raw).get "/" = '/' := rfl
      have hlast : ((0 : String.Pos.Raw).next "/").atEnd "/" = true := by decide
      have hzero : place.unoffsetBy 0 = place := String.Pos.Raw.ext (by simp)
      rw [if_neg hend, dif_neg hend, hsep, hzero]
      dsimp only
      rw [if_pos hlast]
      by_cases hslash : place.get text = '/'
      · -- what was matched is one byte long, so that the part ends where the slash stands
        have hback : (place.next text).unoffsetBy ((0 : String.Pos.Raw).next "/") = place := by
          rw [String.Pos.Raw.next, hslash]
          exact String.Pos.Raw.ext (Nat.add_sub_cancel _ _)
        rw [hback, if_pos (beq_iff_eq.2 hslash), if_pos (beq_iff_eq.2 hslash)]
        exact ih _ hnext _ _ _ rfl
      · rw [if_neg (mt beq_iff_eq.1 hslash), if_neg (mt beq_iff_eq.1 hslash)]
        exact ih _ hnext _ _ _ rfl

/-- The names of a path stand between its slashes. -/
theorem splitOn_slash (path : String) :
    path.splitOn "/" = (path.toList.splitOn '/').map String.ofList := by
  rw [String.splitOn, if_neg (by decide), splitOnAux_slash]
  exact String.splitToList_of_valid path _

theorem reversedNames_of_notMem {name : String} (hne : name ≠ "") (hslash : '/' ∉ name.toList) :
    reversedNames name = ([name], false) := by
  rw [reversedNames, splitOn_slash, List.splitOn_eq_singleton hslash]
  simp [hne]

/-- A relative path leads into the directory that its names before the last one lead to. -/
theorem locate_of_reversedNames {last : String} {before : List String}
    (hnul : path.contains '\x00' = false) (hne : path ≠ "")
    (hshort : path.utf8ByteSize ≤ maxPathSize) (hrelative : path.startsWith "/" = false)
    (hnames : reversedNames path = (last :: before, false)) (hdots : ¬ (last = "." ∨ last = "..")) :
    tree.locate path = do
      let folder ← before.reverse.foldlM tree.enter tree.workingDirectory
      return .named folder last false := by
  simp only [locate, hnul, hne, Nat.not_lt.2 hshort, hrelative, hnames, hdots, Bool.false_eq_true,
    if_false]

/-! ## Where paths lead -/

/-- A path leads to a place, where a file is or may be made. -/
def Leads (tree : FileTree) (path : String) (place : Location) : Prop :=
  ∃ folder name, tree.locate path = .ok (.named folder name false) ∧
    name.utf8ByteSize ≤ maxNameSize ∧ place = name :: folder

theorem Leads.unique (h : tree.Leads path place) (h' : tree.Leads path place') :
    place = place' := by
  obtain ⟨folder, name, hlocate, -, rfl⟩ := h
  obtain ⟨folder', name', hlocate', -, rfl⟩ := h'
  rw [hlocate] at hlocate'
  cases hlocate'
  rfl

/-- A single name leads to a place in the working directory. -/
theorem leads_of_notMem {name : String} (hnul : name.contains '\x00' = false) (hne : name ≠ "")
    (hshort : name.utf8ByteSize ≤ maxNameSize) (hslash : '/' ∉ name.toList)
    (hdots : ¬ (name = "." ∨ name = "..")) :
    tree.Leads name (name :: tree.workingDirectory) := by
  have hmax : maxNameSize ≤ maxPathSize := by decide
  have hrelative : name.startsWith "/" = false := by
    rw [String.startsWith_string_eq_false_iff]
    intro hbegins
    exact hslash (hbegins.subset List.mem_cons_self)
  have hlocate := tree.locate_of_reversedNames hnul hne (Nat.le_trans hshort hmax) hrelative
    (reversedNames_of_notMem hne hslash) hdots
  exact ⟨_, name, hlocate, hshort, rfl⟩

theorem Leads.ne_nil (h : tree.Leads path place) : place ≠ [] := by
  obtain ⟨folder, name, -, -, rfl⟩ := h
  exact List.cons_ne_nil name folder

theorem find_eq_ok_iff {folder : Location} {name : String} {entry : Option Entry} :
    tree.find folder name = .ok entry ↔
      name.utf8ByteSize ≤ maxNameSize ∧ tree.get? (name :: folder) = entry := by
  unfold find
  split
  · rename_i hlong
    exact iff_of_false Except.throw_ne_ok fun h => Nat.not_le.2 hlong h.1
  · rename_i hshort
    rw [Except.pure_eq_ok_iff]
    exact (and_iff_right (Nat.le_of_not_lt hshort)).symm

/-- A file is read at the place to which its path leads. -/
theorem read_eq_ok_iff : tree.read path = .ok contents ↔
    ∃ place, tree.Leads path place ∧ tree.get? place = some (.file contents) := by
  unfold read
  constructor
  · intro h
    obtain ⟨target, htarget, h⟩ := Except.bind_eq_ok_iff.1 h
    cases target with
    | folder _ => nomatch h
    | named folder name slash =>
      obtain ⟨entry, hentry, h⟩ := Except.bind_eq_ok_iff.1 h
      obtain ⟨hname, hget⟩ := find_eq_ok_iff.1 hentry
      rcases entry with _ | _ | _
      · nomatch h
      · cases slash with
        | true => nomatch h
        | false =>
          cases h
          exact ⟨_, ⟨folder, name, htarget, hname, rfl⟩, hget⟩
      · nomatch h
  · intro hform
    obtain ⟨_, ⟨folder, name, htarget, hname, rfl⟩, hget⟩ := hform
    have hentry := find_eq_ok_iff.2 ⟨hname, hget⟩
    exact Except.bind_eq_ok_iff.2 ⟨_, htarget, Except.bind_eq_ok_iff.2 ⟨_, hentry, rfl⟩⟩

/-- A file is written at the place to which its path leads, unless this is a directory. -/
theorem write_eq_ok_iff : tree.write path contents = .ok tree' ↔
    ∃ place, tree.Leads path place ∧ tree.get? place ≠ some .directory ∧
      tree' = tree.put place (.file contents) := by
  unfold write
  constructor
  · intro h
    obtain ⟨target, htarget, h⟩ := Except.bind_eq_ok_iff.1 h
    rcases target with _ | ⟨folder, name, _ | _⟩
    · nomatch h
    · obtain ⟨entry, hentry, h⟩ := Except.bind_eq_ok_iff.1 h
      obtain ⟨hname, hget⟩ := find_eq_ok_iff.1 hentry
      refine ⟨_, ⟨folder, name, htarget, hname, rfl⟩, ?_⟩
      rw [hget]
      rcases entry with _ | _ | _
      · cases h
        exact ⟨nofun, rfl⟩
      · cases h
        exact ⟨nofun, rfl⟩
      · nomatch h
    · nomatch h
  · intro hform
    obtain ⟨_, ⟨folder, name, htarget, hname, rfl⟩, hget, rfl⟩ := hform
    refine Except.bind_eq_ok_iff.2 ⟨_, htarget, Except.bind_eq_ok_iff.2
      ⟨_, find_eq_ok_iff.2 ⟨hname, rfl⟩, ?_⟩⟩
    rcases hentry : tree.get? (name :: folder) with _ | _ | _
    · rfl
    · rfl
    · exact absurd hentry hget

/-! ## Trees with the same directories -/

/-- Two trees with the same directories. -/
structure SameDirectories (tree tree' : FileTree) : Prop where
  workingDirectory : tree'.workingDirectory = tree.workingDirectory
  directory (place : Location) : tree'.get? place = some .directory ↔
    tree.get? place = some .directory

theorem SameDirectories.symm (h : tree.SameDirectories tree') : tree'.SameDirectories tree :=
  ⟨h.workingDirectory.symm, fun place => (h.directory place).symm⟩

/-- Only a directory can be entered, so entering depends on nothing else. -/
theorem SameDirectories.enter (h : tree.SameDirectories tree') {folder : Location} {name : String}
    (hplace : tree.enter folder name = .ok place) : tree'.enter folder name = .ok place := by
  unfold FileTree.enter at hplace ⊢
  split
  · rename_i hstay
    rw [if_pos hstay] at hplace
    exact hplace
  · rename_i hstay
    rw [if_neg hstay] at hplace
    split
    · rename_i hback
      rw [if_pos hback] at hplace
      exact hplace
    · rename_i hback
      rw [if_neg hback] at hplace
      obtain ⟨entry, hentry, hplace⟩ := Except.bind_eq_ok_iff.1 hplace
      obtain ⟨hname, hget⟩ := find_eq_ok_iff.1 hentry
      rcases entry with _ | _ | _
      · nomatch hplace
      · nomatch hplace
      · have hget' := (h.directory (name :: folder)).2 hget
        exact Except.bind_eq_ok_iff.2 ⟨_, find_eq_ok_iff.2 ⟨hname, hget'⟩, hplace⟩

theorem SameDirectories.foldlM_enter (h : tree.SameDirectories tree') {names : List String}
    {start : Location} (hplace : names.foldlM tree.enter start = .ok place) :
    names.foldlM tree'.enter start = .ok place := by
  induction names generalizing start with
  | nil => exact hplace
  | cons name names ih =>
    rw [List.foldlM_cons] at hplace ⊢
    obtain ⟨next, hnext, hplace⟩ := Except.bind_eq_ok_iff.1 hplace
    exact Except.bind_eq_ok_iff.2 ⟨next, h.enter hnext, ih hplace⟩

theorem SameDirectories.locate (h : tree.SameDirectories tree') {target : Target}
    (htarget : tree.locate path = .ok target) : tree'.locate path = .ok target := by
  unfold FileTree.locate at htarget ⊢
  rw [h.workingDirectory]
  dsimp only at htarget ⊢
  -- the first checks are about the path alone
  by_cases hnul : path.contains '\x00' = true
  · rw [if_pos hnul] at htarget
    nomatch htarget
  rw [if_neg hnul] at htarget ⊢
  by_cases hempty : path = ""
  · rw [if_pos hempty] at htarget
    nomatch htarget
  rw [if_neg hempty] at htarget ⊢
  by_cases hlong : maxPathSize < path.utf8ByteSize
  · rw [if_pos hlong] at htarget
    nomatch htarget
  rw [if_neg hlong] at htarget ⊢
  generalize (if path.startsWith "/" = true then [] else tree.workingDirectory) = start
    at htarget ⊢
  generalize reversedNames path = names at htarget ⊢
  rcases names with ⟨_ | ⟨last, before⟩, slash⟩
  · exact htarget
  · obtain ⟨folder, hfolder, htarget⟩ := Except.bind_eq_ok_iff.1 htarget
    refine Except.bind_eq_ok_iff.2 ⟨folder, h.foldlM_enter hfolder, ?_⟩
    split
    · rename_i hdots
      rw [if_pos hdots] at htarget
      obtain ⟨place, hplace, htarget⟩ := Except.bind_eq_ok_iff.1 htarget
      exact Except.bind_eq_ok_iff.2 ⟨place, h.enter hplace, htarget⟩
    · rename_i hdots
      rw [if_neg hdots] at htarget
      exact htarget

/-- Where a path leads depends on the directories only. -/
theorem SameDirectories.leads_iff (h : tree.SameDirectories tree') :
    tree'.Leads path place ↔ tree.Leads path place := by
  constructor
  · intro hform
    obtain ⟨folder, name, hlocate, hname⟩ := hform
    exact ⟨folder, name, h.symm.locate hlocate, hname⟩
  · intro hform
    obtain ⟨folder, name, hlocate, hname⟩ := hform
    exact ⟨folder, name, h.locate hlocate, hname⟩

/-- A file that is put where no directory is leaves the directories as they are. -/
theorem sameDirectories_put (hplace : place ≠ []) (hfile : tree.get? place ≠ some .directory) :
    tree.SameDirectories (tree.put place (.file contents)) := by
  refine ⟨rfl, fun other => ?_⟩
  by_cases h : other = place
  · subst h
    rw [get?_put_self hplace]
    exact iff_of_false nofun hfile
  · rw [get?_put_of_ne h]

/-- Writing leaves every path where it leads. -/
theorem sameDirectories_of_write (h : tree.write path contents = .ok tree') :
    tree.SameDirectories tree' := by
  obtain ⟨place, hplace, hfile, rfl⟩ := write_eq_ok_iff.1 h
  exact sameDirectories_put hplace.ne_nil hfile

/-! ## Trees that differ in one file -/

/-- The second tree is the first one with other contents of the file at a path. -/
structure Overwrites (tree : FileTree) (path : String) (contents : Bytes) (tree' : FileTree) :
    Prop where
  workingDirectory : tree'.workingDirectory = tree.workingDirectory
  read : tree'.read path = .ok contents
  others (place : Location) (h : ¬ tree.Leads path place) : tree'.get? place = tree.get? place

/-- Writing changes the file at its path, and nothing else. -/
theorem overwrites_of_write (h : tree.write path contents = .ok tree') :
    tree.Overwrites path contents tree' := by
  have hsame := sameDirectories_of_write h
  obtain ⟨place, hplace, -, rfl⟩ := write_eq_ok_iff.1 h
  refine ⟨rfl, ?_, ?_⟩
  · exact read_eq_ok_iff.2 ⟨place, hsame.leads_iff.2 hplace, get?_put_self hplace.ne_nil⟩
  · intro other hother
    refine get?_put_of_ne ?_
    rintro rfl
    exact hother hplace

/-- Two paths that lead to different places, if they lead anywhere. -/
def Apart (tree : FileTree) (path other : String) : Prop :=
  ∀ place, tree.Leads path place → ¬ tree.Leads other place

theorem Apart.symm (h : tree.Apart path other) : tree.Apart other path :=
  fun place hother hpath => h place hpath hother

theorem SameDirectories.apart_iff (h : tree.SameDirectories tree') :
    tree'.Apart path other ↔ tree.Apart path other := by
  simp only [Apart, h.leads_iff]

/-- A path that leads to another place reads what it read before. -/
theorem read_of_write (h : tree.write path contents = .ok tree') (hapart : tree.Apart path other)
    {found : Bytes} : tree'.read other = .ok found ↔ tree.read other = .ok found := by
  have hsame := sameDirectories_of_write h
  rw [read_eq_ok_iff, read_eq_ok_iff]
  refine exists_congr fun place => ?_
  rw [hsame.leads_iff]
  refine and_congr_right fun hplace => ?_
  rw [(overwrites_of_write h).others place (hapart.symm place hplace)]

/-- What can be read can be written. -/
theorem exists_write_of_read {found : Bytes} (h : tree.read path = .ok found) (contents : Bytes) :
    ∃ tree', tree.write path contents = .ok tree' := by
  obtain ⟨place, hplace, hget⟩ := read_eq_ok_iff.1 h
  refine ⟨_, write_eq_ok_iff.2 ⟨place, hplace, ?_, rfl⟩⟩
  rw [hget]
  nofun

end SealedKey.FileTree
