import Mathlib.Data.List.Basic
import OperatorPrecedence.Directory

/-!
What writing a file does to a directory.  A file put at a path has its new text
whole, every other file is as before, and the path that led to its place leads to
the file from then on.  So directories are a lawful file system.
-/

namespace OperatorPrecedence

namespace Directory

variable {α : Type}

/-- The place of a file that is there or can be made. -/
def Place.path? : Place → Option (List String)
  | .file path | .vacant path => some path
  | .directory => none

theorem lookup_replace (files : List (List String × α)) (path other : List String)
    (content : α) :
    (files.map fun file => if file.1 = path then (path, content) else file).lookup other =
      if other = path then (files.lookup path).map fun _ => content else files.lookup other := by
  induction files with
  | nil => simp
  | cons file files ih =>
      obtain ⟨name, old⟩ := file
      by_cases hname : name = path
      · by_cases hother : other = path
        · simp [hname, hother]
        · rw [if_neg hother] at ih ⊢
          simp [hname, List.lookup_cons, beq_eq_false_iff_ne.mpr hother, ih]
      · by_cases hother : other = name
        · simp [hname, hother]
        · by_cases hpath : other = path
          · rw [if_pos hpath] at ih ⊢
            simp [hname, List.lookup_cons, hpath, beq_eq_false_iff_ne.mpr (Ne.symm hname), ← ih]
          · rw [if_neg hpath] at ih ⊢
            simp [hname, List.lookup_cons, beq_eq_false_iff_ne.mpr hother, ih]

theorem content?_put (directory : Directory α) (path other : List String) (content : α) :
    (directory.put path content).content? other =
      if other = path then some content else directory.content? other := by
  unfold put
  split
  · rename_i hthere
    obtain ⟨old, hold⟩ := Option.isSome_iff_exists.mp hthere
    rw [content?] at hold
    rw [content?, lookup_replace, hold]
    rfl
  · rename_i hmissing
    rw [Option.not_isSome_iff_eq_none, content?] at hmissing
    rw [content?, List.lookup_append]
    by_cases hother : other = path
    · simp [hother, hmissing]
    · simp [hother, content?, List.lookup_cons, beq_eq_false_iff_ne.mpr hother]

theorem isSubdirectory_put {directory : Directory α} {base : List String}
    (hbase : directory.isSubdirectory base = true) (path : List String) (content : α) :
    (directory.put path content).isSubdirectory base = true := by
  rw [isSubdirectory, List.any_eq_true] at hbase ⊢
  obtain ⟨file, hfile, hunder⟩ := hbase
  unfold put
  split
  · refine ⟨_, List.mem_map_of_mem hfile, ?_⟩
    split
    · rename_i hpath
      rwa [← hpath]
    · exact hunder
  · exact ⟨file, List.mem_append_left _ hfile, hunder⟩

theorem locateOutside_path? {names : List String} {found : Place}
    (hfound : locateOutside names = .ok found) : found.path? = none := by
  induction names with
  | nil =>
      cases hfound
      rfl
  | cons name names ih =>
      rw [locateOutside] at hfound
      split at hfound
      · exact ih hfound
      · split at hfound <;> cases hfound

/-- Where a path leads to the place of a file, no subdirectory is in the way. -/
theorem locateFrom_path? {directory : Directory α} {base names place : List String}
    {found : Place} (hfound : directory.locateFrom base names = .ok found)
    (hplace : found.path? = some place) :
    (directory.content? place).isSome ∨ directory.isSubdirectory place = false := by
  fun_induction locateFrom directory base names with
  | case1 base =>
      cases hfound
      cases hplace
  | case2 base name names hstay ih => exact ih hfound
  | case3 names hup =>
      rw [locateOutside_path? hfound] at hplace
      cases hplace
  | case4 base names hbase hup ih => exact ih hfound
  | case5 | case7 | case10 => cases hfound
  | case6 base name hstay hup hlong path hthere =>
      cases hfound
      obtain rfl : path = place := Option.some.inj hplace
      exact Or.inl hthere
  | case8 base name names hstay hup hlong path hmissing hsub ih => exact ih hfound
  | case9 base name hstay hup hlong path hmissing hsub =>
      cases hfound
      obtain rfl : path = place := Option.some.inj hplace
      exact Or.inr (Bool.eq_false_iff.mpr hsub)

/-- Putting a file at the place to which a path leads makes the path lead to the
file: the subdirectories on the way are still there, and none of them is the
place itself. -/
theorem locateFrom_put {directory : Directory α} {base names place : List String}
    {found : Place} (hfound : directory.locateFrom base names = .ok found)
    (hplace : found.path? = some place) (content : α) :
    (directory.put place content).locateFrom base names = .ok (.file place) := by
  fun_induction locateFrom directory base names with
  | case1 base =>
      cases hfound
      cases hplace
  | case2 base name names hstay ih =>
      rw [locateFrom, if_pos hstay]
      exact ih hfound
  | case3 names hup =>
      rw [locateOutside_path? hfound] at hplace
      cases hplace
  | case4 base names hbase hup ih =>
      rw [locateFrom, if_neg hup, if_pos rfl, if_neg hbase]
      exact ih hfound
  | case5 | case7 | case10 => cases hfound
  | case6 base name hstay hup hlong path hthere =>
      cases hfound
      obtain rfl : path = place := Option.some.inj hplace
      rw [locateFrom, if_neg hstay, if_neg hup, if_neg hlong]
      simp [content?_put, path]
  | case8 base name names hstay hup hlong path hmissing hsub ih =>
      -- the place is no subdirectory on the way, so the way is as before
      have hne : path ≠ place := by
        rintro rfl
        rcases locateFrom_path? hfound hplace with hthere | hfree
        · exact hmissing hthere
        · simp [hsub] at hfree
      have hkept : ¬ ((directory.put place content).content? path).isSome = true := by
        rwa [content?_put, if_neg hne]
      rw [locateFrom, if_neg hstay, if_neg hup, if_neg hlong]
      dsimp only
      rw [if_neg hkept, if_pos (isSubdirectory_put hsub place content)]
      exact ih hfound
  | case9 base name hstay hup hlong path hmissing hsub =>
      cases hfound
      obtain rfl : path = place := Option.some.inj hplace
      rw [locateFrom, if_neg hstay, if_neg hup, if_neg hlong]
      simp [content?_put, path]

theorem locate_put {directory : Directory α} {path : String} {found : Place}
    {place : List String} (hfound : directory.locate path = .ok found)
    (hplace : found.path? = some place) (content : α) :
    (directory.put place content).locate path = .ok (.file place) := by
  unfold locate at hfound ⊢
  split at hfound
  · cases hfound
  · rename_i hshort
    rw [if_neg hshort]
    split at hfound
    · cases hfound
    · rw [locateOutside_path? hfound] at hplace
      cases hplace
    · exact locateFrom_put hfound hplace content

/-- A write succeeds where the path leads to a place for a file, and puts the text
there. -/
theorem write_eq_ok_iff [FileContent α] (directory : Directory α) (path text : String)
    (changed : Directory α) :
    directory.write path text = .ok changed ↔
      ∃ found place, directory.locateTarget path = .ok found ∧ found.path? = some place ∧
        changed = directory.put place (FileContent.ofText text) := by
  unfold write
  split
  · rename_i error herror
    simp [herror]
  · rename_i hdirectory
    simp [hdirectory, Place.path?]
  · rename_i place hvacant
    simp [hvacant, Place.path?, eq_comm]
  · rename_i place hfile
    simp [hfile, Place.path?, eq_comm]

/-- A path whose last name is a dot leads to a directory. -/
theorem locateFrom_dot {directory : Directory α} {base names : List String} {found : Place}
    (hfound : directory.locateFrom base (names ++ ["."]) = .ok found) : found.path? = none := by
  induction names generalizing base with
  | nil =>
      simp only [List.nil_append, locateFrom, or_true, if_true] at hfound
      cases hfound
      rfl
  | cons name names ih =>
      rw [List.cons_append, locateFrom] at hfound
      have hrest : names ++ ["."] ≠ [] := by simp
      simp only [hrest, if_false] at hfound
      split at hfound
      · exact ih hfound
      · split at hfound
        · split at hfound
          · exact locateOutside_path? hfound
          · exact ih hfound
        · split at hfound
          · cases hfound
          · split at hfound
            · cases hfound
            · split at hfound
              · exact ih hfound
              · cases hfound

/-- The last name of a path that ends in a slash gives way to a dot. -/
theorem splitOn_withoutLastName (path : String) :
    ∃ names, ((withoutLastName path).toList.splitOn '/').map String.ofList =
      names ++ ["."] := by
  rw [withoutLastName, String.toList_append, String.toList_ofList]
  generalize path.toList.reverse.dropWhile (· = '/') = bare
  cases hrest : bare.dropWhile (· ≠ '/') with
  | nil => exact ⟨[], by decide⟩
  | cons c rest =>
      have hslash : c = '/' := by
        have hne : bare.dropWhile (· ≠ '/') ≠ [] := by rw [hrest]; exact List.cons_ne_nil _ _
        have hhead := List.head_dropWhile_not (· ≠ '/') hne
        simp only [hrest, List.head_cons] at hhead
        simpa using hhead
      subst hslash
      refine ⟨(rest.reverse.splitOn '/').map String.ofList, ?_⟩
      rw [List.reverse_cons, List.append_assoc, List.singleton_append,
        List.splitOn_append_cons_self, List.map_append]
      rfl

theorem locate_withoutLastName {directory : Directory α} {path : String} {found : Place}
    (hfound : directory.locate (withoutLastName path) = .ok found) : found.path? = none := by
  obtain ⟨names, hnames⟩ := splitOn_withoutLastName path
  rw [locate, hnames] at hfound
  split at hfound
  · cases hfound
  · split at hfound
    · cases hfound
    · exact locateOutside_path? hfound
    · exact locateFrom_dot hfound

/-- A path that leads to the place of a file that is to be written leads there
also when the file is read. -/
theorem locate_of_locateTarget {directory : Directory α} {path : String} {found : Place}
    {place : List String} (hfound : directory.locateTarget path = .ok found)
    (hplace : found.path? = some place) : directory.locate path = .ok found := by
  unfold locateTarget at hfound
  split at hfound
  · rw [locate_withoutLastName hfound] at hplace
    cases hplace
  · exact hfound

/-- The file at the path of a text that was written holds the text, and no other file
has changed. -/
theorem written_put [FileContent α] {directory : Directory α} {path : String} {found : Place}
    {place : List String} (hfound : directory.locateTarget path = .ok found)
    (hplace : found.path? = some place) (text : String) :
    FileSystem.Written directory (directory.put place (FileContent.ofText text)) path text
      place := by
  have hlocate := locate_of_locateTarget hfound hplace
  constructor
  · simp only [FileSystem.file?, locate_put hlocate hplace]
  · intro old hold
    simp only [FileSystem.file?, hlocate] at hold
    cases found with
    | file path => exact (Option.some.inj hold).symm.trans (Option.some.inj hplace)
    | vacant path | directory => cases hold
  · simp [FileSystem.content?, content?_put, FileContent.bytes_ofText]
  · intro other hother
    simp [FileSystem.content?, content?_put, hother]

end Directory

instance {α : Type} [FileContent α] : LawfulFileSystem (Directory α) where
  of_write_error {files changed path text error} hwrite := by
    simp only [FileSystem.write] at hwrite
    split at hwrite
    · exact (congrArg Prod.snd hwrite).symm
    · cases hwrite
  of_write_ok {files changed path text} hwrite := by
    simp only [FileSystem.write] at hwrite
    split at hwrite
    · cases hwrite
    · rename_i written hwritten
      obtain ⟨found, place, hfound, hplace, rfl⟩ :=
        (files.write_eq_ok_iff path text written).mp hwritten
      obtain rfl := congrArg Prod.snd hwrite
      exact ⟨place, Directory.written_put hfound hplace text⟩

end OperatorPrecedence
