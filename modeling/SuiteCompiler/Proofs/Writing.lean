/-
  SuiteCompiler/Proofs/Writing.lean
  =================================
  The files after one of them was written.

  A file is put in the place where its path leads, after the directories on the way
  were made (`write_eq_ok_iff`).  Whatever is made, no directory is lost (`Keeps`), so
  the way that was taken then can be taken again, and the path leads to what was written
  (`Receives.of_write`).  Every other place holds what it held before.
-/
import Mathlib.Data.List.Basic
import SuiteCompiler.Project.Files
import SuiteCompiler.Proofs.Outcome
import SuiteCompiler.Template.Schema

namespace SuiteCompiler

open Outcome

namespace Files

variable {files files' made final : Files} {p place directory : Path} {content : List UInt8}

/-! ### One more file -/

/-- The files with a content at a place, instead of what was there. -/
def put (files : Files) (place : Path) (content : List UInt8) : Files :=
  { files with contents := (place, content) :: files.contents.filter (·.1 ≠ place) }

theorem contentAt?_put_self : (files.put place content).contentAt? place = some content := by
  simp [put, contentAt?]

theorem contentAt?_put_of_ne {other : Path} (h : other ≠ place) :
    (files.put place content).contentAt? other = files.contentAt? other := by
  have hb : (other == place) = false := by simpa using h
  simp only [put, contentAt?, List.lookup_cons, hb, lookup_filter_ne h]

/-! ### Directories -/

/-- The directories of one collection are there in another. -/
def Keeps (files files' : Files) : Prop :=
  ∀ place, files.isDirectory place = true → files'.isDirectory place = true

theorem Keeps.refl (files : Files) : files.Keeps files := fun _ h => h

theorem Keeps.trans (h : files.Keeps made) (h' : made.Keeps final) : files.Keeps final :=
  fun place hplace => h' place (h place hplace)

theorem isDirectory_iff : files.isDirectory place = true ↔
    (∀ name ∈ place.names, name = "..") ∨ place ∈ files.directories ∨
      (∃ d ∈ files.directories, isBelow d place = true) ∨
      ∃ entry ∈ files.contents, isBelow entry.1 place = true := by
  simp only [isDirectory, Bool.or_eq_true, List.all_eq_true, decide_eq_true_eq,
    List.contains_iff_mem, List.any_eq_true, or_assoc]

/-- A directory is there for what is known of the paths of files and of directories. -/
theorem keeps_of_subset (hdirectories : ∀ d ∈ files.directories, d ∈ files'.directories)
    (hcontents : ∀ entry ∈ files.contents, ∃ entry' ∈ files'.contents, entry'.1 = entry.1) :
    files.Keeps files' := by
  intro place hplace
  rw [isDirectory_iff] at hplace ⊢
  rcases hplace with hstart | hmade | ⟨d, hd, hbelow⟩ | ⟨entry, hentry, hbelow⟩
  · exact Or.inl hstart
  · exact Or.inr (Or.inl (hdirectories place hmade))
  · exact Or.inr (Or.inr (Or.inl ⟨d, hdirectories d hd, hbelow⟩))
  · obtain ⟨entry', hentry', hpath⟩ := hcontents entry hentry
    exact Or.inr (Or.inr (Or.inr ⟨entry', hentry', hpath ▸ hbelow⟩))

theorem keeps_put (files : Files) (place : Path) (content : List UInt8) :
    files.Keeps (files.put place content) := by
  refine keeps_of_subset (fun d hd => hd) ?_
  intro entry hentry
  by_cases hpath : entry.1 = place
  · exact ⟨(place, content), List.mem_cons_self, hpath.symm⟩
  · refine ⟨entry, List.mem_cons_of_mem _ ?_, rfl⟩
    rw [List.mem_filter]
    exact ⟨hentry, by simpa using hpath⟩

/-- One more directory. -/
theorem keeps_addDirectory (files : Files) (d : Path) :
    files.Keeps { files with directories := d :: files.directories } :=
  keeps_of_subset (fun _ hd => List.mem_cons_of_mem d hd) fun entry hentry => ⟨entry, hentry, rfl⟩

theorem makeDirectories_keeps {names : List String}
    (h : files.makeDirectories place names = .ok (made, directory)) :
    made.contents = files.contents ∧ files.Keeps made := by
  induction names generalizing files place with
  | nil =>
    obtain ⟨rfl, -⟩ := Prod.mk.inj (Except.ok.inj h)
    exact ⟨rfl, Keeps.refl files⟩
  | cons name names ih =>
    rw [makeDirectories] at h
    split at h
    · cases h
    split at h
    · exact ih h
    split at h
    · cases h
    · obtain ⟨hcontents, hkeeps⟩ := ih h
      exact ⟨hcontents, (keeps_addDirectory files _).trans hkeeps⟩

/-- The way along which directories were made can be taken as long as they are there. -/
theorem walk_of_makeDirectories {names : List String}
    (h : files.makeDirectories place names = .ok (made, directory))
    (hplace : files.isDirectory place = true) (hfinal : made.Keeps final) :
    final.walk place names = .ok directory ∧ final.isDirectory directory = true := by
  induction names generalizing files place with
  | nil =>
    obtain ⟨rfl, rfl⟩ := Prod.mk.inj (Except.ok.inj h)
    exact ⟨rfl, hfinal _ hplace⟩
  | cons name names ih =>
    have hhere : final.isDirectory place = true :=
      hfinal _ ((makeDirectories_keeps h).2 _ hplace)
    rw [makeDirectories] at h
    split at h
    · cases h
    · next hshort =>
      rw [walk, hhere, if_neg (by simp), if_neg hshort]
      split at h
      · next hnext => exact ih h hnext
      split at h
      · cases h
      · exact ih h (isDirectory_iff.2 (Or.inr (Or.inl List.mem_cons_self)))

theorem walk_append (files : Files) (place : Path) (names more : List String) :
    files.walk place (names ++ more) =
      (files.walk place names >>= fun p => files.walk p more) := by
  induction names generalizing place with
  | nil => rfl
  | cons name names ih =>
    rw [List.cons_append, walk, walk]
    split
    · rfl
    split
    · rfl
    · exact ih _

/-! ### Writing -/

/-- A path can be written to. -/
def IsWritable (files : Files) (p : Path) : Prop :=
  ∃ content placed, files.write p content = .ok placed

/-- A file is written if no name and no path on the way is too long, the directories can be made,
and there is none in its place; it is put there. -/
theorem write_eq_ok_iff {placed : Files × Path} :
    files.write p content = .ok placed ↔
      p.parent.isLong = false ∧ p.isLong = false ∧ ∃ made directory name,
        files.makeDirectories { p with names := [] } p.names.dropLast = .ok (made, directory) ∧
        p.names.getLast? = some name ∧ Path.isLongName name = false ∧
        made.isDirectory (advance directory name) = false ∧
        placed = (made.put (advance directory name) content, advance directory name) := by
  unfold write
  cases hparent : p.parent.isLong with
  | true => simp [throw, throwThe, MonadExceptOf.throw]
  | false =>
    simp only [Bool.false_eq_true, if_false, bind_eq_ok_iff, true_and]
    constructor
    · rintro ⟨⟨made, directory⟩, hmade, h⟩
      split at h
      · cases h
      next name hname =>
        split at h
        · cases h
        next hshort =>
          split at h
          · cases h
          next hfree =>
            obtain ⟨hlong, hname'⟩ : p.isLong = false ∧ Path.isLongName name = false := by
              simpa using hshort
            exact ⟨hlong, made, directory, name, hmade, hname, hname', by simpa using hfree,
              (Except.ok.inj h).symm⟩
    · rintro ⟨hlong, made, directory, name, hmade, hname, hname', hfree, rfl⟩
      exact ⟨(made, directory), hmade, by simp [hname, hlong, hname', hfree, put]⟩

theorem IsWritable.exists_write (h : files.IsWritable p) (content : List UInt8) :
    ∃ placed, files.write p content = .ok placed := by
  obtain ⟨content', placed, hwrite⟩ := h
  obtain ⟨hparent, hlong, made, directory, name, hmade, hname, hname', hfree, -⟩ :=
    write_eq_ok_iff.1 hwrite
  exact ⟨_, write_eq_ok_iff.2 ⟨hparent, hlong, made, directory, name, hmade, hname, hname', hfree,
    rfl⟩⟩

/-- A path leads to a file with a content, and in every place that it does not lead to there is what
was there before. -/
structure Receives (before after : Files) (p : Path) (content : List UInt8) : Prop where
  content : after.read p = .ok content
  others : ∀ other, after.resolve p ≠ .ok other → after.contentAt? other = before.contentAt? other

/-- What is written to a path is what the path leads to. -/
theorem Receives.of_write (hnul : ∀ name ∈ p.names, Path.hasNul name = false)
    (h : files.write p content = .ok (files', place)) : files.Receives files' p content := by
  obtain ⟨-, hlong, made, directory, name, hmade, hname, hname', hfree, hplaced⟩ :=
    write_eq_ok_iff.1 h
  obtain ⟨rfl, rfl⟩ := Prod.mk.inj hplaced
  obtain ⟨hcontents, -⟩ := makeDirectories_keeps hmade
  have hnames : p.names.dropLast ++ [name] = p.names :=
    List.dropLast_append_getLast? name (Option.mem_def.2 hname)
  -- the way to the directory is still there, and from there it is one name to the file
  obtain ⟨hwalk, hdirectory⟩ := walk_of_makeDirectories hmade
    (isDirectory_iff.2 (Or.inl (List.forall_mem_nil _)))
    (keeps_put made (advance directory name) content)
  have hway : (made.put (advance directory name) content).walk { p with names := [] } p.names =
      .ok (advance directory name) := by
    rw [← hnames, walk_append, hwalk, ok_bind, walk, hdirectory, hname']
    rfl
  have hresolve : (made.put (advance directory name) content).resolve p =
      .ok (advance directory name) := by
    have hany : p.names.any Path.hasNul = false := by simpa using hnul
    rw [resolve, hany, hlong]
    exact hway
  constructor
  · rw [read, hresolve, ok_bind, contentAt?_put_self]
    rfl
  · intro other hother
    have hne : other ≠ advance directory name := by
      rintro rfl
      exact hother hresolve
    rw [contentAt?_put_of_ne hne, contentAt?, hcontents, contentAt?]

end Files

end SuiteCompiler
