import Handover.CommandLine.Directory

/-! Files that can be written. What is written to a file changes no directory, so a name that led to the file
once leads there again, and the file can be written again. -/

set_option autoImplicit false

namespace Handover.CommandLine.Directory

/-- Whatever is to be written to the file of this name, it can be. -/
def Writes (d : Directory) (name : String) : Prop :=
  ∀ content, ∃ written, d.write name content = .ok written

variable {d e : Directory} {path : Path} {name : String} {content : Bytes}

/-- The same directories, inside and outside. -/
def Alike (d e : Directory) : Prop := e.outside = d.outside ∧ e.directories = d.directories

theorem alike_keep : d.Alike (d.keep path content) := by
  unfold keep
  split <;> exact ⟨rfl, rfl⟩

/-- A file to write to: one that is there, or one that is not there yet. -/
inductive Found (found : Except FileError Node) : Prop where
  | file {content : Bytes} : found = .ok (.file content) → Found found
  | missing : found = .error .notFound → Found found

theorem Found.plain (found : Found (d.find path)) :
    ¬ path.any (longestPart < ·.utf8ByteSize) ∧ ¬ d.isDirectory path := by
  have short : ¬ path.any (longestPart < ·.utf8ByteSize) := by
    intro long
    rw [find, if_pos long] at found
    cases found <;> next other => cases other
  refine ⟨short, fun there => ?_⟩
  rw [find, if_neg short, if_pos there] at found
  cases found <;> next other => cases other

section Alike

variable (alike : d.Alike e)

include alike

theorem Alike.isDirectory (path : Path) : e.isDirectory path = d.isDirectory path := by
  obtain ⟨outside, directories⟩ := alike
  have holds : e.holds = d.holds := by
    funext inner
    rw [Directory.holds, directories]
    rfl
  rw [Directory.isDirectory, Directory.isDirectory, outside, holds]

theorem find_directory (found : d.find path = .ok .directory) : e.find path = .ok .directory := by
  unfold find at found ⊢
  rw [alike.isDirectory]
  split at found
  · cases found
  · next short =>
    rw [if_neg short]
    split at found
    · next there => rw [if_pos there]
    · split at found
      · cases found
      · split at found <;> cases found

theorem find_file (found : Found (d.find path)) : Found (e.find path) := by
  obtain ⟨short, other⟩ := found.plain
  rw [find, if_neg short, alike.isDirectory, if_neg other]
  split
  · exact .file rfl
  · split
    · exact .file rfl
    · exact .missing rfl

theorem walk_entry {parts : List String} {last : Path} (led : d.walk path parts = .entry last) :
    e.walk path parts = .entry last := by
  induction parts generalizing path with
  | nil => cases led
  | cons part rest ih =>
    unfold walk at led ⊢
    split at led
    · next here =>
      rw [if_pos here]
      exact ih led
    · next below =>
      rw [if_neg below]
      split at led
      · next up =>
        rw [if_pos up]
        exact ih led
      · next down =>
        rw [if_neg down]
        split at led
        · next final => rwa [if_pos final]
        · next on =>
          rw [if_neg on]
          cases found : d.find (path ++ [part]) with
          | error => simp [found] at led
          | ok node =>
            cases node with
            | file => simp [found] at led
            | directory =>
              rw [find_directory alike found]
              exact ih (by simpa [found] using led)

theorem place_entry (led : d.place name = .entry path) : e.place name = .entry path := by
  unfold place at led ⊢
  split at led
  · cases led
  · next named =>
    rw [if_neg named]
    split at led
    · cases led
    · next filled =>
      rw [if_neg filled]
      split at led
      · cases led
      · next short =>
        rw [if_neg short, alike.1]
        exact walk_entry alike led

end Alike

theorem write_eq_ok_iff {written : Directory} :
    d.write name content = .ok written ↔
      ∃ path, d.place name = .entry path ∧ endsInSlash name = false ∧ Found (d.find path) ∧
        d.keep path content = written := by
  unfold write
  constructor
  · intro done
    split at done
    · cases done
    · cases done
    · next path led =>
      split at done
      · cases done
      · next slash =>
        refine ⟨path, led, by simpa using slash, ?_⟩
        split at done
        · cases done
        · next found =>
          cases done
          exact ⟨.file found, rfl⟩
        · next found =>
          cases done
          exact ⟨.missing found, rfl⟩
        · cases done
  · rintro ⟨path, led, slash, found, rfl⟩
    rw [led]
    cases found <;> next found => simp [slash, found]

theorem Writes.keeps {written : Directory} (done : d.write name content = .ok written) :
    written.Writes name := by
  intro other
  obtain ⟨path, led, slash, found, rfl⟩ := write_eq_ok_iff.mp done
  have alike : d.Alike (d.keep path content) := alike_keep
  exact ⟨_, write_eq_ok_iff.mpr ⟨path, place_entry alike led, slash, find_file alike found, rfl⟩⟩

end Handover.CommandLine.Directory
