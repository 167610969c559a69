import Handover.Proofs.CommandLine.Writing

/-! Files that are written more than once. Whatever has been written to a file before, what is written last
makes all that is left of it; and it is what is read back, if the file lies in the working directory. -/

set_option autoImplicit false

namespace Handover.CommandLine.Directory

variable {d e : Directory} {path : Path} {name : String} {content more : Bytes}

section Files

variable {files : List (String × Bytes)}

theorem lookup_set (files : List (String × Bytes)) (name : String) (content : Bytes) :
    (set files name content).lookup name = some content := by
  unfold set
  split
  · next there =>
    induction files with
    | nil => cases there
    | cons file rest ih =>
      obtain ⟨other, old⟩ := file
      rw [List.map_cons]
      by_cases same : other = name
      · simp [same]
      · have apart : (name == other) = false := by simpa using Ne.symm same
        rw [List.lookup_cons, apart] at there
        simpa [same, apart, List.lookup_cons] using ih there
  · next missing =>
    rw [List.lookup_append, Option.not_isSome_iff_eq_none.mp missing]
    simp

theorem map_of_missing (missing : files.lookup name = none) :
    (files.map fun (other, old) => if other = name then (other, content) else (other, old)) = files := by
  induction files with
  | nil => rfl
  | cons file rest ih =>
    obtain ⟨other, old⟩ := file
    rw [List.lookup_cons] at missing
    split at missing
    · cases missing
    · next apart =>
      have distinct : other ≠ name := fun same => by simp [same] at apart
      rw [List.map_cons, ih missing]
      simp [distinct]

theorem set_set : set (set files name content) name more = set files name more := by
  have there : ((set files name content).lookup name).isSome = true := by rw [lookup_set]; rfl
  rw [set, if_pos there]
  unfold set
  split
  · rw [List.map_map]
    refine List.map_congr_left fun file _ => ?_
    by_cases same : file.1 = name <;> simp [same]
  · next missing =>
    rw [List.map_append, map_of_missing (Option.not_isSome_iff_eq_none.mp missing)]
    simp

end Files

theorem keep_keep : (d.keep path content).keep path more = d.keep path more := by
  unfold keep
  cases inside : d.outside.inner? path with
  | none => simp [inside]
  | some inner => simp [inside, set_set]

/-- What has been written to a file makes no difference to what is written to it next. -/
theorem write_after_write (done : d.write name content = .ok e) : e.write name more = d.write name more := by
  obtain ⟨again, rewritten⟩ := Writes.keeps done more
  obtain ⟨path, led, slash, found, rfl⟩ := write_eq_ok_iff.mp done
  have alike : d.Alike (d.keep path content) := alike_keep
  rw [rewritten]
  obtain ⟨target, reached, -, -, rfl⟩ := write_eq_ok_iff.mp rewritten
  obtain rfl : path = target := by simpa [place_entry alike led] using reached
  rw [keep_keep]
  exact (write_eq_ok_iff.mpr ⟨path, led, slash, found, rfl⟩).symm

def Inside (d : Directory) (name : String) : Prop :=
  ∃ path inner, d.place name = .entry path ∧ d.outside.inner? path = some inner

theorem find_keep {inner : Path} (found : Found (d.find path))
    (inside : d.outside.inner? path = some inner) :
    (d.keep path content).find path = .ok (.file content) := by
  obtain ⟨short, other⟩ := found.plain
  have kept : d.keep path content = { d with files := set d.files (joined inner) content } := by
    rw [keep, inside]
  -- Nothing in the working directory is a file that keeps nothing.
  have keeps : path ∉ d.outside.sinks := by
    intro sink
    simp [Outside.inner?, d.outside.apart path sink] at inside
  have outside : (d.keep path content).outside = d.outside := alike_keep.1
  rw [find, if_neg short, alike_keep.isDirectory, if_neg other, outside, if_neg keeps, inside,
    Option.bind_some, kept, lookup_set]

/-- What has been written to a file in the working directory is read back. -/
theorem read_after_write (done : d.write name content = .ok e) (inside : d.Inside name) :
    e.read name = .ok content := by
  obtain ⟨path, led, slash, found, rfl⟩ := write_eq_ok_iff.mp done
  obtain ⟨target, inner, reached, inside⟩ := inside
  obtain rfl : path = target := by simpa [led] using reached
  rw [read, place_entry alike_keep led]
  simp [find_keep found inside, slash]

end Handover.CommandLine.Directory
