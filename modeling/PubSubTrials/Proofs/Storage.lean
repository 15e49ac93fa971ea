import PubSubTrials.Files.Memory
import PubSubTrials.Proofs.Encoding
import PubSubTrials.Proofs.Paths
import PubSubTrials.Report

/-!
# Stores that keep files in memory

A store keeps its files in memory (`InMemory`) if what it reads is what was written last under the
same path. A report that is saved there is read back as the text that was printed, and all other
files are as before (`read_of_save`).
-/

namespace PubSubTrials

namespace MemoryFiles

/-- A file that is written is found under every path that is the same; nothing else changes. -/
theorem lookup_put (path other : Path) (bytes : List UInt8) (files : List (Path × List UInt8)) :
    lookup other (put path bytes files) =
      if path.same other then some bytes else lookup other files := by
  induction files with
  | nil => rfl
  | cons file rest ih =>
    obtain ⟨key, old⟩ := file
    rw [put]
    -- the first file under the path is replaced where it stands
    by_cases hkey : key.same path = true
    · have hcomponents := Path.same_iff.mp hkey
      have hother : key.same other = path.same other := by
        rw [Path.same, Path.same, hcomponents]
      rw [if_pos hkey, lookup, lookup, hother]
      split <;> rfl
    · rw [if_neg hkey, lookup, lookup, ih]
      by_cases hother : key.same other = true
      · have hpath : ¬ path.same other = true := fun hsame =>
          hkey (Path.same_iff.mpr ((Path.same_iff.mp hother).trans (Path.same_iff.mp hsame).symm))
        rw [if_pos hother, if_neg hpath, if_pos hother]
      · rw [if_neg hother, if_neg hother]

/-- A text that is written is read back. -/
theorem readText_add (store : MemoryFiles) (path other : Path) (text : String) :
    (store.add path (Text.encode text.toList)).readText other =
      if path.same other then .ok text else store.readText other := by
  rw [readText, get?, add, lookup_put]
  by_cases hsame : path.same other = true
  · rw [if_pos hsame, if_pos hsame]
    dsimp only
    rw [Text.decode_encode]
    exact congrArg Except.ok String.ofList_toList
  · rw [if_neg hsame, if_neg hsame]
    rfl

/-- Directories make no difference to what is read. -/
theorem readText_addDirectory (store : MemoryFiles) (directory path : Path) :
    (store.addDirectory directory).readText path = store.readText path := by
  rw [addDirectory]
  split <;> rfl

end MemoryFiles

/-- Whether a store keeps its files in memory: in those that `memory` shows, unless it refuses a
change. -/
structure InMemory {σ : Type} [FileStore σ] (memory : σ → MemoryFiles) : Prop where
  read_eq : ∀ store path, FileStore.read store path = (memory store).readText path
  of_write : ∀ {path bytes store next}, FileStore.write path bytes store = (.ok (), next) →
    memory next = (memory store).add path bytes
  of_makeDirectory : ∀ {path store next}, FileStore.makeDirectory path store = (.ok (), next) →
    memory next = (memory store).addDirectory path

/-- Files kept in memory are a store that keeps what is written. -/
theorem inMemory_memoryFiles : InMemory (id : MemoryFiles → MemoryFiles) where
  read_eq _ _ := rfl
  of_write h := (congrArg Prod.snd h).symm
  of_makeDirectory h := (congrArg Prod.snd h).symm

theorem inMemory_guardedFiles : InMemory GuardedFiles.inside where
  read_eq _ _ := rfl
  of_write {path bytes store next} h := by
    simp only [FileStore.write] at h
    split at h
    · cases h
    · exact (congrArg (fun written => written.2.inside) h).symm
  of_makeDirectory {path store next} h := by
    simp only [FileStore.makeDirectory] at h
    split at h
    · cases h
    · exact (congrArg (fun made => made.2.inside) h).symm

namespace Report

/-- A report that was saved is read back under its path, and every other file is as before. -/
theorem read_of_save {σ : Type} [FileStore σ] {memory : σ → MemoryFiles} (h : InMemory memory)
    {report : Report} {directory path : Path} {store after : σ}
    (hsave : report.save directory store = (.ok path, after)) :
    path = pathIn directory ∧ ∀ other, FileStore.read after other =
      if path.same other then .ok report.print else FileStore.read store other := by
  rw [save] at hsave
  cases hmade : FileStore.makeDirectory directory store with
  | mk made between =>
    rw [hmade] at hsave
    cases made with
    | error error => cases hsave
    | ok _ =>
      dsimp only at hsave
      cases hwritten : FileStore.write (pathIn directory) (Text.encode report.print.toList)
          between with
      | mk written last =>
        rw [hwritten] at hsave
        cases written with
        | error error => cases hsave
        | ok _ =>
          obtain ⟨hpath, rfl⟩ := Prod.mk.inj hsave
          obtain rfl := Except.ok.inj hpath
          -- writing comes after making the directory, and neither touches another path
          refine ⟨rfl, fun other => ?_⟩
          rw [h.read_eq, h.read_eq, h.of_write hwritten, MemoryFiles.readText_add,
            h.of_makeDirectory hmade, MemoryFiles.readText_addDirectory]

end Report

end PubSubTrials
