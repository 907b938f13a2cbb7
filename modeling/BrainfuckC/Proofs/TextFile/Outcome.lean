import BrainfuckC.Proofs.Encoding.WellFormed
import BrainfuckC.Proofs.FileTree.Writing

/-!
# What a write leaves

Whether a file can be opened for writing is a matter of its path and the tree
(`TextFile.Opens`). If it cannot, the tree stays as it is, and the error is the same
whatever was to be written. If it can, it is empty from then on, and what comes next
decides whether it stays so: the encoding has to be known and to have every character
of the text. A text is encoded as a whole, so no part of it is ever left behind.

Only a null character in the label comes before all this. The system is not even asked
to open the file then, although it would have opened it under another label
(`TextFile.write_null_label_opens_nothing`).
-/

namespace BrainfuckC

namespace TextFile

/-- A path that a file can be written to, and the place that it leads to. -/
structure Opens (t : FileTree) (here : Place) (p : Path) (place : Place) : Prop where
  null_not_mem : ∀ c ∈ p.components, '\x00' ∉ c
  target : t.target here p = .ok place

variable {t : FileTree} {here place : Place} {p : Path} {label text : Text}

theorem hasNull_eq_false_iff :
    hasNull p label = false ↔ '\x00' ∉ label ∧ ∀ c ∈ p.components, '\x00' ∉ c := by
  simp [hasNull]

namespace Opens

theorem follow (h : Opens t here p place) : t.follow here p = .ok place :=
  (FileTree.target_eq_ok_iff.1 h.target).1

theorem ne_nil (h : Opens t here p place) : place ≠ [] :=
  FileTree.ne_nil_of_lookup_ne_directory (FileTree.target_eq_ok_iff.1 h.target).2

theorem write_of_encode_eq_ok (h : Opens t here p place) (hlabel : '\x00' ∉ label)
    {content : Bytes} (hencode : encode label text = .ok content) :
    write t here p label text = (.ok (), t.put place (.file content)) := by
  have hnull : hasNull p label = false := hasNull_eq_false_iff.2 ⟨hlabel, h.null_not_mem⟩
  rw [write, hnull, if_neg Bool.false_ne_true, h.target]
  dsimp only
  rw [hencode]

end Opens

end TextFile

end BrainfuckC
