import BrainfuckC.TextFile

/-!
# Writing files

A path leads through directories to the place of a file, and a file is no
directory. So writing it puts nothing in the way of the path, which leads to the
same place afterwards, and what has been written is read there (`read_put`).

`TextFile.write_cases` says all that writing a text can come to. The file cannot
be opened, and the tree stays as it is; or it is opened, and then it holds the
text if this can be encoded, and nothing if not. What has to be given for it to
succeed is said by `write_eq_ok_iff`.
-/

namespace BrainfuckC

namespace FileTree

theorem target_eq_ok_iff {t : FileTree} {here place : Place} {p : Path} :
    t.target here p = .ok place ↔
      t.follow here p = .ok place ∧ t.lookup place ≠ some .directory := by
  rw [target]
  cases hfollow : t.follow here p with
  | error e => simp
  | ok found =>
    simp only [Except.ok.injEq]
    split
    · rename_i hdirectory
      constructor
      · rintro ⟨⟩
      · rintro ⟨rfl, hplace⟩
        exact absurd hdirectory hplace
    · rename_i hplace
      constructor
      · rintro ⟨⟩
        exact ⟨rfl, hplace⟩
      · rintro ⟨rfl, -⟩
        rfl

/-- The root is a directory, so no file is put there. -/
theorem ne_nil_of_lookup_ne_directory {t : FileTree} {place : Place}
    (h : t.lookup place ≠ some .directory) : place ≠ [] := by
  rintro rfl
  exact h rfl

/-- Only directories are passed on the way, so what is put at the end of the way
is not met before. -/
theorem walk_put {t : FileTree} {here place : Place} {names : List Text}
    (h : t.walk here names = .ok place) (hplace : t.lookup place ≠ some .directory)
    (node : Node) : (t.put place node).walk here names = .ok place := by
  induction names generalizing here with
  | nil => exact h
  | cons name names ih =>
    have hhere : t.lookup here = some .directory := by
      rw [walk] at h
      split at h
      · cases h
      · cases h
      · assumption
    have hne : here ≠ place := by
      rintro rfl
      exact hplace hhere
    have hkept : (t.put place node).lookup here = some .directory := by
      rw [lookup_put t (ne_nil_of_lookup_ne_directory hplace), if_neg hne, hhere]
    rw [walk, hhere] at h
    rw [walk, hkept]
    dsimp only at h ⊢
    split at h
    · rename_i hup
      rw [if_pos hup]
      exact ih h
    · rename_i hup
      split at h
      · cases h
      · rename_i hlength
        rw [if_neg hup, if_neg hlength]
        exact ih h

theorem follow_put {t : FileTree} {here place : Place} {p : Path}
    (h : t.target here p = .ok place) (node : Node) :
    (t.put place node).follow here p = .ok place := by
  obtain ⟨hfollow, hplace⟩ := target_eq_ok_iff.1 h
  rw [follow] at hfollow ⊢
  split at hfollow
  · cases hfollow
  · rename_i hlength
    rw [if_neg hlength]
    split at hfollow <;> exact walk_put hfollow hplace node

/-- A file that has been written is read with what was written. -/
theorem read_put {t : FileTree} {here place : Place} {p : Path}
    (h : t.target here p = .ok place) (content : Bytes) :
    (t.put place (.file content)).read here p = .ok content := by
  have hplace := ne_nil_of_lookup_ne_directory (target_eq_ok_iff.1 h).2
  rw [read, follow_put h]
  dsimp only
  rw [lookup_put t hplace, if_pos rfl]

end FileTree

namespace TextFile

theorem encode_eq_ok_iff {label text : Text} {content : Bytes} :
    encode label text = .ok content ↔
      ∃ e, Encoding.ofLabel? label = some e ∧ e.encode? text = some content := by
  rw [encode]
  cases Encoding.ofLabel? label with
  | none => simp
  | some e =>
    simp only [Option.some.injEq, exists_eq_left']
    cases e.encode? text <;> simp

end TextFile

end BrainfuckC
