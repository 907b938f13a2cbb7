import BrainfuckC.Proofs.Emission.Depth
import BrainfuckC.Proofs.SourceFile.Stored
import BrainfuckC.Proofs.TextFile.Outcome

/-!
# Compilations are plain text

Nothing of what a source says in its comments gets into its code. The code is made of the
preface and of the eight statements, and these are written in printable characters of
ASCII, so no encoding lacks a character of it. Those encodings that put no mark in front
of a text write the code as the same bytes, one for each character, and each of them reads
what another one has written.

What is left that can keep a compilation from being written is its path
(`compilation_written_alike`).
-/

namespace BrainfuckC

namespace Code

/-- The characters that code is written in: those of ASCII that are printed, and the line
feed. -/
def isPlain (c : Char) : Bool := c = '\n' || 0x20 ≤ c.toNat && c.toNat < 0x7f

theorem toNat_lt_of_isPlain {c : Char} (h : isPlain c) : c.toNat < 0x80 := by
  simp only [isPlain, Bool.or_eq_true, Bool.and_eq_true, decide_eq_true_eq] at h
  rcases h with rfl | ⟨-, h⟩
  · decide
  · omega

theorem ne_return_of_isPlain {c : Char} (h : isPlain c) : c ≠ '\r' := by
  rintro rfl
  exact absurd h (by decide)

theorem all_isPlain_statement (o : Op) : o.statement.all isPlain := by
  cases o <;> decide

theorem all_isPlain_line (n : Nat) (o : Op) : (line n o.statement).all isPlain := by
  have hblanks : (List.replicate (4 * n) ' ').all isPlain := by
    rw [List.all_eq_true]
    intro c hc
    rw [List.eq_of_mem_replicate hc]
    rfl
  rw [line, List.all_append, hblanks, all_isPlain_statement]
  rfl

end Code

namespace Program

theorem exists_eq_line_of_mem_codeLines {d : Int} {p : Program} {l : Text}
    (h : l ∈ p.codeLines d) : ∃ (n : Nat) (o : Op), l = Code.line n o.statement := by
  rw [codeLines_eq_mapIdx, List.mem_mapIdx] at h
  obtain ⟨n, hn, rfl⟩ := h
  exact ⟨_, _, rfl⟩

theorem all_isPlain_code (d : Int) (p : Program) : (p.code d).all Code.isPlain := by
  rw [code_eq_closedLines, Text.closedLines, List.all_flatMap, List.all_eq_true]
  intro l hl
  obtain ⟨n, o, rfl⟩ := exists_eq_line_of_mem_codeLines hl
  rw [List.all_append, Code.all_isPlain_line]
  rfl

/-- A plain preface and any program make a plain text. -/
theorem all_isPlain_render {preface : Text} (hpreface : preface.all Code.isPlain)
    (p : Program) : (p.render preface).all Code.isPlain := by
  rw [render, List.all_append, List.all_append, hpreface, all_isPlain_code]
  rfl

end Program

/-- An indented statement is read in one way only. -/
theorem Op.statement_eq_of_indented_eq {m n : Nat} {o p : Op}
    (h : List.replicate m ' ' ++ o.statement = List.replicate n ' ' ++ p.statement) :
    m = n ∧ o.statement = p.statement := by
  have hstatement : o.statement = p.statement := by
    rw [← o.dropWhile_blanks_append m, h, p.dropWhile_blanks_append]
  have hlength := congrArg List.length h
  rw [List.length_append, List.length_append, List.length_replicate, List.length_replicate,
    hstatement] at hlength
  exact ⟨Nat.add_right_cancel hlength, hstatement⟩

namespace Encoding

theorem charBytes_of_ascii (e : Encoding) {c : Char} (h : c.toNat < 0x80) :
    e.charBytes c = [UInt8.ofNat c.toNat] := by
  have hutf8 : String.utf8EncodeChar c = [UInt8.ofNat c.toNat] := by
    rw [String.utf8EncodeChar]
    exact if_pos (Nat.le_of_lt_succ h)
  cases e with
  | utf8 => exact hutf8
  | markedUtf8 => exact hutf8
  | ascii => rfl
  | latin1 => rfl

theorem has_of_ascii (e : Encoding) {c : Char} (h : c.toNat < 0x80) : e.Has c := by
  cases e with
  | utf8 => trivial
  | markedUtf8 => trivial
  | ascii => exact h
  | latin1 => exact h.trans (by decide)

/-- A text in ASCII is the same file in every encoding that has no mark. -/
theorem encode?_of_ascii {e : Encoding} (he : e ≠ markedUtf8) {t : Text}
    (h : ∀ c ∈ t, c.toNat < 0x80) : e.encode? t = some (t.map fun c => UInt8.ofNat c.toNat) := by
  have hmark : e.mark = [] := by
    cases e with
    | markedUtf8 => exact absurd rfl he
    | utf8 | ascii | latin1 => rfl
  rw [encode?_eq_some_iff, hmark, List.nil_append, List.map_eq_flatMap]
  exact ⟨fun c hc => e.has_of_ascii (h c hc),
    (List.flatMap_congr fun c hc => e.charBytes_of_ascii (h c hc)).symm⟩

end Encoding

namespace TextFile

/-- A plain text is written as the same bytes whatever the encoding, and read back from
them. -/
theorem Opens.write_of_plain {t : FileTree} {here place : Place} {p : Path}
    (h : Opens t here p place) {text : Text} (htext : text.all Code.isPlain)
    {label : Text} (hlabel : '\x00' ∉ label) {e : Encoding}
    (he : Encoding.ofLabel? label = some e) (hmark : e ≠ .markedUtf8) :
    let left := t.put place (.file (text.map fun c => UInt8.ofNat c.toNat))
    write t here p label text = (.ok (), left) ∧ read left here p label = .ok text := by
  intro left
  rw [List.all_eq_true] at htext
  have hbytes := Encoding.encode?_of_ascii hmark fun c hc =>
    Code.toNat_lt_of_isPlain (htext c hc)
  have hwrite : write t here p label text = (.ok (), left) :=
    h.write_of_encode_eq_ok hlabel (encode_eq_ok_iff.2 ⟨e, he, hbytes⟩)
  have hreturn : '\r' ∉ text := fun hr => Code.ne_return_of_isPlain (htext _ hr) rfl
  have hstored : Stored left here p label e _ :=
    ⟨he, hasNull_eq_false_iff.2 ⟨hlabel, h.null_not_mem⟩, FileTree.read_put h.target _⟩
  refine ⟨hwrite, ?_⟩
  rw [hstored.read_of_encode? hbytes, Text.withLineFeeds_of_not_mem hreturn]

end TextFile

/-- A compilation is plain text, and it is written and read alike in all encodings without
a mark.

Behind the preface, each line of the code consists of blanks and one of the eight
statements, and of nothing else; the last line is the brace that closes `main`. All
characters are those of ASCII. So wherever a file can be opened, the code is written to it
under each of the three labels, with the same bytes, and the code is what is then read
under each of them. -/
theorem compilation_written_alike {o : Options} {s : Text} {made : Compilation}
    (h : Compilation.ofText o s = .ok made) :
    let statements : List Text :=
      ["(*ptr)++;".toList, "(*ptr)--;".toList, "ptr++;".toList, "ptr--;".toList,
        "*ptr = getchar();".toList, "putchar(*ptr);".toList, "while (*ptr) \x7b".toList,
        "\x7d".toList]
    let labels : List Text := ["utf-8".toList, "ascii".toList, "latin-1".toList]
    (∃ body : List Text,
      made.code = Code.preface ++ Text.closedLines (body ++ ["\x7d".toList]) ∧
      ∀ l ∈ body, ∃! x : Nat × Text, x.2 ∈ statements ∧ l = List.replicate x.1 ' ' ++ x.2) ∧
    (∀ c ∈ made.code, c.toNat < 0x80) ∧
    ∀ (t : FileTree) (here : Place) (p : Path) (place : Place),
      TextFile.Opens t here p place →
      ∃ left : FileTree,
        left.lookup place = some (.file (made.code.map fun c => UInt8.ofNat c.toNat)) ∧
        ∀ label ∈ labels, TextFile.write t here p label made.code = (.ok (), left) ∧
          TextFile.read left here p label = .ok made.code := by
  intro statements labels
  obtain ⟨-, rfl⟩ := Compilation.ofText_eq_ok_iff.1 h
  have hplain : ((Program.ofText s).render Code.preface).all Code.isPlain :=
    Program.all_isPlain_render (by decide) _
  refine ⟨⟨(Program.ofText s).codeLines Program.startDepth, ?_, ?_⟩,
    fun c hc => Code.toNat_lt_of_isPlain (List.all_eq_true.1 hplain c hc), ?_⟩
  · rw [Program.render, Program.code_eq_closedLines, Text.closedLines_append, List.append_assoc]
    rfl
  · intro l hl
    obtain ⟨n, op, rfl⟩ := Program.exists_eq_line_of_mem_codeLines hl
    have hall : statements = Op.all.map Op.statement := rfl
    rw [hall]
    refine ⟨(4 * n, op.statement), ⟨List.mem_map_of_mem op.mem_all, rfl⟩, ?_⟩
    rintro ⟨m, statement⟩ ⟨hstatement, hline⟩
    obtain ⟨op', -, rfl⟩ := List.mem_map.1 hstatement
    obtain ⟨hn, hop⟩ := Op.statement_eq_of_indented_eq hline
    rw [hn, hop]
  · intro t here p place hopens
    let code := (Program.ofText s).render Code.preface
    refine ⟨t.put place (.file (code.map fun c => UInt8.ofNat c.toNat)), ?_, ?_⟩
    · rw [FileTree.lookup_put t hopens.ne_nil, if_pos rfl]
    · intro label hlabel
      rw [List.mem_cons, List.mem_cons, List.mem_singleton] at hlabel
      rcases hlabel with rfl | rfl | rfl
      · exact hopens.write_of_plain hplain (by decide) (e := .utf8) rfl (by decide)
      · exact hopens.write_of_plain hplain (by decide) (e := .ascii) rfl (by decide)
      · exact hopens.write_of_plain hplain (by decide) (e := .latin1) rfl (by decide)

/-- A comment that neither ASCII nor Latin-1 can hold, and that looks like code, leaves
nothing in the file. -/
theorem compilation_written_alike_commented :
    let s : Text := "*/ € \" \x7d [ , \x00\r".toList
    let p : Path := .ofText "o.c".toList
    let code : Text := Code.preface ++
      "    while (*ptr) \x7b\n        *ptr = getchar();\n\x7d\n".toList
    (∃ made, Compilation.ofText ⟨false, false⟩ s = .ok made ∧ made.code = code) ∧
    TextFile.Opens ⟨[]⟩ [] p ["o.c".toList] ∧
    ∃ left : FileTree,
      left.lookup ["o.c".toList] = some (.file (code.map fun c => UInt8.ofNat c.toNat)) ∧
      TextFile.write ⟨[]⟩ [] p "ascii".toList code = (.ok (), left) ∧
      TextFile.read left [] p "latin-1".toList = .ok code := by
  intro s p code
  have hcompile : Compilation.ofText ⟨false, false⟩ s = .ok ⟨code, .ofText s, []⟩ := rfl
  have hopens : TextFile.Opens ⟨[]⟩ [] p ["o.c".toList] := ⟨by decide, rfl⟩
  obtain ⟨-, -, hwritten⟩ := compilation_written_alike hcompile
  obtain ⟨left, hleft, halike⟩ := hwritten ⟨[]⟩ [] p _ hopens
  exact ⟨⟨_, hcompile, rfl⟩, hopens, left, hleft, (halike _ (by decide)).1,
    (halike _ (by decide)).2⟩

end BrainfuckC
