import BrainfuckC.Path
import Mathlib.Data.List.TakeDrop

/-!
# The default output

The stem of a name is a beginning of it, so it has no slash, and a stem that is given
an extension is the stem of the name that results (`Path.stemOf_append_extension`). The
default output is such a name: the stem of the input, or another one where that would
name no file, with the extension `.c`. So it is a single component, which stands for a
file in the place where the program runs, and it is its own default output
(`Path.defaultOutput_eq_self`).
-/

namespace BrainfuckC

namespace Path

/-! ## Stems -/

theorem stemOf_append_extension {stem extension : Text} (hstem : stem ≠ [])
    (hextension : extension ≠ []) (hdot : '.' ∉ extension) :
    stemOf (stem ++ '.' :: extension) = stem := by
  obtain ⟨first, rest, hfirst⟩ := List.exists_cons_of_ne_nil (List.reverse_ne_nil_iff.2 hstem)
  obtain ⟨last, front, hlast⟩ :=
    List.exists_cons_of_ne_nil (List.reverse_ne_nil_iff.2 hextension)
  -- a stem is found from the end, where the extension comes first
  have hno : ∀ c ∈ extension.reverse, decide (c ≠ '.') = true := fun c hc =>
    decide_eq_true fun heq => hdot (heq ▸ List.mem_reverse.1 hc)
  have hspan : (stem ++ '.' :: extension).reverse.span (· ≠ '.') =
      (last :: front, '.' :: first :: rest) := by
    rw [List.span_eq_takeWhile_dropWhile, List.reverse_append, List.reverse_cons,
      List.append_assoc, List.singleton_append, List.takeWhile_append_of_pos hno,
      List.dropWhile_append_of_pos hno, List.takeWhile_cons_of_neg (by decide),
      List.dropWhile_cons_of_neg (by decide), List.append_nil, hlast, hfirst]
  rw [stemOf, hspan]
  dsimp only
  rw [← hfirst, List.reverse_reverse]

theorem stemOf_isPrefix (name : Text) : stemOf name <+: name := by
  rw [stemOf]
  split
  · rename_i last front dot first rest hspan
    rw [List.span_eq_takeWhile_dropWhile, Prod.mk.injEq] at hspan
    have hsuffix : dot :: first :: rest <:+ name.reverse :=
      hspan.2 ▸ List.dropWhile_suffix _
    rw [← List.reverse_suffix, List.reverse_reverse]
    exact (List.suffix_cons dot _).trans hsuffix
  · exact List.prefix_rfl

theorem slash_notMem_stem (p : Path) : '/' ∉ p.stem := by
  intro hslash
  have hname : '/' ∈ p.name := (stemOf_isPrefix p.name).subset hslash
  rw [name] at hname
  cases hlast : p.components.getLast? with
  | none => rw [hlast] at hname; cases hname
  | some c =>
    rw [hlast] at hname
    exact (p.isComponent c (List.mem_of_getLast? hlast)).2.2 hname

/-! ## Names as paths -/

/-- The path that is a single name. -/
theorem ofText_of_isComponent {c : Text} (h : IsComponent c) :
    (ofText c).anchor = .here ∧ (ofText c).components = [c] ∧ (ofText c).render = c := by
  have hsingle : ∀ d ∈ [c], IsComponent d := List.forall_mem_singleton.2 h
  have hrender : (Path.mk .here [c] hsingle).render = c := List.append_nil c
  have hread := ofText_render (Path.mk .here [c] hsingle)
  rw [hrender] at hread
  rw [hread]
  exact ⟨rfl, rfl, hrender⟩

/-- A stem that may stand in front of the extension of an output. -/
structure IsOutputStem (stem : Text) : Prop where
  ne_nil : stem ≠ []
  ne_parent : stem ≠ ['.', '.']
  slash_notMem : '/' ∉ stem

theorem IsOutputStem.isComponent {stem : Text} (h : IsOutputStem stem) :
    IsComponent (stem ++ ".c".toList) := by
  refine ⟨by simp, fun heq => ?_, by simp [h.slash_notMem]⟩
  have hlength := congrArg List.length heq
  simp at hlength

theorem IsOutputStem.stem_ofText {stem : Text} (h : IsOutputStem stem) :
    (ofText (stem ++ ".c".toList)).stem = stem := by
  have hname : (ofText (stem ++ ".c".toList)).name = stem ++ ".c".toList := by
    rw [name, (ofText_of_isComponent h.isComponent).2.1]
    rfl
  rw [Path.stem, hname]
  exact stemOf_append_extension h.ne_nil (by decide) (by decide)

/-! ## The default output -/

theorem exists_defaultOutput_eq (p : Path) :
    ∃ stem, IsOutputStem stem ∧ p.defaultOutput = ofText (stem ++ ".c".toList) := by
  by_cases h : p.stem = [] ∨ p.stem = ['.', '.']
  · refine ⟨"out".toList, ⟨by decide, by decide, by decide⟩, ?_⟩
    rw [defaultOutput, if_pos h]
    rfl
  · rw [not_or] at h
    refine ⟨p.stem, ⟨h.1, h.2, p.slash_notMem_stem⟩, ?_⟩
    rw [defaultOutput, if_neg (not_or.2 h)]

theorem defaultOutput_congr {p q : Path} (h : p.components.getLast? = q.components.getLast?) :
    p.defaultOutput = q.defaultOutput := by
  have hstem : p.stem = q.stem := by rw [stem, stem, name, name, h]
  rw [defaultOutput, defaultOutput, hstem]

theorem defaultOutput_eq_self (p : Path) : p.defaultOutput.defaultOutput = p.defaultOutput := by
  obtain ⟨stem, h, hp⟩ := p.exists_defaultOutput_eq
  rw [hp, defaultOutput, h.stem_ofText, if_neg (not_or.2 ⟨h.ne_nil, h.ne_parent⟩)]

/-- Whatever the input is called, the default output is a file with the extension `.c`
in the place where the program runs. It depends on the last component of the input
alone, and it is its own default output. -/
theorem defaultOutput_plain (t : Text) :
    let output := (ofText t).defaultOutput
    output.anchor = .here ∧
    (∃ name, output.components = [name] ∧ output.render = name ∧ '/' ∉ name ∧
      name ≠ ['.'] ∧ name ≠ ['.', '.'] ∧ ".c".toList <:+ name ∧
      output.stem ≠ [] ∧ name = output.stem ++ ".c".toList) ∧
    (∀ u, (ofText u).components.getLast? = (ofText t).components.getLast? →
      (ofText u).defaultOutput = output) ∧
    (ofText output.render).defaultOutput = output ∧ output.defaultOutput = output := by
  intro output
  obtain ⟨stem, h, houtput⟩ := (ofText t).exists_defaultOutput_eq
  obtain ⟨hhere, hcomponents, hrender⟩ := ofText_of_isComponent h.isComponent
  have hstem := h.stem_ofText
  rw [← houtput] at hhere hcomponents hrender hstem
  have hself : output.defaultOutput = output := (ofText t).defaultOutput_eq_self
  refine ⟨hhere, ⟨stem ++ ".c".toList, hcomponents, hrender, h.isComponent.2.2,
    h.isComponent.2.1, ?_, List.suffix_append _ _, ?_, ?_⟩, fun u => defaultOutput_congr, ?_, hself⟩
  · intro hparent
    have hlast := congrArg List.getLast? hparent
    simp at hlast
  · rw [hstem]
    exact h.ne_nil
  · rw [hstem]
  · rw [ofText_render, hself]

/-- The stem of the last component is a double dot, which names no file. -/
theorem defaultOutput_plain_dotted :
    let t : Text := "x/./...a//".toList
    let u : Text := "/...a".toList
    (ofText u).components.getLast? = (ofText t).components.getLast? ∧
      (ofText u).defaultOutput = (ofText t).defaultOutput ∧ (ofText t).stem = ['.', '.'] ∧
      (ofText t).defaultOutput.render = "out.c".toList := by
  intro t u
  have hlast : (ofText u).components.getLast? = (ofText t).components.getLast? := by decide
  exact ⟨hlast, (defaultOutput_plain t).2.2.1 u hlast, by decide, by decide⟩

/-- A dot in front begins no extension, and neither does a dot at the end. -/
example : ["..a", ".x", "a.", "a..b", "...", "/"].map (fun t =>
    (ofText t.toList).defaultOutput.render) =
      ["..c", ".x.c", "a..c", "a..c", "....c", "out.c"].map String.toList := by
  decide

end Path

end BrainfuckC
