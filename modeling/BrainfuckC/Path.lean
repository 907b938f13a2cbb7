import BrainfuckC.Text

/-!
# Paths

A path is where it is anchored and its components. Reading a path drops the
components that say nothing, the empty ones and the single dot; it does not look
at any file, so a double dot stays. One slash in front anchors a path at the
root, and so do three and more; exactly two are kept as they are.

That no component is empty, a single dot or holds a slash is part of the type,
so every path is the reading of its own text (`ofText_render`).
-/

namespace BrainfuckC

/-- Where a path begins: at the place of whoever uses it, or at the root, written
with one slash or with two. -/
inductive Anchor where
  | here
  | root
  | doubleRoot
  deriving DecidableEq

namespace Anchor

/-- The anchor of a text with that many slashes in front. -/
def ofSlashes : Nat → Anchor
  | 0 => here
  | 2 => doubleRoot
  | _ => root

def render : Anchor → Text
  | here => []
  | root => ['/']
  | doubleRoot => ['/', '/']

end Anchor

/-- Whether a piece between two slashes names something. -/
def Path.IsComponent (c : Text) : Prop := c ≠ [] ∧ c ≠ ['.'] ∧ '/' ∉ c

structure Path where
  anchor : Anchor
  components : List Text
  isComponent : ∀ c ∈ components, Path.IsComponent c

namespace Path

def componentsOf (t : Text) : List Text :=
  (t.splitOn '/').filter fun c => decide (c ≠ [] ∧ c ≠ ['.'])

theorem isComponent_of_mem_componentsOf {t c : Text} (h : c ∈ componentsOf t) :
    IsComponent c := by
  rw [componentsOf, List.mem_filter] at h
  have hc := of_decide_eq_true h.2
  exact ⟨hc.1, hc.2, Text.not_mem_of_mem_splitOn h.1⟩

def ofText (t : Text) : Path where
  anchor := .ofSlashes (t.takeWhile (· = '/')).length
  components := componentsOf t
  isComponent _ := isComponent_of_mem_componentsOf

/-- The text of a path. The place of whoever uses it is written as a dot. -/
def render (p : Path) : Text :=
  match p.anchor, p.components with
  | .here, [] => ['.']
  | anchor, components => anchor.render ++ List.intercalate ['/'] components

/-- A slash in front adds no component. -/
@[simp] theorem componentsOf_slash_cons (t : Text) : componentsOf ('/' :: t) = componentsOf t := by
  simp [componentsOf]

/-- Components are found again after they have been put between slashes. -/
theorem componentsOf_intercalate {cs : List Text} (h : ∀ c ∈ cs, IsComponent c) :
    componentsOf (List.intercalate ['/'] cs) = cs := by
  by_cases hne : cs = []
  · subst hne
    rfl
  · rw [componentsOf, Text.splitOn_intercalate hne fun c hc => (h c hc).2.2,
      List.filter_eq_self]
    exact fun c hc => decide_eq_true ⟨(h c hc).1, (h c hc).2.1⟩

/-- What is glued from components does not begin with a slash. -/
theorem takeWhile_slash_intercalate {cs : List Text} (h : ∀ c ∈ cs, IsComponent c) :
    (List.intercalate ['/'] cs).takeWhile (· = '/') = [] := by
  match cs with
  | [] => rfl
  | [] :: _ => exact absurd rfl (h [] List.mem_cons_self).1
  | (x :: xs) :: rest =>
    have hx : x ≠ '/' := fun hx => (h (x :: xs) List.mem_cons_self).2.2 (by simp [hx])
    cases rest <;> simp [List.intercalate, hx]

theorem ofText_render (p : Path) : ofText p.render = p := by
  obtain ⟨anchor, cs, h⟩ := p
  have hcs := componentsOf_intercalate h
  have hfront := takeWhile_slash_intercalate h
  have hrender : (ofText (Path.mk anchor cs h).render).anchor = anchor ∧
      (ofText (Path.mk anchor cs h).render).components = cs := by
    match anchor, cs with
    | .here, [] => exact ⟨rfl, rfl⟩
    | .here, c :: cs => simp [ofText, render, Anchor.render, Anchor.ofSlashes, hcs, hfront]
    | .root, cs => simp [ofText, render, Anchor.render, Anchor.ofSlashes, hcs, hfront]
    | .doubleRoot, cs => simp [ofText, render, Anchor.render, Anchor.ofSlashes, hcs, hfront]
  generalize ofText (Path.mk anchor cs h).render = q at hrender
  obtain ⟨anchor', cs', h'⟩ := q
  obtain ⟨rfl, rfl⟩ := hrender
  rfl

/-- The last component. The anchors by themselves have none. -/
def name (p : Path) : Text := p.components.getLast?.getD []

/-- A name without its extension, which is what follows the last dot. A dot in
front is no start of an extension, and neither is a dot at the end. -/
def stemOf (name : Text) : Text :=
  match name.reverse.span (· ≠ '.') with
  | (_ :: _, _ :: first :: rest) => (first :: rest).reverse
  | _ => name

def stem (p : Path) : Text := stemOf p.name

/-- The file that a compilation is written to if no other is asked for: in the
place where the program runs, named like the source but for the extension. A
source whose stem names no file gets a name of its own. -/
def defaultOutput (p : Path) : Path :=
  if p.stem = [] ∨ p.stem = ['.', '.'] then ofText "out.c".toList
  else ofText (p.stem ++ ".c".toList)

end Path

end BrainfuckC
