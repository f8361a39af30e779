import Mathlib.Data.List.Pairwise
import SceneMarkup.Css.Declaration

/-!
# Properties that get in each other's way

The order of two declarations matters if both set one property, be it that one of them is a
shorthand.

* `lineProperty`: the property of a line of style text;
* `shorthand?`, `sets`: the shorthand of a property, and the properties that a declaration sets;
* `Independent`: no property of one list has to do with one of the other;
* `not_sets_of_independent`: then no property is set from both;
* `flatMap_eq_of_perm`: what comes of lists in any order is the same, if something comes of at most
  one.
-/

namespace SceneMarkup.Css

/-! ### The property of a line -/

/-- The property of a line of style text: what stands in front of the first colon. -/
def lineProperty (line : String) : String := String.ofList (line.toList.takeWhile (· != ':'))

/-- A name without a colon. -/
def IsPlain (property : String) : Prop := ':' ∉ property.toList

instance : DecidablePred IsPlain := fun property =>
  inferInstanceAs (Decidable (':' ∉ property.toList))

theorem ne_colon_of_isPlain {property : String} (plain : IsPlain property) :
    ∀ c ∈ property.toList, (c != ':') = true := by
  intro c mem
  rw [bne_iff_ne]
  rintro rfl
  exact plain mem

theorem lineProperty_append {property : String} (plain : IsPlain property) (rest : String) :
    lineProperty (property ++ (":" ++ rest)) = property := by
  rw [lineProperty, String.toList_append, List.takeWhile_append_of_pos (ne_colon_of_isPlain plain),
    String.toList_append, show ":".toList = [':'] from rfl, List.singleton_append,
    List.takeWhile_cons]
  simp

theorem Declaration.line_eq (d : Declaration) :
    d.line = d.property ++ (":" ++ (" " ++ d.value ++ ";")) := by
  rw [line, text, show ": " = ":" ++ " " from rfl]
  simp only [String.append_assoc]

theorem lineProperty_line {d : Declaration} (plain : IsPlain d.property) :
    lineProperty d.line = d.property := by
  rw [d.line_eq, lineProperty_append plain]

/-- The lines of a rule tell the properties that it declares. -/
theorem map_lineProperty_lines {declarations : List Declaration}
    (plain : ∀ d ∈ declarations, IsPlain d.property) :
    (lines declarations).map lineProperty = declarations.map Declaration.property := by
  rw [lines, List.map_map]
  exact List.map_congr_left fun d mem => lineProperty_line (plain d mem)

/-! ### Shorthands -/

/-- The shorthand of a property, among the properties that elements declare. -/
def shorthand? : String → Option String
  | "row-gap" | "column-gap" => some "gap"
  | "padding-top" | "padding-right" | "padding-bottom" | "padding-left" => some "padding"
  | "background-clip" | "-webkit-background-clip" => some "background"
  | _ => none

/-- A declaration of one property sets another: the same, or a longhand of it. -/
def sets (declared property : String) : Bool :=
  declared == property || shorthand? property == some declared

theorem sets_eq_true_iff {declared property : String} :
    sets declared property = true ↔ declared = property ∨ shorthand? property = some declared := by
  simp [sets]

theorem sets_eq_false_iff {declared property : String} :
    sets declared property = false ↔ declared ≠ property ∧ shorthand? property ≠ some declared := by
  simp [sets]

/-- No property of one list sets one of the other. -/
def Independent (a b : List String) : Prop :=
  ∀ p ∈ a, ∀ q ∈ b, sets p q = false ∧ sets q p = false

instance (a b : List String) : Decidable (Independent a b) :=
  inferInstanceAs (Decidable (∀ p ∈ a, ∀ q ∈ b, sets p q = false ∧ sets q p = false))

theorem Independent.symm {a b : List String} (h : Independent a b) : Independent b a :=
  fun p hp q hq => (h q hq p hp).symm

theorem Independent.mono {a a' b b' : List String} (h : Independent a b) (ha : a' ⊆ a)
    (hb : b' ⊆ b) :
    Independent a' b' :=
  fun p hp q hq => h p (ha hp) q (hb hq)

theorem Independent.disjoint {a b : List String} (h : Independent a b) : List.Disjoint a b :=
  fun p hp hq => (sets_eq_false_iff.1 (h p hp p hq).1).1 rfl

/-- No property is set from both of two independent lists. -/
theorem not_sets_of_independent {a b : List String} (h : Independent a b) {p q property : String}
    (hp : p ∈ a) (hq : q ∈ b) (first : sets p property = true) : sets q property = false := by
  obtain ⟨here, there⟩ := h p hp q hq
  obtain ⟨differ, notLonghand⟩ := sets_eq_false_iff.1 here
  obtain ⟨-, notLonghand'⟩ := sets_eq_false_iff.1 there
  by_contra second
  rcases sets_eq_true_iff.1 first with rfl | first <;>
    rcases sets_eq_true_iff.1 (eq_true_of_ne_false second) with rfl | second
  · exact differ rfl
  · exact notLonghand' second
  · exact notLonghand first
  · -- A property has one shorthand.
    exact differ (Option.some.inj (first.symm.trans second))

/-! ### In any order -/

/-- What comes of lists in any order is the same, if something comes of at most one of them. -/
theorem flatMap_eq_of_perm {α β : Type} {f : α → List β} {l l' : List α} (same : l.Perm l')
    (alone : l.Pairwise fun a b => f a = [] ∨ f b = []) : l.flatMap f = l'.flatMap f := by
  induction same with
  | nil => rfl
  | cons a _ ih => rw [List.flatMap_cons, List.flatMap_cons, ih (List.pairwise_cons.1 alone).2]
  | swap a b rest =>
    have two : f b = [] ∨ f a = [] := (List.pairwise_cons.1 alone).1 a List.mem_cons_self
    rcases two with empty | empty <;> simp [empty]
  | trans first _ ih ih' =>
    have alone' := (first.pairwise_iff fun h => h.symm).1 alone
    exact (ih alone).trans (ih' alone')

end SceneMarkup.Css
