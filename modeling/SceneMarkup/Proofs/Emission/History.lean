import SceneMarkup.Proofs.Emission.Spelling

/-!
# Styling does not depend on history

Trees are emitted one after the other, and each leaves its classes to the next. Which names the
classes of a tree get depends on what was there before; what they stand for does not.

* `sheetAfter`: the sheet after some trees, those that failed included;
* `faithful_sheetAfter`: classes stand for what they are remembered for at every time, and stay;
* `styling_independent_of_history`: a tree, spelled out at any later time, is the same after any two
  histories.
-/

namespace SceneMarkup.Emission

open Scene (Node)
open Layout (keyMeaning)
open Picture (Assets)

variable (options : Options) (assets : Assets)

/-- The sheet after emitting trees one after the other, whether they fail or not. -/
def sheetAfter (sheet : Sheet) (roots : List Node) : Sheet :=
  roots.foldl (fun sheet root => (emitRoot options assets sheet root).2) sheet

theorem sheetAfter_append (sheet : Sheet) (before after : List Node) :
    sheetAfter options assets sheet (before ++ after) =
      sheetAfter options assets (sheetAfter options assets sheet before) after :=
  List.foldl_append

theorem keyed_rootSketch (root : Node) : AllKeyed (rootSketch options assets root) :=
  keyed_drawn options assets root .root

/-- One more tree keeps a registry faithful, and only adds rules to it. -/
theorem faithful_emitRoot {sheet : Sheet} (faithful : sheet.registry.Faithful keyMeaning)
    (root : Node) :
    (emitRoot options assets sheet root).2.registry.Faithful keyMeaning ∧
      (emitRoot options assets sheet root).2.registry.GrownFrom sheet.registry :=
  Sketch.faithful_name faithful (keyed_rootSketch options assets root)

/-- Any number of trees keep a registry faithful, and only add rules to it. -/
theorem faithful_sheetAfter {sheet : Sheet} (faithful : sheet.registry.Faithful keyMeaning)
    (roots : List Node) :
    (sheetAfter options assets sheet roots).registry.Faithful keyMeaning ∧
      (sheetAfter options assets sheet roots).registry.GrownFrom sheet.registry := by
  induction roots generalizing sheet with
  | nil => exact ⟨faithful, faithful.toWellNamed, List.suffix_rfl⟩
  | cons root rest ih =>
    obtain ⟨faithfulNext, grownNext⟩ := faithful_emitRoot options assets faithful root
    obtain ⟨faithfulLast, grownLast⟩ := ih faithfulNext
    exact ⟨faithfulLast, grownLast.trans grownNext⟩

/-- A tree that is emitted is named on the way to any later registry. -/
theorem namedDuring_emitRoot {sheet : Sheet} (faithful : sheet.registry.Faithful keyMeaning)
    {root : Node} {tree : Markup} (emitted : (emitRoot options assets sheet root).1 = .ok tree)
    (after : List Node) :
    (rootSketch options assets root).NamedDuring
      (sheetAfter options assets sheet (root :: after)).registry tree := by
  obtain ⟨faithfulNext, -⟩ := faithful_emitRoot options assets faithful root
  obtain ⟨-, grown⟩ := faithful_sheetAfter options assets faithfulNext after
  exact ⟨keyed_rootSketch options assets root, sheet, _, Prod.ext emitted rfl, faithful, grown⟩

/-- Nothing is remembered at first. -/
theorem faithful_start : Sheet.registry {} |>.Faithful keyMeaning := Registry.faithful_empty

variable {options assets}

/-- **Styling does not depend on history.** A tree that is emitted after some trees is emitted after
any others, too. With the text of its only rule in place of each class, both read the same at any
later time: as the tree reads with the text of what is asked for in place of each class. -/
theorem styling_independent_of_history {root : Node} {before : List Node} {tree : Markup}
    (emitted : (emitRoot options assets (sheetAfter options assets {} before) root).1 = .ok tree)
    (after before' after' : List Node) :
    ∃ tree' spelled,
      (emitRoot options assets (sheetAfter options assets {} before') root).1 = .ok tree' ∧
      (rootSketch options assets root).spelled? = some spelled ∧
      tree.spelled? (sheetAfter options assets {} (before ++ root :: after)).registry =
        some spelled ∧
      tree'.spelled? (sheetAfter options assets {} (before' ++ root :: after')).registry =
        some spelled := by
  have faithful := (faithful_sheetAfter options assets faithful_start before).1
  have faithful' := (faithful_sheetAfter options assets faithful_start before').1
  -- Whether a sketch has faults does not depend on the sheet.
  have sound := (Sketch.exists_name_ok_iff _ _).1 ⟨tree, emitted⟩
  obtain ⟨tree', emitted'⟩ :=
    (Sketch.exists_name_ok_iff (sheetAfter options assets {} before') _).2 sound
  obtain ⟨spelled, sketch, here⟩ :=
    (namedDuring_emitRoot options assets faithful emitted after).spelled
  obtain ⟨spelled', sketch', there⟩ :=
    (namedDuring_emitRoot options assets faithful' emitted' after').spelled
  obtain rfl : spelled = spelled' := Option.some.inj (sketch.symm.trans sketch')
  rw [sheetAfter_append, sheetAfter_append]
  exact ⟨tree', spelled, emitted', sketch, here, there⟩

/-- A row named for the utility of a row, around a box named for a gap. -/
def misleadingRow : Node :=
  .mk { id := "1:1", name := "flex", kind := .frame { mode := .horizontal, itemSpacing := 8 } }
    [.mk { id := "1:2", name := "gap 8", kind := .rectangle, width := 10, height := 10 } []]

/-- A node that cannot be placed. -/
def unplaced : Node := .mk { id := "1:3", kind := .group, x := .infinite false } []

theorem misleadingRow_independent_of_history :
    ∃ tree tree' spelled,
      (emitRoot {} {} (sheetAfter {} {} {} []) misleadingRow).1 = .ok tree ∧
      (emitRoot {} {} (sheetAfter {} {} {} [misleadingRow, unplaced]) misleadingRow).1 = .ok tree' ∧
      (rootSketch {} {} misleadingRow).spelled? = some spelled ∧
      tree.spelled? (sheetAfter {} {} {} [misleadingRow]).registry = some spelled ∧
      tree'.spelled? (sheetAfter {} {} {} [misleadingRow, unplaced, misleadingRow,
        unplaced]).registry =
        some spelled := by
  have sound : (rootSketch {} {} misleadingRow).faults = [] := by decide +kernel
  obtain ⟨tree, emitted⟩ :=
    (Sketch.exists_name_ok_iff (sheetAfter {} {} {} []) (rootSketch {} {} misleadingRow)).2 sound
  obtain ⟨tree', spelled, emitted', sketch, here, there⟩ :=
    styling_independent_of_history emitted [] [misleadingRow, unplaced] [unplaced]
  exact ⟨tree, tree', spelled, emitted, emitted', sketch, here, there⟩

end SceneMarkup.Emission
