import ApiToolbox.Proofs.Registry.Names
import Mathlib.Data.List.Sort

/-! Registries of documents that change. Operations keep all that they are when documents are added
behind theirs: a name that a newcomer would share is the newcomer's to give up. And an operation that is
not chosen is to the others as if it had never been declared. -/

namespace ApiToolbox

/-- A document with those of its operations that are chosen. -/
def PathDocument.restrict (d : Discovery) (doc : PathDocument) : PathDocument :=
  { doc with operations := doc.operations.filter fun decl => d.allows decl.method.name doc.path }

namespace Registry

/-! ### Documents that are added -/

theorem chosen_append (docs more : List PathDocument) (d : Discovery) :
    chosen (docs ++ more) d = chosen docs d ++ chosen more d := by
  rw [chosen, List.flatMap_append, List.filter_append]
  rfl

/-- Naming goes on with the names that it has given in use. -/
theorem name_append (used : List String) (l l' : List (PathDocument × OperationDecl)) :
    name used (l ++ l') =
      name used l ++ name (((name used l).map (·.tool)).reverse ++ used) l' := by
  induction l generalizing used with
  | nil => rfl
  | cons e rest ih =>
    obtain ⟨doc, decl⟩ := e
    rw [List.cons_append, name, ih, name, List.cons_append]
    simp [operation]

theorem subperm_build_append (docs more : List PathDocument) (d : Discovery) :
    (build docs d).operations.Subperm (build (docs ++ more) d).operations := by
  have hgrown := operations_build_perm (docs ++ more) d
  rw [chosen_append, name_append] at hgrown
  have hfirst : (name [ToolName.reserved] (chosen docs d)).Subperm
      (build (docs ++ more) d).operations :=
    (List.sublist_append_left _ _).subperm.trans hgrown.symm.subperm
  exact (operations_build_perm docs d).subperm.trans hfirst

/-- Documents that are added behind others leave all of their operations in place: each keeps its name
and everything else, stands among the others as before, and is found as before. -/
theorem sublist_build_append (docs more : List PathDocument) (d : Discovery) :
    (build docs d).operations.Sublist (build (docs ++ more) d).operations ∧
      ∀ tool op, (build docs d).get? tool = some op →
        (build (docs ++ more) d).get? tool = some op := by
  have hsubperm := subperm_build_append docs more d
  constructor
  · have : Std.Antisymm fun a b : Operation => a.tool < b.tool :=
      ⟨fun _ _ hab hba => absurd hab (lt_asymm hba)⟩
    exact List.sublist_of_subperm_of_pairwise hsubperm (pairwise_tool_lt_build docs d)
      (pairwise_tool_lt_build (docs ++ more) d)
  · intro tool op hget
    obtain ⟨hmem, htool⟩ := (get?_build_eq_some_iff docs d tool op).mp hget
    exact (get?_build_eq_some_iff (docs ++ more) d tool op).mpr ⟨hsubperm.subset hmem, htool⟩

/-- Two newcomers whose paths suggest a name that is taken, as is that name with the method in front. -/
theorem sublist_build_append_items :
    let declare (path : String) : PathDocument := ⟨path, [], [⟨.get, none, none, [], none⟩]⟩
    let docs := [declare "/items", declare "/get-items"]
    let more := [declare "/items/", declare "items"]
    let op := operation "items" (declare "/items") ⟨.get, none, none, [], none⟩
    (name [ToolName.reserved] (chosen (docs ++ more) (.all true))).map (·.tool) =
        ["items", "get_items", "get_items_2", "get_items_3"] ∧
      (build docs (.all true)).get? "items" = some op ∧
      (build (docs ++ more) (.all true)).get? "items" = some op := by
  intro declare docs more op
  have hmem : op ∈ (build docs (.all true)).operations :=
    (operations_build_perm docs _).mem_iff.mpr (by decide +kernel)
  have hget : (build docs (.all true)).get? "items" = some op :=
    (get?_build_eq_some_iff docs _ "items" op).mpr ⟨hmem, rfl⟩
  exact ⟨by decide +kernel, hget, (sublist_build_append docs more (.all true)).2 "items" op hget⟩

/-! ### Operations that are not chosen -/

/-- Of its document, an operation has the path and the parameters that are shared. -/
theorem name_map {f : PathDocument → PathDocument}
    (hf : ∀ doc, (f doc).path = doc.path ∧ (f doc).shared = doc.shared) (used : List String)
    (l : List (PathDocument × OperationDecl)) :
    name used (l.map fun (doc, decl) => (f doc, decl)) = name used l := by
  induction l generalizing used with
  | nil => rfl
  | cons e rest ih =>
    obtain ⟨doc, decl⟩ := e
    obtain ⟨hpath, hshared⟩ := hf doc
    have hsame (tool : String) : operation tool (f doc) decl = operation tool doc decl := by
      rw [operation, operation, hpath, hshared]
    rw [List.map_cons, name, ih, hpath, hsame, name]

theorem chosen_restrict (docs : List PathDocument) (d : Discovery) :
    chosen (docs.map (·.restrict d)) (.all true) =
      (chosen docs d).map fun (doc, decl) => (doc.restrict d, decl) := by
  have hall : chosen (docs.map (·.restrict d)) (.all true) =
      docs.flatMap fun doc => (doc.restrict d).operations.map (doc.restrict d, ·) := by
    rw [chosen, List.flatMap_map]
    exact List.filter_eq_self.mpr fun _ _ => rfl
  rw [hall, chosen, List.filter_flatMap, List.map_flatMap]
  congr 1
  funext doc
  rw [List.filter_map, List.map_map]
  rfl

/-- What is not chosen leaves no trace: the registry is, with its names, its order and all that is found
in it, that of the documents from which it has been deleted. -/
theorem build_restrict (docs : List PathDocument) (d : Discovery) :
    build docs d = build (docs.map (·.restrict d)) (.all true) := by
  have hname := name_map (f := (·.restrict d)) (fun _ => ⟨rfl, rfl⟩) [ToolName.reserved] (chosen docs d)
  rw [build, build, chosen_restrict, hname]

end Registry
end ApiToolbox
